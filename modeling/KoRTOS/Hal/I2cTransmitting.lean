import KoRTOS.Hal.I2cReceiving

/-!
# The I2C driver: transmission by polling

`I2C_master_send` as a program of register accesses, with the peripheral in front of it: it
sends the address and then, one after the other, the bytes that are written to `DR`. While
one is on the line the next may wait. The slave acknowledges all of them.
-/

namespace KoRTOS.Hal

open RegisterBits Accesses

/-- `line` holds the bytes that the slave got, after the address. -/
structure I2cTransmitter where
  cr1 : U32
  stage : I2cStage
  sr1Read : Bool
  dr : Option U8
  shift : Option U8
  address : List U8
  line : List U8
  starts : Nat
  stops : Nat

namespace I2cTransmitter

def txe (device : I2cTransmitter) : Bool :=
  decide (device.stage = .clocking) && device.dr.isNone

/-- Nothing waits and nothing is on the line. -/
def btf (device : I2cTransmitter) : Bool :=
  device.txe && device.shift.isNone && !device.line.isEmpty

def sr1 (w : U32) (device : I2cTransmitter) : U32 :=
  withBit i2cSr1Sb (decide (device.stage = .sb)) <|
    withBit i2cSr1Addr (decide (device.stage = .addr)) <|
      withBit i2cSr1Txe device.txe <| withBit i2cSr1Btf device.btf w

/-- A byte that is written while the shift register is empty goes there at once. -/
def write (value : U8) (device : I2cTransmitter) : I2cTransmitter :=
  match device.stage with
  | .sb => { device with stage := .addressing, address := device.address ++ [value] }
  | .clocking =>
    match device.shift with
    | none => { device with shift := some value }
    | some _ => { device with dr := some value }
  | _ => device

/-- A condition is requested when its bit in `CR1` becomes set. -/
def control (value : U32) (device : I2cTransmitter) : I2cTransmitter :=
  if value.getLsbD i2cCr1Start && !device.cr1.getLsbD i2cCr1Start then
    { device with cr1 := value, stage := .starting, starts := device.starts + 1 }
  else if value.getLsbD i2cCr1Stop && !device.cr1.getLsbD i2cCr1Stop then
    { device with cr1 := value, stage := .idle, stops := device.stops + 1 }
  else { device with cr1 := value }

def respond : I2cAccess → U32 → I2cTransmitter → U32 × I2cTransmitter
  | .readCr1, _, device => (device.cr1, device)
  | .writeCr1 value, _, device => (0, device.control value)
  | .readCr2, w, device => (w, device)
  | .writeCr2 _, _, device => (0, device)
  | .readSr1, w, device => (device.sr1 w, { device with sr1Read := true })
  | .readSr2, w, device =>
    (w, { device with
      sr1Read := false
      stage := if device.stage = .addr ∧ device.sr1Read = true then .clocking else device.stage })
  | .readDr, w, device => (w, device)
  | .writeDr value, _, device => (0, device.write (value.setWidth 8))

def occur : I2cChange → I2cTransmitter → I2cTransmitter
  | .sb, device =>
    if device.stage = .starting then
      { device with stage := .sb, cr1 := device.cr1 &&& ~~~bit i2cCr1Start }
    else device
  | .addr, device =>
    if device.stage = .addressing then { device with stage := .addr } else device
  | .byte, device =>
    match device.shift with
    | none => device
    | some value =>
      { device with line := device.line ++ [value], shift := device.dr, dr := none }

end I2cTransmitter

def i2cTransmitter : Device I2cAccess U32 U32 I2cChange I2cTransmitter :=
  ⟨I2cTransmitter.respond, I2cTransmitter.occur⟩

namespace I2cProg

/-- The loop over the bytes that are left. -/
def sendBytes (memory : Nat → U8) : Nat → Nat → I2cProg Unit
  | 0, _ => pure ()
  | len + 1, pTxBuffer => do
    awaitFlag i2cSr1Txe
    let _ ← perform (.writeDr ((memory pTxBuffer).setWidth 32))
    sendBytes memory len (pTxBuffer + 1)

def masterSend (memory : Nat → U8) (pTxBuffer : Nat) (len : U32) (slaveAddr rsEnable : U8) :
    I2cProg Unit := do
  generateStart
  awaitFlag i2cSr1Sb
  executeAddrPhase slaveAddr WRITE
  awaitFlag i2cSr1Addr
  clearAddrFlag
  sendBytes memory len.toNat pTxBuffer
  awaitFlag i2cSr1Txe
  awaitFlag i2cSr1Btf
  I2cHandle.stopUnlessRepeated rsEnable

end I2cProg
end KoRTOS.Hal
