import KoRTOS.Hal.I2c
import KoRTOS.Library.Accesses

/-!
# The I2C driver: reception, access by access

Which byte is acknowledged depends on when `CR1` is written, and a flag can be cleared by
the reads that test another. `I2C_master_receive` and `I2C_master_receive_IT` with
`I2C_EV_IRQ_handling` are therefore programs of register accesses here, with the peripheral
in front of them: it sends the address, receives bytes and answers each with the ACK bit of
that moment, all by itself.
-/

namespace KoRTOS.Hal

open RegisterBits Accesses

inductive I2cAccess where
  | readCr1
  | writeCr1 (value : U32)
  | readCr2
  | writeCr2 (value : U32)
  | readSr1
  | readSr2
  | readDr
  | writeDr (value : U32)
  deriving DecidableEq, Repr

/-- How far a reception is. `sb` and `addr` are named after the flags that are set then. -/
inductive I2cStage where
  | idle
  | starting
  | sb
  | addressing
  | addr
  | clocking
  deriving DecidableEq, Repr

/-- What the peripheral does by itself: it has sent the start condition, the slave has answered
its address, a byte has come in. -/
inductive I2cChange where
  | sb
  | addr
  | byte
  deriving DecidableEq, Repr

/-- `answers` holds how the bytes that came in were answered, and `taken` says how many of them
were read from `DR`. -/
structure I2cDevice where
  cr1 : U32
  cr2 : U32
  stage : I2cStage
  sr1Read : Bool
  answers : List Bool
  taken : Nat

inductive I2cFlag where
  | sb
  | addr
  | rxne
  deriving DecidableEq, Repr

namespace I2cDevice

def shows (device : I2cDevice) : I2cFlag → Bool
  | .sb => device.stage = .sb
  | .addr => device.stage = .addr
  | .rxne => device.taken < device.answers.length

/-- A master does not see STOPF. The other flags are left open. -/
def sr1 (w : U32) (device : I2cDevice) : U32 :=
  withBit i2cSr1Sb (device.shows .sb) <| withBit i2cSr1Addr (device.shows .addr) <|
    withBit i2cSr1Rxne (device.shows .rxne) <| withBit i2cSr1Stopf false w

/-- MSL is set with the start condition. -/
def sr2 (w : U32) (device : I2cDevice) : U32 :=
  if device.stage = .idle ∨ device.stage = .starting then w else withBit i2cSr2Msl true w

/-- `words` is what the slave sends. ADDR is cleared by a read of `SR1` and then one of `SR2`,
which releases the clock. -/
def respond (words : Nat → U32) : I2cAccess → U32 → I2cDevice → U32 × I2cDevice
  | .readCr1, _, device => (device.cr1, device)
  | .writeCr1 value, _, device =>
    (0, { device with
      cr1 := value
      stage := if value.getLsbD i2cCr1Start then .starting else device.stage })
  | .readCr2, _, device => (device.cr2, device)
  | .writeCr2 value, _, device => (0, { device with cr2 := value })
  | .readSr1, w, device => (device.sr1 w, { device with sr1Read := true })
  | .readSr2, w, device =>
    (device.sr2 w, { device with
      sr1Read := false
      stage := if device.stage = .addr ∧ device.sr1Read = true then .clocking else device.stage })
  | .readDr, w, device =>
    if device.shows .rxne then (words device.taken, { device with taken := device.taken + 1 })
    else (w, device)
  | .writeDr _, _, device =>
    (0, { device with stage := if device.stage = .sb then .addressing else device.stage })

/-- A byte is clocked in if there is room for it: `ahead` bytes may wait to be read. After a byte
that was not acknowledged the slave sends no more. -/
def occur (ahead : Nat) : I2cChange → I2cDevice → I2cDevice
  | .sb, device =>
    if device.stage = .starting then
      { device with stage := .sb, cr1 := device.cr1 &&& ~~~bit i2cCr1Start }
    else device
  | .addr, device =>
    if device.stage = .addressing then { device with stage := .addr } else device
  | .byte, device =>
    if device.stage = .clocking ∧ device.answers.all id = true ∧
        device.answers.length < device.taken + ahead then
      { device with answers := device.answers ++ [device.cr1.getLsbD i2cCr1Ack] }
    else device

end I2cDevice

/-- `ahead` is 1 for a peripheral that has a data register only, and 2 if it has a shift register
in front of it. -/
def i2cDevice (words : Nat → U32) (ahead : Nat) : Device I2cAccess U32 U32 I2cChange I2cDevice :=
  ⟨I2cDevice.respond words, I2cDevice.occur ahead⟩

abbrev I2cProg (α : Type) := Prog I2cAccess U32 α

namespace I2cProg

def perform (i : I2cAccess) : I2cProg U32 := .access i .pure

/-- `CR1 |= 1 << i` -/
def setCr1 (i : Nat) : I2cProg Unit := do
  let cr1 ← perform .readCr1
  let _ ← perform (.writeCr1 (cr1 ||| bit i))
  pure ()

/-- `CR1 &= ~(1 << i)` -/
def clearCr1 (i : Nat) : I2cProg Unit := do
  let cr1 ← perform .readCr1
  let _ ← perform (.writeCr1 (cr1 &&& ~~~bit i))
  pure ()

def setCr2 (i : Nat) : I2cProg Unit := do
  let cr2 ← perform .readCr2
  let _ ← perform (.writeCr2 (cr2 ||| bit i))
  pure ()

def clearCr2 (i : Nat) : I2cProg Unit := do
  let cr2 ← perform .readCr2
  let _ ← perform (.writeCr2 (cr2 &&& ~~~bit i))
  pure ()

def generateStart : I2cProg Unit := setCr1 i2cCr1Start

def generateStop : I2cProg Unit := setCr1 i2cCr1Stop

def manageAcking (enable : U8) : I2cProg Unit :=
  if enable = ENABLE then setCr1 i2cCr1Ack
  else if enable = DISABLE then clearCr1 i2cCr1Ack
  else pure ()

def executeAddrPhase (slaveAddr readOrWrite : U8) : I2cProg Unit := do
  let slaveAddr := slaveAddr <<< 1
  let slaveAddr :=
    if readOrWrite = WRITE then slaveAddr &&& ~~~1
    else if readOrWrite = READ then slaveAddr ||| 1
    else slaveAddr
  let _ ← perform (.writeDr (slaveAddr.setWidth 32))
  pure ()

def clearAddrFlag : I2cProg Unit := do
  let _ ← perform .readSr1
  let _ ← perform .readSr2
  pure ()

/-- `while(I2C_get_flag_status(p_I2Cx, 1, flag) == 0);` -/
def awaitFlag (flag : Nat) : I2cProg Unit :=
  .await .readSr1 (fun sr1 => sr1.getLsbD flag) (.pure ())

end I2cProg

/-- `stores` is what was written to memory. -/
structure I2cHandle where
  ackControl : U8
  pTxBuffer : Nat
  pRxBuffer : Nat
  txLen : U32
  rxLen : U32
  txRxState : I2cState
  slaveAddr : U8
  rxSize : U32
  repeatedStart : U8
  stores : List (Nat × U8)
  events : List I2cEvent

namespace I2cHandle

open I2cProg

def store (p : Nat) (dr : U32) (handle : I2cHandle) : I2cHandle :=
  { handle with stores := handle.stores ++ [(p, dr.setWidth 8)] }

def eventCallback (event : I2cEvent) (handle : I2cHandle) : I2cHandle :=
  { handle with events := handle.events ++ [event] }

def stopUnlessRepeated (rsEnable : U8) : I2cProg Unit :=
  if rsEnable = i2cRsDisable then generateStop else pure ()

def restoreAcking (handle : I2cHandle) : I2cProg Unit :=
  if handle.ackControl = i2cAckEnable then manageAcking ENABLE else pure ()

/-- What is done before the second-last byte is read. -/
def refuseLast (rsEnable : U8) : I2cProg Unit := do
  manageAcking DISABLE
  stopUnlessRepeated rsEnable

/-- The loop over the bytes that are left. -/
def receiveBytes (rsEnable : U8) : Nat → Nat → I2cHandle → I2cProg I2cHandle
  | 0, _, handle => pure handle
  | len + 1, pRxBuffer, handle => do
    awaitFlag i2cSr1Rxne
    (if len + 1 = 2 then refuseLast rsEnable else pure ())
    let dr ← perform .readDr
    receiveBytes rsEnable len (pRxBuffer + 1) (handle.store pRxBuffer dr)

def receiveOne (rsEnable : U8) (pRxBuffer : Nat) (handle : I2cHandle) : I2cProg I2cHandle := do
  manageAcking DISABLE
  clearAddrFlag
  awaitFlag i2cSr1Rxne
  stopUnlessRepeated rsEnable
  let dr ← perform .readDr
  pure (handle.store pRxBuffer dr)

def receiveMany (rsEnable : U8) (len : U32) (pRxBuffer : Nat) (handle : I2cHandle) :
    I2cProg I2cHandle := do
  clearAddrFlag
  receiveBytes rsEnable len.toNat pRxBuffer handle

def masterReceive (handle : I2cHandle) (pRxBuffer : Nat) (len : U32) (slaveAddr rsEnable : U8) :
    I2cProg I2cHandle := do
  generateStart
  awaitFlag i2cSr1Sb
  executeAddrPhase slaveAddr READ
  awaitFlag i2cSr1Addr
  let handle ←
    (if len = 1 then receiveOne rsEnable pRxBuffer handle
    else receiveMany rsEnable len pRxBuffer handle)
  restoreAcking handle
  pure handle

/-- The fields are set before the first access. -/
def masterReceiveIt (handle : I2cHandle) (pRxBuffer : Nat) (len : U32)
    (slaveAddr rsEnable : U8) : I2cHandle × I2cProg I2cState :=
  if handle.txRxState ≠ .busyRx ∧ handle.txRxState ≠ .busyTx then
    ({ handle with
        pRxBuffer := pRxBuffer
        rxLen := len
        rxSize := len
        txRxState := .busyRx
        repeatedStart := rsEnable
        slaveAddr := slaveAddr },
      do
        generateStart
        setCr2 i2cCr2Itbufen
        setCr2 i2cCr2Itevten
        setCr2 i2cCr2Iterren
        pure handle.txRxState)
  else (handle, pure handle.txRxState)

def closeSend (handle : I2cHandle) : I2cProg I2cHandle := do
  clearCr2 i2cCr2Itbufen
  clearCr2 i2cCr2Itevten
  restoreAcking handle
  pure { handle with txRxState := .ready, pTxBuffer := NULL, txLen := 0 }

def closeReceive (handle : I2cHandle) : I2cProg I2cHandle := do
  clearCr2 i2cCr2Itbufen
  clearCr2 i2cCr2Itevten
  restoreAcking handle
  pure { handle with txRxState := .ready, pRxBuffer := NULL, rxLen := 0, rxSize := 0 }

def masterTxeHandler (memory : Nat → U8) (handle : I2cHandle) : I2cProg I2cHandle :=
  if 0 < handle.txLen then do
    let _ ← perform (.writeDr ((memory handle.pTxBuffer).setWidth 32))
    pure { handle with pTxBuffer := handle.pTxBuffer + 1, txLen := handle.txLen - 1 }
  else pure handle

/-- `if(p_I2C_Handle->Rx_size == 1)` -/
def receiveOnly (handle : I2cHandle) : I2cProg I2cHandle :=
  if handle.rxSize = 1 then do
    let dr ← perform .readDr
    pure { handle.store handle.pRxBuffer dr with rxLen := handle.rxLen - 1 }
  else pure handle

/-- `if (p_I2C_Handle->Rx_size > 1)` -/
def receiveNext (handle : I2cHandle) : I2cProg I2cHandle :=
  if 1 < handle.rxSize then do
    (if handle.rxLen = 2 then manageAcking DISABLE else pure ())
    let dr ← perform .readDr
    pure { handle.store handle.pRxBuffer dr with
      rxLen := handle.rxLen - 1
      pRxBuffer := handle.pRxBuffer + 1 }
  else pure handle

/-- `if(p_I2C_Handle->Rx_len == 0)` -/
def completeReceive (handle : I2cHandle) : I2cProg I2cHandle :=
  if handle.rxLen = 0 then do
    stopUnlessRepeated handle.repeatedStart
    let handle ← closeReceive handle
    pure (handle.eventCallback .rxCmplt)
  else pure handle

def masterRxneHandler (handle : I2cHandle) : I2cProg I2cHandle := do
  let handle ← receiveOnly handle
  let handle ← receiveNext handle
  completeReceive handle

def checkSb (temp2 : Bool) (handle : I2cHandle) : I2cProg I2cHandle := do
  let sr1 ← perform .readSr1
  if temp2 && sr1.getLsbD i2cSr1Sb then
    if handle.txRxState = .busyRx then do
      executeAddrPhase handle.slaveAddr READ
      pure handle
    else if handle.txRxState = .busyTx then do
      executeAddrPhase handle.slaveAddr WRITE
      pure handle
    else pure handle
  else pure handle

def checkAddr (temp2 : Bool) (handle : I2cHandle) : I2cProg I2cHandle := do
  let sr1 ← perform .readSr1
  if temp2 && sr1.getLsbD i2cSr1Addr then do
    let sr2 ← perform .readSr2
    if sr2.getLsbD i2cSr2Msl then
      if handle.txRxState = .busyRx then
        if handle.rxSize = 1 then do
          clearCr1 i2cCr1Ack
          clearAddrFlag
          pure handle
        else pure handle
      else do
        clearAddrFlag
        pure handle
    else do
      clearAddrFlag
      pure handle
  else pure handle

/-- BTF and TXE are both set. -/
def finishSend (handle : I2cHandle) : I2cProg I2cHandle := do
  (if handle.txLen = 0 ∧ handle.repeatedStart = i2cRsDisable then generateStop else pure ())
  let handle ← closeSend handle
  pure (handle.eventCallback .txCmplt)

def checkBtf (temp2 : Bool) (handle : I2cHandle) : I2cProg I2cHandle := do
  let sr1 ← perform .readSr1
  if temp2 && sr1.getLsbD i2cSr1Btf then
    if handle.txRxState = .busyTx then do
      let sr1 ← perform .readSr1
      if sr1.getLsbD i2cSr1Txe then finishSend handle else pure handle
    else pure handle
  else pure handle

/-- `CR1 |= 0` is a dummy write. -/
def checkStopf (temp2 : Bool) (handle : I2cHandle) : I2cProg I2cHandle := do
  let sr1 ← perform .readSr1
  if temp2 && sr1.getLsbD i2cSr1Stopf then do
    let cr1 ← perform .readCr1
    let _ ← perform (.writeCr1 (cr1 ||| 0))
    pure (handle.eventCallback .stop)
  else pure handle

def checkTxe (memory : Nat → U8) (temp1 temp2 : Bool) (handle : I2cHandle) :
    I2cProg I2cHandle := do
  let sr1 ← perform .readSr1
  if temp1 && temp2 && sr1.getLsbD i2cSr1Txe then do
    let sr2 ← perform .readSr2
    if sr2.getLsbD i2cSr2Msl then
      if handle.txRxState = .busyTx then masterTxeHandler memory handle else pure handle
    else do
      let sr2 ← perform .readSr2
      if sr2.getLsbD i2cSr2Tra then pure (handle.eventCallback .dataReq) else pure handle
  else pure handle

def checkRxne (temp1 temp2 : Bool) (handle : I2cHandle) : I2cProg I2cHandle := do
  let sr1 ← perform .readSr1
  if temp1 && temp2 && sr1.getLsbD i2cSr1Rxne then do
    let sr2 ← perform .readSr2
    if sr2.getLsbD i2cSr2Msl then
      if handle.txRxState = .busyRx then masterRxneHandler handle else pure handle
    else do
      let sr2 ← perform .readSr2
      if sr2.getLsbD i2cSr2Tra = false then pure (handle.eventCallback .dataRec) else pure handle
  else pure handle

def evIrqHandling (memory : Nat → U8) (handle : I2cHandle) : I2cProg I2cHandle := do
  let cr2 ← perform .readCr2
  let temp1 := cr2.getLsbD i2cCr2Itbufen
  let cr2 ← perform .readCr2
  let temp2 := cr2.getLsbD i2cCr2Itevten
  let handle ← checkSb temp2 handle
  let handle ← checkAddr temp2 handle
  let handle ← checkBtf temp2 handle
  let handle ← checkStopf temp2 handle
  let handle ← checkTxe memory temp1 temp2 handle
  checkRxne temp1 temp2 handle

end I2cHandle

/-- A call of the driver, and the peripheral it meets: ACK is configured and set, and no transfer is
going on. -/
structure I2cReception where
  bus : Bus
  ahead : Nat
  cr1 : U32
  cr2 : U32
  sr1Read : Bool
  handle : I2cHandle
  pRxBuffer : Nat
  len : U32
  slaveAddr : U8
  rsEnable : U8
  ahead_pos : 0 < ahead
  len_ne_zero : len ≠ 0
  acking : cr1.getLsbD i2cCr1Ack = true
  ackEnabled : handle.ackControl = i2cAckEnable
  free : handle.txRxState = .ready

def I2cReception.device (r : I2cReception) : I2cDevice := ⟨r.cr1, r.cr2, .idle, r.sr1Read, [], 0⟩

/-- A change of the peripheral, an event interrupt, or the next access of the processor, with what
the answer to it leaves open. -/
inductive I2cInput where
  | change (e : I2cChange)
  | interrupt
  | access (w : U32)

def I2cInput.role : I2cInput → Role U32 I2cChange
  | .change e => .occur e
  | .interrupt => .other
  | .access w => .access w

section Systems

variable (words : Nat → U32) (ahead : Nat)

/-- The polling call enables no interrupt. -/
def pollingStep : I2cInput → I2cProg I2cHandle × I2cDevice → I2cProg I2cHandle × I2cDevice
  | .change e, s => (s.1, (i2cDevice words ahead).occur e s.2)
  | .interrupt, s => s
  | .access w, s => (i2cDevice words ahead).advance w s

/-- `call` is what is left of `I2C_master_receive_IT`, and `handler` what is left of the invocation
of the handler that is active. -/
structure I2cItState where
  device : I2cDevice
  handle : I2cHandle
  call : I2cProg I2cState
  handler : Option (I2cProg I2cHandle)

namespace I2cItState

/-- The handler has come to `p`. It returns as soon as nothing is left to do. -/
def resume (p : I2cProg I2cHandle) (s : I2cItState) : I2cItState :=
  match p with
  | .pure handle => { s with handle := handle, handler := none }
  | p => { s with handler := some p }

/-- The call waits while the handler is active. -/
def step (memory : Nat → U8) : I2cInput → I2cItState → I2cItState
  | .change e, s => { s with device := (i2cDevice words ahead).occur e s.device }
  | .interrupt, s =>
    match s.handler with
    | some _ => s
    | none => s.resume (s.handle.evIrqHandling memory)
  | .access w, s =>
    match s.handler with
    | some p =>
      let next := (i2cDevice words ahead).advance w (p, s.device)
      { s with device := next.2 }.resume next.1
    | none =>
      let next := (i2cDevice words ahead).advance w (s.call, s.device)
      { s with call := next.1, device := next.2 }

def next? (s : I2cItState) : Option I2cAccess :=
  match s.handler with
  | some p => p.next?
  | none => s.call.next?

end I2cItState
end Systems

end KoRTOS.Hal
