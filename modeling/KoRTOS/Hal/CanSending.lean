import KoRTOS.Hal.CanTx
import KoRTOS.Library.Accesses

/-!
# The CAN driver: a frame on its way to the bus

`CAN_transmit` as a program of register accesses, with the peripheral in front of it. A frame
is written to a mailbox one register at a time, and the peripheral takes what is there when
the transmission is requested.
-/

namespace KoRTOS.Hal

open RegisterBits Accesses

inductive CanAccess where
  | readTsr
  | writeTsr (value : U32)
  | readTir (mailbox : Nat)
  | writeTir (mailbox : Nat) (value : U32)
  | writeTdtr (mailbox : Nat) (value : U32)
  | writeTdlr (mailbox : Nat) (value : U32)
  | writeTdhr (mailbox : Nat) (value : U32)

structure CanChange where
  mailbox : Nat
  ok : Bool
  lost : Bool
  failed : Bool

/-- `requested` and `sent` hold what was in a mailbox when its transmission was requested, and when
it was on the bus. -/
structure CanTransmitter where
  tsr : U32
  mailboxes : Nat → CanMailbox
  requested : List CanMailbox
  sent : List CanMailbox

def canTsrCode (tsr : U32) : Nat := ((tsr &&& canTsrCodeMsk) >>> canTsrCodePos).toNat

namespace CanTransmitter

def vacant (device : CanTransmitter) (mailbox : Nat) : Bool :=
  decide (mailbox < 3) && (txFlags device.tsr mailbox).tme

def lowestVacant (device : CanTransmitter) : Nat :=
  if device.vacant 0 then 0 else if device.vacant 1 then 1 else 2

/-- CODE names a mailbox that is empty if there is one. Which one it is, and LOW, are left open. -/
def shownTsr (w : U32) (device : CanTransmitter) : U32 :=
  if (device.vacant 0 || device.vacant 1 || device.vacant 2) && !device.vacant (canTsrCode w) then
    prioritiesTsr (BitVec.ofNat 32 device.lowestVacant <<< canTsrCodePos) device.tsr
  else prioritiesTsr w device.tsr

/-- The registers of a mailbox are protected until it is empty. -/
def load (mailbox : Nat) (write : CanMailbox → CanMailbox) (device : CanTransmitter) :
    CanTransmitter :=
  if device.vacant mailbox then
    { device with
      mailboxes := Function.update device.mailboxes mailbox (write (device.mailboxes mailbox)) }
  else device

def request (mailbox : Nat) (device : CanTransmitter) : CanTransmitter :=
  { device with
    tsr := requestTsr mailbox device.tsr
    requested := device.requested ++ [device.mailboxes mailbox] }

def writeTir (mailbox : Nat) (value : U32) (device : CanTransmitter) : CanTransmitter :=
  let loaded := device.load mailbox fun registers => { registers with tir := value }
  if device.vacant mailbox ∧ value &&& canTixrTxrqMsk ≠ 0 then loaded.request mailbox else loaded

def respond : CanAccess → U32 → CanTransmitter → U32 × CanTransmitter
  | .readTsr, w, device => (device.shownTsr w, device)
  | .writeTsr value, _, device => (0, { device with tsr := writeTsr device.tsr value })
  | .readTir mailbox, _, device => ((device.mailboxes mailbox).tir, device)
  | .writeTir mailbox value, _, device => (0, device.writeTir mailbox value)
  | .writeTdtr mailbox value, _, device =>
    (0, device.load mailbox fun registers => { registers with tdtr := value })
  | .writeTdlr mailbox value, _, device =>
    (0, device.load mailbox fun registers => { registers with tdlr := value })
  | .writeTdhr mailbox value, _, device =>
    (0, device.load mailbox fun registers => { registers with tdhr := value })

/-- A mailbox with a request becomes empty, and TXRQ is cleared. -/
def complete (mailbox : Nat) (ok lost failed : Bool) (device : CanTransmitter) : CanTransmitter :=
  let registers := device.mailboxes mailbox
  { device with
    tsr := completeTsr mailbox ok lost failed device.tsr
    mailboxes := Function.update device.mailboxes mailbox
      { registers with tir := registers.tir &&& ~~~canTixrTxrqMsk }
    sent := if ok then device.sent ++ [registers] else device.sent }

def occur (change : CanChange) (device : CanTransmitter) : CanTransmitter :=
  if change.mailbox < 3 ∧ device.vacant change.mailbox = false then
    device.complete change.mailbox change.ok change.lost change.failed
  else device

end CanTransmitter

def canTransmitter : Device CanAccess U32 U32 CanChange CanTransmitter :=
  ⟨CanTransmitter.respond, CanTransmitter.occur⟩

abbrev CanProg := Prog CanAccess U32

def CanFrame.tirValue (frame : CanFrame) : U32 :=
  let tirValue := frame.idType.setWidth 32 <<< canTixrIdePos |||
    frame.frameType.setWidth 32 <<< canTixrRtrPos
  if frame.idType = standardId then tirValue ||| frame.id <<< canTixrStidPos
  else tirValue ||| frame.id <<< canTixrExidPos

namespace CanProg

def perform (i : CanAccess) : CanProg U32 := .access i .pure

def load (mailbox : Nat) (frame : CanFrame) : CanProg Unit := do
  let _ ← perform (.writeTir mailbox frame.tirValue)
  let _ ← perform (.writeTdtr mailbox frame.mailbox.tdtr)
  let _ ← perform (.writeTdlr mailbox frame.mailbox.tdlr)
  let _ ← perform (.writeTdhr mailbox frame.mailbox.tdhr)
  let tir ← perform (.readTir mailbox)
  let _ ← perform (.writeTir mailbox (tir ||| canTixrTxrqMsk))
  pure ()

/-- `CAN_load_mailbox`, for a handle that is not `NULL`. -/
def loadMailbox : Option CanFrame → CanProg (Except KhalStatus Nat)
  | none => pure (.error .errNullPtr)
  | some frame =>
    if frame.outOfRange then pure (.error .errInvalidParam)
    else do
      let tsr ← perform .readTsr
      if tsr &&& (canTsrTmeMsk 0 ||| canTsrTmeMsk 1 ||| canTsrTmeMsk 2) = 0 then
        pure (.error .errBusy)
      else do
        let tsr ← perform .readTsr
        load (canTsrCode tsr) frame
        pure (.ok (canTsrCode tsr))

def awaitVacant (mailbox : Nat) : Nat → CanProg Nat
  | 0 => do
    let _ ← perform .readTsr
    pure 0
  | timeout + 1 => do
    let tsr ← perform .readTsr
    if tsr &&& canTsrTmeMsk mailbox = 0 then awaitVacant mailbox timeout else pure (timeout + 1)

/-- `TSR |= CAN_TSR_RQCPx_MSK` -/
def clearRqcp (mailbox : Nat) : CanProg Unit := do
  let tsr ← perform .readTsr
  let _ ← perform (.writeTsr (tsr ||| canTsrRqcpMsk mailbox))
  pure ()

/-- The `switch` of `CAN_transmit`, the same for each mailbox. -/
def await (mailbox : Nat) : CanProg KhalStatus :=
  if mailbox < 3 then do
    let timeout ← awaitVacant mailbox canInitTimeout
    if timeout = 0 then pure .errTimeout
    else do
      let tsr ← perform .readTsr
      if tsr &&& canTsrTxokMsk mailbox = 0 then do
        clearRqcp mailbox
        pure .errTx
      else do
        clearRqcp mailbox
        pure .ok
  else pure .errTx

def transmit (frame : Option CanFrame) : CanProg KhalStatus := do
  match ← loadMailbox frame with
  | .error status => pure status
  | .ok mailbox => await mailbox

end CanProg
end KoRTOS.Hal
