import KoRTOS.Hal.Usart
import KoRTOS.Library.Accesses

/-!
# The USART handler, access by access

Words go on coming in while `USART_IRQ_handling` runs. It clears TC and CTS by reading
`SR` and writing it back, and the other flags by reading `SR` and `DR`; both can hit a
word that came in meanwhile. The handler is a program of the accesses that matter to the
receiver here: a write to `DR` goes to the transmitter.
-/

namespace KoRTOS.Hal

open RegisterBits Accesses

inductive UsartAccess where
  | readSr
  | writeSr (value : U32)
  | readDr
  deriving DecidableEq, Repr

/-- A word waits in `DR` while RXNE is set. The rest says what became of the words that came in:
which were read, and how many were lost because one waited or because RXNE was cleared. -/
structure UsartReceiver where
  rxne : Bool
  dr : U32
  arrived : List U32
  read : List U32
  overrun : Nat
  cleared : Nat

namespace UsartReceiver

def fresh : UsartReceiver := ⟨false, 0, [], [], 0, 0⟩

def waiting (receiver : UsartReceiver) : List U32 :=
  if receiver.rxne then [receiver.dr] else []

/-- The other flags are left open. A zero that is written to RXNE clears it. -/
def respond : UsartAccess → U32 → UsartReceiver → U32 × UsartReceiver
  | .readSr, flags, receiver => (withBit usartSrRxne receiver.rxne flags, receiver)
  | .writeSr value, _, receiver =>
    (0,
      if receiver.rxne && !value.getLsbD usartSrRxne then
        { receiver with rxne := false, cleared := receiver.cleared + 1 }
      else receiver)
  | .readDr, _, receiver =>
    (receiver.dr, { receiver with rxne := false, read := receiver.read ++ receiver.waiting })

/-- A word that comes in while another waits is lost. -/
def occur (word : U32) (receiver : UsartReceiver) : UsartReceiver :=
  if receiver.rxne then
    { receiver with
      arrived := receiver.arrived ++ [word]
      overrun := receiver.overrun + 1 }
  else
    { receiver with
      rxne := true
      dr := word
      arrived := receiver.arrived ++ [word] }

end UsartReceiver

def usartReceiver : Device UsartAccess U32 U32 U32 UsartReceiver :=
  ⟨UsartReceiver.respond, UsartReceiver.occur⟩

abbrev UsartProg (α : Type) := Prog UsartAccess U32 α

namespace UsartProg

def perform (i : UsartAccess) : UsartProg U32 := .access i .pure

/-- `SR &= ~(1 << i)` -/
def clearSr (i : Nat) : UsartProg Unit := do
  let sr ← perform .readSr
  let _ ← perform (.writeSr (sr &&& ~~~bit i))
  pure ()

/-- `dummy_byte = SR; dummy_byte = DR;` -/
def readSrDr : UsartProg Unit := do
  let _ ← perform .readSr
  let _ ← perform .readDr
  pure ()

end UsartProg

namespace Usart

open UsartProg

def serveTc (usart : Usart) : UsartProg Usart := do
  let sr ← perform .readSr
  if sr.getLsbD usartSrTc && usart.cr1.getLsbD usartCr1Tcie then
    if usart.txState = .busyTx ∧ usart.txLen = 0 then do
      clearSr usartSrTc
      pure (usart.closeTransmission.eventCallback .txCmplt)
    else pure usart
  else pure usart

def serveTxe (memory : Nat → U8) (usart : Usart) : UsartProg Usart := do
  let sr ← perform .readSr
  pure (checkTxe ⟨memory, fun _ => 0⟩ sr usart)

def storeWord (memory : Nat → U8) (word : U32) (usart : Usart) : Usart :=
  let usart := usart.receiveNext ⟨memory, fun _ => word⟩
  if usart.rxLen = 0 then usart.closeReception.eventCallback .rxCmplt else usart

def serveRxne (memory : Nat → U8) (usart : Usart) : UsartProg Usart := do
  let sr ← perform .readSr
  if sr.getLsbD usartSrRxne && usart.cr1.getLsbD usartCr1Rxneie then
    if usart.rxState = .busyRx then
      if 0 < usart.rxLen then do
        let dr ← perform .readDr
        pure (usart.storeWord memory dr)
      else pure usart
    else pure usart
  else pure usart

def serveCts (usart : Usart) : UsartProg Usart := do
  let sr ← perform .readSr
  if sr.getLsbD usartSrCts && usart.cr3.getLsbD usartCr3Ctse &&
      usart.cr3.getLsbD usartCr3Ctsie then do
    clearSr usartSrCts
    pure (usart.eventCallback .cts)
  else pure usart

/-- IDLE and ORE, each with its enable bit in `CR1`. -/
def serveByReading (flag enable : Nat) (event : UsartEvent) (usart : Usart) : UsartProg Usart := do
  let sr ← perform .readSr
  if sr.getLsbD flag && usart.cr1.getLsbD enable then do
    readSrDr
    pure (usart.eventCallback event)
  else pure usart

def serveIdle : Usart → UsartProg Usart := serveByReading usartSrIdle usartCr1Idleie .idle

def serveOre : Usart → UsartProg Usart := serveByReading usartSrOre usartCr1Rxneie .ore

def serveErrors (usart : Usart) : UsartProg Usart := do
  let sr ← perform .readSr
  if usart.cr3.getLsbD usartCr3Eie then
    if sr.getLsbD usartSrNf then do
      readSrDr
      pure (usart.eventCallback .nf)
    else if sr.getLsbD usartSrFe then do
      readSrDr
      pure (usart.eventCallback .fe)
    else pure usart
  else pure usart

def irqProgram (memory : Nat → U8) (usart : Usart) : UsartProg Usart := do
  let usart ← serveTc usart
  let usart ← serveTxe memory usart
  let usart ← serveRxne memory usart
  let usart ← serveCts usart
  let usart ← serveIdle usart
  let usart ← serveOre usart
  serveErrors usart

end Usart

/-- The receiver, the handle between the invocations of the handler, and the one under way. -/
structure UsartRx where
  receiver : UsartReceiver
  usart : Usart
  call : Option (UsartProg Usart)

/-- Between two invocations the program may call the driver and write the control registers. -/
inductive UsartInput where
  | arrive (word : U32)
  | sendIt (pTxBuffer : Nat) (len : U32)
  | receiveIt (pRxBuffer : Nat) (len : U32)
  | control (cr1 cr3 : U32)
  | interrupt
  | access (flags : U32)

namespace UsartRx

def start (usart : Usart) : UsartRx :=
  ⟨.fresh, { usart with received := {}, events := [] }, none⟩

/-- What is left of the invocation, and the handle if nothing is. -/
def resume (rx : UsartRx) : UsartProg Usart × UsartReceiver → UsartRx
  | (.pure usart, receiver) => ⟨receiver, usart, none⟩
  | (call, receiver) => ⟨receiver, rx.usart, some call⟩

def step (memory : Nat → U8) (rx : UsartRx) (input : UsartInput) : UsartRx :=
  match input, rx.call with
  | .arrive word, _ => { rx with receiver := rx.receiver.occur word }
  | .sendIt pTxBuffer len, none => { rx with usart := (rx.usart.sendIt pTxBuffer len).1 }
  | .receiveIt pRxBuffer len, none => { rx with usart := (rx.usart.receiveIt pRxBuffer len).1 }
  | .control cr1 cr3, none => { rx with usart := { rx.usart with cr1 := cr1, cr3 := cr3 } }
  | .interrupt, none => { rx with call := some (rx.usart.irqProgram memory) }
  | .access flags, some call => rx.resume (usartReceiver.advance flags (call, rx.receiver))
  | _, _ => rx

def run (memory : Nat → U8) (rx : UsartRx) (inputs : List UsartInput) : UsartRx :=
  inputs.foldl (step memory) rx

end UsartRx
end KoRTOS.Hal
