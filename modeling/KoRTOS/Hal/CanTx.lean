import KoRTOS.Hal.Can
import Mathlib.Logic.Function.Basic

/-!
# The CAN driver: requests and completions

`CAN_transmit`, `CAN_transmit_IT` and `CAN_TX_IRQHandler`, one access to TSR at a
time. The three mailboxes share this register: the hardware may complete a
request between any two accesses, the interrupt may be entered in the middle of
a call, and a more urgent one may go on with calls in the middle of the handler.
-/

namespace KoRTOS.Hal

open RegisterBits

def canInitTimeout : Nat := 1000000

def canTsrStatusMsk (mailbox : Nat) : U32 := 0xF#32 <<< (8 * mailbox)

/-- CODE and LOW, which only the hardware changes. -/
def canTsrPriorityMsk : U32 := 0xE3000000

def canTsrClears (value : U32) (mailbox : Nat) : U32 :=
  if value &&& canTsrRqcpMsk mailbox = 0 then 0 else canTsrStatusMsk mailbox

/-- A one that is written to an RQCP clears the status of its mailbox. -/
def writeTsr (tsr value : U32) : U32 :=
  writeOneToClear tsr (canTsrClears value 0 ||| canTsrClears value 1 ||| canTsrClears value 2)

/-- TXRQ was set: the status of the mailbox is cleared, and it is not empty. -/
def requestTsr (mailbox : Nat) (tsr : U32) : U32 :=
  tsr &&& ~~~(canTsrStatusMsk mailbox ||| canTsrTmeMsk mailbox)

def canTsrOutcome (mailbox : Nat) (ok lost failed : Bool) : U32 :=
  (1 ||| (if ok then 2 else 0) ||| (if lost then 4 else 0) ||| (if failed then 8 else 0)) <<<
    (8 * mailbox)

def completeTsr (mailbox : Nat) (ok lost failed : Bool) (tsr : U32) : U32 :=
  tsr &&& ~~~canTsrStatusMsk mailbox ||| canTsrOutcome mailbox ok lost failed |||
    canTsrTmeMsk mailbox

def prioritiesTsr (word tsr : U32) : U32 :=
  tsr &&& ~~~canTsrPriorityMsk ||| word &&& canTsrPriorityMsk

/-- What a call of `CAN_transmit` (`poll`) or `CAN_transmit_IT` does next. In its last access
`CAN_transmit` writes the value that it read before, with the flag set. -/
inductive TxCall where
  | returned (status : KhalStatus)
  | testing (poll : Bool)
  | choosing (poll : Bool)
  | requesting (poll : Bool) (mailbox : Nat)
  | waiting (mailbox timeout : Nat)
  | checking (mailbox : Nat)
  | acking (mailbox : Nat) (status : KhalStatus)
  | clearing (mailbox : Nat) (status : KhalStatus) (value : U32)

namespace TxCall

def start (poll : Bool) : Option CanFrame → TxCall
  | none => .returned .errNullPtr
  | some frame => if frame.outOfRange then .returned .errInvalidParam else .testing poll

def read (tsr : U32) : TxCall → TxCall
  | .testing poll =>
    if tsr &&& (canTsrTmeMsk 0 ||| canTsrTmeMsk 1 ||| canTsrTmeMsk 2) = 0 then .returned .errBusy
    else .choosing poll
  | .choosing poll => .requesting poll ((tsr &&& canTsrCodeMsk) >>> canTsrCodePos).toNat
  | .waiting mailbox timeout =>
    if tsr &&& canTsrTmeMsk mailbox = 0 ∧ 0 < timeout then .waiting mailbox (timeout - 1)
    else if timeout = 0 then .returned .errTimeout
    else .checking mailbox
  | .checking mailbox =>
    if tsr &&& canTsrTxokMsk mailbox = 0 then .acking mailbox .errTx else .acking mailbox .ok
  | .acking mailbox status => .clearing mailbox status (tsr ||| canTsrRqcpMsk mailbox)
  | call => call

/-- The frame is loaded. Only `CAN_transmit` waits. -/
def requested (poll : Bool) (mailbox : Nat) : TxCall :=
  if poll then if mailbox < 3 then .waiting mailbox canInitTimeout else .returned .errTx
  else .returned .ok

def polls : TxCall → Option Nat
  | .waiting mailbox _ | .checking mailbox | .acking mailbox _ | .clearing mailbox _ _ =>
    some mailbox
  | _ => none

end TxCall

inductive TxIrq where
  | idle
  | testing (mailbox : Nat)
  | sampling (mailbox : Nat)
  | acking (mailbox : Nat) (success : Bool)
  | clearing (mailbox : Nat) (success : Bool) (value : U32)

namespace TxIrq

def next (mailbox : Nat) : TxIrq := if mailbox < 2 then .testing (mailbox + 1) else .idle

def read (tsr : U32) : TxIrq → TxIrq
  | .testing mailbox =>
    if tsr &&& canTsrRqcpMsk mailbox = 0 then next mailbox else .sampling mailbox
  | .sampling mailbox => .acking mailbox (decide (tsr &&& canTsrTxokMsk mailbox ≠ 0))
  | .acking mailbox success => .clearing mailbox success (tsr ||| canTsrRqcpMsk mailbox)
  | irq => irq

/-- The mailbox whose RQCP was tested and whose callback is still to come. -/
def serves : TxIrq → Option Nat
  | .idle | .testing _ => none
  | .sampling mailbox | .acking mailbox _ | .clearing mailbox _ _ => some mailbox

end TxIrq

/-- What happened since a frame was loaded into a mailbox: how it completed, and with what the
callback was called. -/
structure TxLog where
  interrupt : Bool
  completed : Option Bool
  callbacks : List Bool
  deriving DecidableEq, Repr

structure CanTx where
  tsr : U32
  irq : TxIrq
  calls : Nat → TxCall
  logs : Nat → TxLog

inductive TxEvent where
  | complete (mailbox : Nat) (ok lost failed : Bool)
  | priorities (word : U32)
  | call (task : Nat) (poll : Bool) (frame : Option CanFrame)
  | task (task : Nat)
  | enter
  | irq

namespace CanTx

def setCall (task : Nat) (call : TxCall) (tx : CanTx) : CanTx :=
  { tx with calls := Function.update tx.calls task call }

def setLog (mailbox : Nat) (log : TxLog) (tx : CanTx) : CanTx :=
  { tx with logs := Function.update tx.logs mailbox log }

def setTsr (tsr : U32) (tx : CanTx) : CanTx := { tx with tsr := tsr }

/-- Only a request that is pending completes. -/
def complete (mailbox : Nat) (ok lost failed : Bool) (tx : CanTx) : CanTx :=
  if mailbox < 3 ∧ tx.tsr &&& canTsrTmeMsk mailbox = 0 then
    (tx.setTsr (completeTsr mailbox ok lost failed tx.tsr)).setLog mailbox
      { tx.logs mailbox with completed := some ok }
  else tx

def request (poll : Bool) (mailbox : Nat) (tx : CanTx) : CanTx :=
  if mailbox < 3 then
    (tx.setTsr (requestTsr mailbox tx.tsr)).setLog mailbox ⟨!poll, none, []⟩
  else tx

def write (value : U32) (tx : CanTx) : CanTx := tx.setTsr (writeTsr tx.tsr value)

def callback (mailbox : Nat) (success : Bool) (tx : CanTx) : CanTx :=
  let log := tx.logs mailbox
  tx.setLog mailbox { log with callbacks := log.callbacks ++ [success] }

def stepTask (task : Nat) (tx : CanTx) : CanTx :=
  match tx.calls task with
  | .requesting poll mailbox =>
    (tx.request poll mailbox).setCall task (.requested poll mailbox)
  | .clearing _ status value => (tx.write value).setCall task (.returned status)
  | call => tx.setCall task (call.read tx.tsr)

/-- The next access of the handler, and the callback after the last access for a mailbox. -/
def stepIrq (tx : CanTx) : CanTx :=
  match tx.irq with
  | .clearing mailbox success value =>
    { (tx.write value).callback mailbox success with irq := .next mailbox }
  | irq => { tx with irq := irq.read tx.tsr }

def step (event : TxEvent) (tx : CanTx) : CanTx :=
  match event with
  | .complete mailbox ok lost failed => tx.complete mailbox ok lost failed
  | .priorities word => tx.setTsr (prioritiesTsr word tx.tsr)
  | .call task poll frame =>
    match tx.calls task with
    | .returned _ => tx.setCall task (.start poll frame)
    | _ => tx
  | .task task => tx.stepTask task
  | .enter =>
    match tx.irq with
    | .idle => { tx with irq := .testing 0 }
    | _ => tx
  | .irq => tx.stepIrq

variable {tx : CanTx} {log : TxLog} {call : TxCall} {x y task other : Nat}

theorem setLog_self : (tx.setLog x log).logs x = log := Function.update_self ..

theorem setLog_of_ne (h : y ≠ x) : (tx.setLog x log).logs y = tx.logs y :=
  Function.update_of_ne h ..

theorem setCall_self : (tx.setCall task call).calls task = call := Function.update_self ..

theorem setCall_of_ne (h : other ≠ task) : (tx.setCall task call).calls other = tx.calls other :=
  Function.update_of_ne h ..

end CanTx

structure TxFlags where
  rqcp : Bool
  txok : Bool
  tme : Bool
  deriving DecidableEq, Repr

def txFlags (tsr : U32) (mailbox : Nat) : TxFlags :=
  ⟨tsr.getLsbD (8 * mailbox), tsr.getLsbD (8 * mailbox + 1), tsr.getLsbD (26 + mailbox)⟩

variable {tsr value word : U32} {x y : Nat}

theorem and_canTsrRqcpMsk (hx : x < 3) :
    tsr &&& canTsrRqcpMsk x = 0 ↔ (txFlags tsr x).rqcp = false :=
  and_bit_eq_zero (by omega)

theorem and_canTsrTxokMsk (hx : x < 3) :
    tsr &&& canTsrTxokMsk x ≠ 0 ↔ (txFlags tsr x).txok = true :=
  and_bit_ne_zero (by omega)

theorem and_canTsrTmeMsk (hx : x < 3) :
    tsr &&& canTsrTmeMsk x = 0 ↔ (txFlags tsr x).tme = false :=
  and_bit_eq_zero (by omega)

theorem txFlags_canTsrStatusMsk :
    ∀ x < 3, ∀ y < 3,
      txFlags (canTsrStatusMsk x) y = ⟨decide (y = x), decide (y = x), false⟩ := by
  decide

theorem txFlags_canTsrTmeMsk :
    ∀ x < 3, ∀ y < 3, txFlags (canTsrTmeMsk x) y = ⟨false, false, decide (y = x)⟩ := by
  decide

theorem txFlags_canTsrRqcpMsk :
    ∀ x < 3, ∀ y < 3, (txFlags (canTsrRqcpMsk x) y).rqcp = decide (y = x) := by
  decide

theorem txFlags_canTsrPriorityMsk :
    ∀ y < 3, txFlags canTsrPriorityMsk y = ⟨false, false, false⟩ := by
  decide

theorem txFlags_or : txFlags (tsr ||| word) y =
    ⟨(txFlags tsr y).rqcp || (txFlags word y).rqcp, (txFlags tsr y).txok || (txFlags word y).txok,
      (txFlags tsr y).tme || (txFlags word y).tme⟩ := by
  simp only [txFlags, BitVec.getLsbD_or]

theorem txFlags_and : txFlags (tsr &&& word) y =
    ⟨(txFlags tsr y).rqcp && (txFlags word y).rqcp, (txFlags tsr y).txok && (txFlags word y).txok,
      (txFlags tsr y).tme && (txFlags word y).tme⟩ := by
  simp only [txFlags, BitVec.getLsbD_and]

theorem txFlags_not (hy : y < 3) : txFlags (~~~tsr) y =
    ⟨!(txFlags tsr y).rqcp, !(txFlags tsr y).txok, !(txFlags tsr y).tme⟩ := by
  simp only [txFlags, BitVec.getLsbD_not, decide_eq_true (show 8 * y < 32 by omega),
    decide_eq_true (show 8 * y + 1 < 32 by omega), decide_eq_true (show 26 + y < 32 by omega),
    Bool.true_and]

theorem txFlags_prioritiesTsr (hy : y < 3) : txFlags (prioritiesTsr word tsr) y = txFlags tsr y := by
  simp [prioritiesTsr, txFlags_or, txFlags_and, txFlags_not hy, txFlags_canTsrPriorityMsk y hy]

theorem txFlags_requestTsr (hx : x < 3) (hy : y < 3) : txFlags (requestTsr x tsr) y =
    if y = x then ⟨false, false, false⟩ else txFlags tsr y := by
  rw [requestTsr, txFlags_and, txFlags_not hy, txFlags_or, txFlags_canTsrStatusMsk x hx y hy,
    txFlags_canTsrTmeMsk x hx y hy]
  by_cases hEq : y = x <;> simp [hEq]

theorem txFlags_canTsrOutcome : ∀ x < 3, ∀ y < 3, ∀ ok lost failed,
    txFlags (canTsrOutcome x ok lost failed) y =
      ⟨decide (y = x), decide (y = x) && ok, false⟩ := by
  decide

theorem txFlags_completeTsr {ok lost failed : Bool} (hx : x < 3) (hy : y < 3) :
    txFlags (completeTsr x ok lost failed tsr) y =
      if y = x then ⟨true, ok, true⟩ else txFlags tsr y := by
  rw [completeTsr, txFlags_or, txFlags_or, txFlags_and, txFlags_not hy,
    txFlags_canTsrStatusMsk x hx y hy, txFlags_canTsrTmeMsk x hx y hy,
    txFlags_canTsrOutcome x hx y hy]
  by_cases hEq : y = x <;> simp [hEq]

theorem txFlags_canTsrClears (hx : x < 3) (hy : y < 3) : txFlags (canTsrClears value x) y =
    ⟨(txFlags value x).rqcp && decide (y = x), (txFlags value x).rqcp && decide (y = x),
      false⟩ := by
  rw [canTsrClears]
  split <;> rename_i hZero
  · rw [(and_canTsrRqcpMsk hx).mp hZero]
    simp [txFlags]
  · rw [and_canTsrRqcpMsk hx, Bool.not_eq_false] at hZero
    rw [hZero, txFlags_canTsrStatusMsk x hx y hy]
    simp

theorem txFlags_writeTsr (hy : y < 3) : txFlags (writeTsr tsr value) y =
    if (txFlags value y).rqcp then ⟨false, false, (txFlags tsr y).tme⟩ else txFlags tsr y := by
  have hCleared : txFlags (canTsrClears value 0 ||| canTsrClears value 1 |||
      canTsrClears value 2) y = ⟨(txFlags value y).rqcp, (txFlags value y).rqcp, false⟩ := by
    rw [txFlags_or, txFlags_or, txFlags_canTsrClears (by decide) hy,
      txFlags_canTsrClears (by decide) hy, txFlags_canTsrClears (by decide) hy]
    match y, hy with
    | 0, _ | 1, _ | 2, _ => simp
  rw [writeTsr, writeOneToClear, txFlags_and, txFlags_not hy, hCleared]
  cases (txFlags value y).rqcp <;> simp

end KoRTOS.Hal
