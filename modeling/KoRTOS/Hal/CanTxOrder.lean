import KoRTOS.Hal.CanTx

/-!
# The mailboxes of the CAN driver

What is so between any two accesses: RQCP stands for a completion that was not
reported yet, and the handler and the polling calls know of the mailbox they are
about what they have read. Acknowledging a mailbox through what was read keeps
this if no other mailbox has completed then.
-/

namespace KoRTOS.Hal

namespace TxFlags

/-- What is known of a mailbox. A callback is due as long as RQCP is set. -/
structure Fits (flags : TxFlags) (log : TxLog) : Prop where
  completed : flags.rqcp = true → log.completed = some flags.txok
  empty : log.completed ≠ none → flags.tme = true
  callbacks : log.interrupt = true →
    log.callbacks = if flags.rqcp then [] else log.completed.toList

variable {flags : TxFlags} {log : TxLog} {ok : Bool}

theorem Fits.complete (h : flags.Fits log) (hPending : flags.tme = false) :
    Fits ⟨true, ok, true⟩ { log with completed := some ok } := by
  have hNone : log.completed = none := by
    by_contra hSome
    exact absurd (hPending.symm.trans (h.empty hSome)) nofun
  refine ⟨fun _ => rfl, fun _ => rfl, fun hInterrupt => ?_⟩
  have hCallbacks := h.callbacks hInterrupt
  rwa [hNone, Option.toList_none, ite_self] at hCallbacks

theorem fits_loaded (interrupt : Bool) : Fits ⟨false, false, false⟩ ⟨interrupt, none, []⟩ :=
  ⟨nofun, fun hSome => absurd rfl hSome, fun _ => rfl⟩

theorem Fits.acknowledge (h : flags.Fits log) (hPoll : log.interrupt = false) :
    Fits ⟨false, false, flags.tme⟩ log :=
  ⟨nofun, h.empty, fun hInterrupt => absurd (hPoll.symm.trans hInterrupt) nofun⟩

theorem Fits.callback {success : Bool} (h : flags.Fits log)
    (hSeen : log.interrupt = true → flags.rqcp = true ∧ flags.txok = success) :
    Fits ⟨false, false, flags.tme⟩ { log with callbacks := log.callbacks ++ [success] } := by
  refine ⟨nofun, h.empty, fun hInterrupt => ?_⟩
  have hCallbacks := h.callbacks hInterrupt
  obtain ⟨hSet, rfl⟩ := hSeen hInterrupt
  rw [if_pos hSet] at hCallbacks
  change log.callbacks ++ [flags.txok] = log.completed.toList
  rw [hCallbacks, h.completed hSet]
  rfl

end TxFlags

def Acknowledges (value : U32) (x : Nat) : Prop :=
  ∀ y < 3, (txFlags value y).rqcp = decide (y = x)

/-- What the handler has seen of the mailbox it is about is still so, if a callback is due. -/
def TxIrq.Follows (flags : Nat → TxFlags) (due : Nat → Bool) : TxIrq → Prop
  | .idle => True
  | .testing x => x < 3
  | .sampling x => x < 3 ∧ (due x = true → (flags x).rqcp = true)
  | .acking x success =>
    x < 3 ∧ (due x = true → (flags x).rqcp = true ∧ (flags x).txok = success)
  | .clearing x success value =>
    (x < 3 ∧ (due x = true → (flags x).rqcp = true ∧ (flags x).txok = success)) ∧
      Acknowledges value x

/-- The handler has not looked at the mailbox yet, or is about to report it. -/
def TxIrq.Before (x : Nat) : TxIrq → Prop
  | .idle => False
  | .testing y | .sampling y | .acking y _ | .clearing y _ _ => y ≤ x

namespace TxIrq

variable {flags flags' : Nat → TxFlags} {due due' : Nat → Bool} {irq : TxIrq} {x : Nat}

theorem Follows.of_served (h : irq.Follows flags due)
    (hSame : ∀ x < 3, irq.serves = some x → due' x = true →
      due x = true ∧ ((flags x).rqcp = true → flags' x = flags x)) : irq.Follows flags' due' := by
  cases irq with
  | idle => exact trivial
  | testing x => exact h
  | sampling x =>
    refine ⟨h.1, fun hDue' => ?_⟩
    obtain ⟨hDue, hEq⟩ := hSame x h.1 rfl hDue'
    rw [hEq (h.2 hDue)]
    exact h.2 hDue
  | acking x success =>
    refine ⟨h.1, fun hDue' => ?_⟩
    obtain ⟨hDue, hEq⟩ := hSame x h.1 rfl hDue'
    rw [hEq (h.2 hDue).1]
    exact h.2 hDue
  | clearing x success value =>
    obtain ⟨⟨hx, hSeen⟩, hValue⟩ := h
    refine ⟨⟨hx, fun hDue' => ?_⟩, hValue⟩
    obtain ⟨hDue, hEq⟩ := hSame x hx rfl hDue'
    rw [hEq (hSeen hDue).1]
    exact hSeen hDue

theorem before_next {y : Nat} (hLt : x < y) (hy : y < 3) : (next x).Before y := by
  rw [next, if_pos (by omega)]
  exact hLt

theorem follows_next (x : Nat) : (next x).Follows flags due := by
  rw [next]
  split
  · exact Nat.succ_lt_succ ‹_›
  · exact trivial

end TxIrq

namespace TxCall

variable {call : TxCall} {tsr value : U32} {x : Nat} {status : KhalStatus}

theorem polls_of_read (h : (call.read tsr).polls = some x) : call.polls = some x := by
  cases call with
  | returned status => exact h
  | testing poll =>
    rw [read] at h
    split at h <;> cases h
  | choosing poll => cases h
  | requesting poll mailbox => exact h
  | waiting mailbox timeout =>
    rw [read] at h
    split at h
    · exact h
    · split at h
      · cases h
      · exact h
  | checking mailbox =>
    rw [read] at h
    split at h <;> exact h
  | acking mailbox status => exact h
  | clearing mailbox status value => exact h

theorem clearing_of_read (h : call.read tsr = .clearing x status value) :
    call = .clearing x status value ∨
      call = .acking x status ∧ value = tsr ||| canTsrRqcpMsk x := by
  cases call with
  | returned status => cases h
  | testing poll =>
    rw [read] at h
    split at h <;> cases h
  | choosing poll => cases h
  | requesting poll mailbox => cases h
  | waiting mailbox timeout =>
    rw [read] at h
    split at h
    · cases h
    · split at h <;> cases h
  | checking mailbox =>
    rw [read] at h
    split at h <;> cases h
  | acking mailbox status =>
    cases h
    exact .inr ⟨rfl, rfl⟩
  | clearing mailbox status value => exact .inl h

theorem polls_requested {poll : Bool} {mailbox : Nat} (h : (requested poll mailbox).polls = some x) :
    poll = true ∧ mailbox < 3 ∧ mailbox = x := by
  rw [requested] at h
  split at h
  · split at h
    · cases h
      exact ⟨‹_›, ‹_›, rfl⟩
    · cases h
  · cases h

theorem requested_ne_clearing {poll : Bool} {mailbox : Nat} :
    requested poll mailbox ≠ .clearing x status value := by
  rw [requested]
  split
  · split <;> exact nofun
  · exact nofun

end TxCall

namespace CanTx

def flags (tx : CanTx) (mailbox : Nat) : TxFlags := txFlags tx.tsr mailbox

/-- The request in the mailbox is one that `CAN_TX_IRQHandler` reports. -/
def due (tx : CanTx) (mailbox : Nat) : Bool := (tx.logs mailbox).interrupt

/-- The mailbox for which the next access reads the value to write back. -/
def reads (tx : CanTx) : TxEvent → Option Nat
  | .irq =>
    match tx.irq with
    | .acking mailbox _ => some mailbox
    | _ => none
  | .task task =>
    match tx.calls task with
    | .acking mailbox _ => some mailbox
    | _ => none
  | _ => none

def acknowledges (tx : CanTx) : TxEvent → Option Nat
  | .irq =>
    match tx.irq with
    | .clearing mailbox _ _ => some mailbox
    | _ => none
  | .task task =>
    match tx.calls task with
    | .clearing mailbox _ _ => some mailbox
    | _ => none
  | _ => none

def loads (tx : CanTx) : TxEvent → Option Nat
  | .task task =>
    match tx.calls task with
    | .requesting _ mailbox => some mailbox
    | _ => none
  | _ => none

def loadsIt (tx : CanTx) : TxEvent → Option Nat
  | .task task =>
    match tx.calls task with
    | .requesting false mailbox => some mailbox
    | _ => none
  | _ => none

/-- No other mailbox has completed when the value to write back is read. -/
def ReadsAlone (tx : CanTx) (event : TxEvent) : Prop :=
  ∀ x ∈ tx.reads event, ∀ y < 3, y ≠ x → (tx.flags y).rqcp = false

/-- No polling call uses a mailbox that `CAN_transmit_IT` loads. -/
def Separate (tx : CanTx) (event : TxEvent) : Prop :=
  ∀ x ∈ tx.loadsIt event, ∀ other, (tx.calls other).polls ≠ some x

/-- `CAN_transmit_IT` does not load a mailbox that the handler is about to report. -/
def LoadsApart (tx : CanTx) (event : TxEvent) : Prop :=
  ∀ x ∈ tx.loadsIt event, tx.irq.serves ≠ some x

structure Ordered (tx : CanTx) : Prop where
  fits : ∀ x < 3, (tx.flags x).Fits (tx.logs x)
  irq : tx.irq.Follows tx.flags tx.due
  polls : ∀ task x, (tx.calls task).polls = some x → x < 3 ∧ (tx.logs x).interrupt = false
  values : ∀ task x status value, tx.calls task = .clearing x status value → Acknowledges value x

variable {tx : CanTx} {x y task : Nat} {ok lost failed poll success : Bool} {word value : U32}
  {call : TxCall} {status : KhalStatus}

theorem flags_write (h : Acknowledges value x) (hy : y < 3) : (tx.write value).flags y =
    if y = x then ⟨false, false, (tx.flags y).tme⟩ else tx.flags y := by
  change txFlags (writeTsr tx.tsr value) y = _
  rw [txFlags_writeTsr hy, h y hy]
  simp only [decide_eq_true_eq, flags]

theorem acknowledges_or (hx : x < 3) (hAlone : ∀ y < 3, y ≠ x → (tx.flags y).rqcp = false) :
    Acknowledges (tx.tsr ||| canTsrRqcpMsk x) x := by
  intro y hy
  rw [txFlags_or, txFlags_canTsrRqcpMsk x hx y hy]
  by_cases hEq : y = x
  · rw [decide_eq_true hEq, Bool.or_true]
  · rw [decide_eq_false hEq, Bool.or_false]
    exact hAlone y hy hEq

namespace Ordered

theorem complete (h : tx.Ordered) : (tx.complete x ok lost failed).Ordered := by
  rw [CanTx.complete]
  split
  · rename_i hPending
    obtain ⟨hx, hTme⟩ := hPending
    have hEmpty : (tx.flags x).tme = false := (and_canTsrTmeMsk hx).mp hTme
    refine ⟨fun y hy => ?_, h.irq.of_served fun y hy _ hDue => ⟨?_, fun hSet => ?_⟩,
      fun task y hPolls => ?_, h.values⟩
    · change (txFlags (completeTsr x ok lost failed tx.tsr) y).Fits _
      rw [txFlags_completeTsr hx hy]
      by_cases hEq : y = x
      · rw [if_pos hEq, hEq, setLog_self]
        exact (h.fits x hx).complete hEmpty
      · rw [if_neg hEq, setLog_of_ne hEq]
        exact h.fits y hy
    · rw [due] at hDue ⊢
      by_cases hEq : y = x
      · rw [hEq, setLog_self] at hDue
        rw [hEq]
        exact hDue
      · rwa [setLog_of_ne hEq] at hDue
    · have hNe : y ≠ x := by
        rintro rfl
        have hCompleted := (h.fits y hy).completed hSet
        have hTme := (h.fits y hy).empty (by rw [hCompleted]; exact nofun)
        exact absurd (hEmpty.symm.trans hTme) nofun
      change txFlags (completeTsr x ok lost failed tx.tsr) y = _
      rw [txFlags_completeTsr hx hy, if_neg hNe]
      rfl
    · obtain ⟨hy, hPoll⟩ := h.polls task y hPolls
      refine ⟨hy, ?_⟩
      by_cases hEq : y = x
      · subst hEq
        rw [setLog_self]
        exact hPoll
      · rw [setLog_of_ne hEq]
        exact hPoll
  · exact h

theorem priorities (h : tx.Ordered) : (tx.setTsr (prioritiesTsr word tx.tsr)).Ordered := by
  refine ⟨fun y hy => ?_, h.irq.of_served fun y hy _ hDue => ⟨hDue, fun _ => ?_⟩, h.polls,
    h.values⟩
  · change (txFlags (prioritiesTsr word tx.tsr) y).Fits _
    rw [txFlags_prioritiesTsr hy]
    exact h.fits y hy
  · exact txFlags_prioritiesTsr hy

theorem setCall (h : tx.Ordered)
    (hPolls : ∀ x, call.polls = some x → x < 3 ∧ (tx.logs x).interrupt = false)
    (hValue : ∀ x status value, call = .clearing x status value → Acknowledges value x) :
    (tx.setCall task call).Ordered := by
  refine ⟨h.fits, h.irq, fun other x hOther => ?_, fun other x status value hOther => ?_⟩
  · by_cases hEq : other = task
    · rw [hEq, setCall_self] at hOther
      exact hPolls x hOther
    · rw [setCall_of_ne hEq] at hOther
      exact h.polls other x hOther
  · by_cases hEq : other = task
    · rw [hEq, setCall_self] at hOther
      exact hValue x status value hOther
    · rw [setCall_of_ne hEq] at hOther
      exact h.values other x status value hOther

theorem request (h : tx.Ordered) (hx : x < 3)
    (hSeparate : poll = false → ∀ other, (tx.calls other).polls ≠ some x)
    (hApart : poll = false → tx.irq.serves ≠ some x) : (tx.request poll x).Ordered := by
  rw [CanTx.request, if_pos hx]
  refine ⟨fun y hy => ?_, h.irq.of_served fun y hy hServes hDue => ?_, fun other y hPolls => ?_,
    h.values⟩
  · change (txFlags (requestTsr x tx.tsr) y).Fits _
    rw [txFlags_requestTsr hx hy]
    by_cases hEq : y = x
    · rw [if_pos hEq, hEq, setLog_self]
      exact TxFlags.fits_loaded _
    · rw [if_neg hEq, setLog_of_ne hEq]
      exact h.fits y hy
  · -- a mailbox that is loaded while it is served is one for `CAN_transmit`
    rw [due] at hDue
    by_cases hEq : y = x
    · rw [hEq, setLog_self, Bool.not_eq_true'] at hDue
      exact absurd (hEq ▸ hServes) (hApart hDue)
    · rw [setLog_of_ne hEq] at hDue
      refine ⟨hDue, fun _ => ?_⟩
      change txFlags (requestTsr x tx.tsr) y = _
      rw [txFlags_requestTsr hx hy, if_neg hEq]
      rfl
  · obtain ⟨hy, hPoll⟩ := h.polls other y hPolls
    refine ⟨hy, ?_⟩
    by_cases hEq : y = x
    · rw [hEq, setLog_self]
      cases poll with
      | false => exact absurd (hEq ▸ hPolls) (hSeparate rfl other)
      | true => rfl
    · rw [setLog_of_ne hEq]
      exact hPoll

theorem write (h : tx.Ordered) (hValue : Acknowledges value x)
    (hPoll : (tx.logs x).interrupt = false) : (tx.write value).Ordered := by
  refine ⟨fun y hy => ?_, h.irq.of_served fun y hy _ hDue => ⟨hDue, fun _ => ?_⟩, h.polls,
    h.values⟩
  · rw [flags_write hValue hy]
    split
    · rename_i hEq
      rw [← hEq] at hPoll
      exact (h.fits y hy).acknowledge hPoll
    · exact h.fits y hy
  · refine (flags_write hValue hy).trans (if_neg ?_)
    rintro rfl
    exact absurd (hPoll.symm.trans hDue) nofun

theorem stepTask (h : tx.Ordered) (hAlone : tx.ReadsAlone (.task task))
    (hSeparate : tx.Separate (.task task)) (hApart : tx.LoadsApart (.task task)) :
    (tx.stepTask task).Ordered := by
  unfold CanTx.stepTask
  split
  · rename_i poll x hCall
    have hLoads : poll = false → x ∈ tx.loadsIt (.task task) := by
      rintro rfl
      rw [loadsIt, hCall]
      rfl
    have hRequest : (tx.request poll x).Ordered := by
      by_cases hx : x < 3
      · exact h.request hx (fun hPoll => hSeparate x (hLoads hPoll)) fun hPoll =>
          hApart x (hLoads hPoll)
      · rw [CanTx.request, if_neg hx]
        exact h
    refine hRequest.setCall (fun y hPolls => ?_) fun _ _ _ hEq =>
      absurd hEq TxCall.requested_ne_clearing
    obtain ⟨rfl, hx, rfl⟩ := TxCall.polls_requested hPolls
    rw [CanTx.request, if_pos hx, setLog_self]
    exact ⟨hx, rfl⟩
  · rename_i x status value hCall
    have hPolls := h.polls task x (by rw [hCall]; rfl)
    exact (h.write (h.values task x status value hCall) hPolls.2).setCall nofun nofun
  · refine h.setCall (fun x hPolls => h.polls task x (TxCall.polls_of_read hPolls))
      fun x status value hEq => ?_
    obtain hCall | ⟨hCall, rfl⟩ := TxCall.clearing_of_read hEq
    · exact h.values task x status value hCall
    · have hPolls := h.polls task x (by rw [hCall]; rfl)
      have hReads : tx.reads (.task task) = some x := by
        rw [reads, hCall]
      exact acknowledges_or hPolls.1 (hAlone x hReads)

theorem callback (h : tx.Ordered)
    (hIrq : TxIrq.Follows tx.flags tx.due (.clearing x success value)) :
    Ordered { (tx.write value).callback x success with irq := .next x } := by
  obtain ⟨⟨hx, hSeen⟩, hValue⟩ := hIrq
  refine ⟨fun y hy => ?_, TxIrq.follows_next x, fun task y hPolls => ?_, h.values⟩
  · change ((tx.write value).flags y).Fits (((tx.write value).callback x _).logs y)
    rw [flags_write hValue hy, CanTx.callback]
    by_cases hEq : y = x
    · rw [if_pos hEq, hEq, setLog_self]
      exact (h.fits x hx).callback hSeen
    · rw [if_neg hEq, setLog_of_ne hEq]
      exact h.fits y hy
  · obtain ⟨hy, hPoll⟩ := h.polls task y hPolls
    refine ⟨hy, ?_⟩
    change (((tx.write value).callback x _).logs y).interrupt = false
    rw [CanTx.callback]
    by_cases hEq : y = x
    · rw [hEq, setLog_self, ← hEq]
      exact hPoll
    · rw [setLog_of_ne hEq]
      exact hPoll

theorem stepIrq (h : tx.Ordered) (hAlone : tx.ReadsAlone .irq) : tx.stepIrq.Ordered := by
  have hIrq := h.irq
  unfold CanTx.stepIrq
  split
  · rename_i x success value hAt
    rw [hAt] at hIrq
    exact h.callback hIrq
  · refine ⟨h.fits, ?_, h.polls, h.values⟩
    change (tx.irq.read tx.tsr).Follows tx.flags tx.due
    cases hAt : tx.irq with
    | idle => exact trivial
    | testing x =>
      rw [hAt] at hIrq
      rw [TxIrq.read]
      split
      · exact TxIrq.follows_next x
      · rename_i hSet
        rw [and_canTsrRqcpMsk hIrq, Bool.not_eq_false] at hSet
        exact ⟨hIrq, fun _ => hSet⟩
    | sampling x =>
      rw [hAt] at hIrq
      refine ⟨hIrq.1, fun hDue => ⟨hIrq.2 hDue, ?_⟩⟩
      rw [Bool.eq_iff_iff, decide_eq_true_iff, and_canTsrTxokMsk hIrq.1, flags]
    | acking x success =>
      rw [hAt] at hIrq
      have hReads : tx.reads .irq = some x := by
        rw [reads, hAt]
      exact ⟨hIrq, acknowledges_or hIrq.1 (hAlone x hReads)⟩
    | clearing x success value =>
      rw [hAt] at hIrq
      exact hIrq

theorem step (h : tx.Ordered) {event : TxEvent} (hAlone : tx.ReadsAlone event)
    (hSeparate : tx.Separate event) (hApart : tx.LoadsApart event) :
    (CanTx.step event tx).Ordered := by
  cases event with
  | complete x ok lost failed => exact h.complete
  | priorities word => exact h.priorities
  | call task poll frame =>
    rw [CanTx.step]
    split
    · cases frame with
      | none => exact h.setCall nofun nofun
      | some frame =>
        rw [TxCall.start]
        split
        · exact h.setCall nofun nofun
        · exact h.setCall nofun nofun
    · exact h
  | task task => exact h.stepTask hAlone hSeparate hApart
  | enter =>
    rw [CanTx.step]
    split
    · exact ⟨h.fits, Nat.zero_lt_succ 2, h.polls, h.values⟩
    · exact h
  | irq => exact h.stepIrq hAlone

end Ordered

end CanTx

end KoRTOS.Hal
