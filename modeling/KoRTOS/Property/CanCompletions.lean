import KoRTOS.Hal.CanTxOrder
import KoRTOS.Library.Rounds

/-!
# Completions of CAN requests

A completion is acknowledged by reading TSR and writing it back with one more
RQCP set: an RQCP that is read for another mailbox is written as well, and
clears what was never looked at. Where every such read finds no other mailbox
completed, each completion stays until the handler reports it, once.
-/

namespace KoRTOS.Hal

open Rounds

namespace CanTx

variable {tx : CanTx} {x y task : Nat} {ok lost failed poll : Bool}

/-- A completion that is reported before the handler returns. -/
structure Due (tx : CanTx) (x : Nat) (ok : Bool) : Prop where
  interrupt : (tx.logs x).interrupt = true
  completed : (tx.logs x).completed = some ok
  reported : (tx.logs x).callbacks = [ok] ∨ tx.irq.Before x

theorem Due.of_eq {tx' : CanTx} (h : tx.Due x ok) (hLog : tx'.logs x = tx.logs x)
    (hIrq : tx'.irq = tx.irq) : tx'.Due x ok := by
  obtain ⟨hInterrupt, hCompleted, hReported⟩ := h
  refine ⟨?_, ?_, ?_⟩
  · rw [hLog]
    exact hInterrupt
  · rw [hLog]
    exact hCompleted
  · rw [hLog, hIrq]
    exact hReported

theorem logs_request (hNe : x ≠ y) : (tx.request poll y).logs x = tx.logs x := by
  rw [request]
  split
  · exact setLog_of_ne hNe
  · rfl

theorem logs_complete (h : tx.Ordered) (hx : x < 3) (hCompleted : (tx.logs x).completed ≠ none) :
    (tx.complete y ok lost failed).logs x = tx.logs x := by
  rw [complete]
  split
  · rename_i hPending
    refine setLog_of_ne ?_
    rintro rfl
    have hTme := (h.fits x hx).empty hCompleted
    exact Bool.noConfusion (hTme.symm.trans ((and_canTsrTmeMsk hx).mp hPending.2))
  · rfl

theorem logs_stepTask (hLoads : tx.loads (.task task) ≠ some x) :
    (tx.stepTask task).logs x = tx.logs x := by
  unfold stepTask
  split
  · rename_i poll y hCall
    refine logs_request ?_
    rintro rfl
    exact hLoads (by rw [loads, hCall])
  · rfl
  · rfl

theorem irq_stepTask : (tx.stepTask task).irq = tx.irq := by
  unfold stepTask
  split
  · rw [request]
    split <;> rfl
  · rfl
  · rfl

theorem Due.stepIrq (hDue : tx.Due x ok) (h : tx.Ordered) (hx : x < 3) : tx.stepIrq.Due x ok := by
  have hIrq := h.irq
  have hCallbacks := (h.fits x hx).callbacks hDue.interrupt
  obtain ⟨hInterrupt, hCompleted, hReported⟩ := hDue
  unfold CanTx.stepIrq
  split
  · rename_i y success value hAt
    rw [hAt] at hIrq hReported
    obtain ⟨⟨hy, hSeen⟩, _⟩ := hIrq
    by_cases hEq : x = y
    · subst hEq
      obtain ⟨hSet, rfl⟩ := hSeen hInterrupt
      have hOutcome := (h.fits x hx).completed hSet
      rw [if_pos hSet] at hCallbacks
      refine ⟨?_, ?_, .inl ?_⟩
      · exact (congrArg TxLog.interrupt setLog_self).trans hInterrupt
      · exact (congrArg TxLog.completed setLog_self).trans hCompleted
      · refine (congrArg TxLog.callbacks setLog_self).trans ?_
        change (tx.logs x).callbacks ++ [(tx.flags x).txok] = [ok]
        rw [hCallbacks, Option.some.inj (hOutcome.symm.trans hCompleted)]
        rfl
    · have hLog : ((tx.write value).callback y success).logs x = tx.logs x :=
        setLog_of_ne hEq
      refine ⟨?_, ?_, hReported.imp (fun hDone => ?_) fun hBefore => ?_⟩
      · exact (congrArg TxLog.interrupt hLog).trans hInterrupt
      · exact (congrArg TxLog.completed hLog).trans hCompleted
      · exact (congrArg TxLog.callbacks hLog).trans hDone
      · exact TxIrq.before_next (Nat.lt_of_le_of_ne hBefore (Ne.symm hEq)) hx
  · refine ⟨hInterrupt, hCompleted, ?_⟩
    obtain hDone | hBefore := hReported
    · exact .inl hDone
    · change (tx.logs x).callbacks = [ok] ∨ (tx.irq.read tx.tsr).Before x
      cases hAt : tx.irq with
      | idle =>
        rw [hAt] at hBefore
        exact hBefore.elim
      | testing y =>
        rw [hAt] at hBefore
        rw [TxIrq.read]
        split
        · rename_i hClear
          obtain hLt | rfl := Nat.lt_or_eq_of_le hBefore
          · exact .inr (TxIrq.before_next hLt hx)
          · -- what is not flagged any more was reported
            have hNot : (tx.flags y).rqcp = false := (and_canTsrRqcpMsk hx).mp hClear
            rw [hNot, hCompleted] at hCallbacks
            exact .inl hCallbacks
        · exact .inr hBefore
      | sampling y =>
        rw [hAt] at hBefore
        exact .inr hBefore
      | acking y success =>
        rw [hAt] at hBefore
        exact .inr hBefore
      | clearing y success value =>
        rw [hAt] at hBefore
        exact .inr hBefore

theorem Due.step (hDue : tx.Due x ok) (h : tx.Ordered) (hx : x < 3) {event : TxEvent}
    (hLoads : tx.loads event ≠ some x) : (CanTx.step event tx).Due x ok := by
  cases event with
  | complete y ok lost failed =>
    refine hDue.of_eq (logs_complete h hx (by rw [hDue.completed]; exact nofun)) ?_
    rw [CanTx.step, CanTx.complete]
    split <;> rfl
  | priorities word => exact hDue.of_eq rfl rfl
  | call task poll frame =>
    rw [CanTx.step]
    split
    · exact hDue.of_eq rfl rfl
    · exact hDue
  | task task => exact hDue.of_eq (logs_stepTask hLoads) irq_stepTask
  | enter =>
    rw [CanTx.step]
    split
    · rename_i hIdle
      obtain ⟨hInterrupt, hCompleted, hReported⟩ := hDue
      rw [hIdle] at hReported
      exact ⟨hInterrupt, hCompleted, .inl (hReported.resolve_right id)⟩
    · exact hDue
  | irq => exact hDue.stepIrq h hx

end CanTx

structure CanTx.Fresh (tx : CanTx) : Prop where
  irq : tx.irq = .idle
  calls : ∀ task, ∃ status, tx.calls task = .returned status
  logs : ∀ x, tx.logs x = ⟨false, none, []⟩
  flags : ∀ x < 3, (tx.flags x).rqcp = false

/-- Each request of `CAN_transmit_IT` that completes is flagged with its outcome until it is reported
with it, once, at the latest by an invocation of the handler that begins when it has completed. No
acknowledgement changes the flags of another mailbox. -/
structure TxCompletionsKept (events : Nat → TxEvent) (states : Nat → CanTx) : Prop where
  pending : ∀ n, ∀ x < 3, ((states n).logs x).interrupt = true →
    ((states n).logs x).completed = none → ((states n).logs x).callbacks = []
  kept : ∀ n, ∀ x < 3, ∀ ok, ((states n).logs x).interrupt = true →
    ((states n).logs x).completed = some ok →
      ((states n).flags x).rqcp = true ∧ ((states n).flags x).txok = ok ∧
          ((states n).logs x).callbacks = [] ∨
        ((states n).logs x).callbacks = [ok]
  handled : ∀ n m, n ≤ m → ∀ x < 3, ∀ ok, (states n).irq = .testing 0 →
    ((states n).logs x).interrupt = true → ((states n).logs x).completed = some ok →
    (∀ k, n ≤ k → k < m → (states k).loads (events k) ≠ some x) → (states m).irq = .idle →
      ((states m).logs x).callbacks = [ok]
  others : ∀ n, ∀ x ∈ (states n).acknowledges (events n), ∀ y < 3, y ≠ x →
    (states (n + 1)).flags y = (states n).flags y

def CanTx.sending (tx : CanTx) (events : Nat → TxEvent) : Nat → CanTx := after CanTx.step events tx

section Runs

variable {tx : CanTx} {events : Nat → TxEvent}

theorem CanTx.Fresh.ordered (h : tx.Fresh) : tx.Ordered := by
  refine ⟨fun x hx => ⟨fun hSet => ?_, fun hSome => ?_, fun _ => ?_⟩, ?_, fun task x hPolls => ?_,
    fun task x status value hCall => ?_⟩
  · exact absurd ((h.flags x hx).symm.trans hSet) nofun
  · rw [h.logs x] at hSome
    exact absurd rfl hSome
  · rw [h.logs x, Option.toList_none, ite_self]
  · rw [h.irq]
    exact trivial
  · obtain ⟨status, hCall⟩ := h.calls task
    rw [hCall] at hPolls
    cases hPolls
  · obtain ⟨_, hReturned⟩ := h.calls task
    exact absurd (hReturned.symm.trans hCall) nofun

theorem CanTx.Fresh.sending (h : tx.Fresh)
    (hAlone : ∀ n, (tx.sending events n).ReadsAlone (events n))
    (hSeparate : ∀ n, (tx.sending events n).Separate (events n))
    (hApart : ∀ n, (tx.sending events n).LoadsApart (events n)) (n : Nat) :
    (tx.sending events n).Ordered := by
  induction n with
  | zero => exact h.ordered
  | succ n ih => exact ih.step (hAlone n) (hSeparate n) (hApart n)

theorem CanTx.sending_due (h : ∀ n, (tx.sending events n).Ordered) {n m x : Nat} {ok : Bool}
    (hLe : n ≤ m) (hx : x < 3) (hDue : (tx.sending events n).Due x ok)
    (hLoads : ∀ k, n ≤ k → k < m → (tx.sending events k).loads (events k) ≠ some x) :
    (tx.sending events m).Due x ok := by
  induction m, hLe using Nat.le_induction with
  | base => exact hDue
  | succ m hLe ih =>
    have hEarlier := ih fun k hn hm => hLoads k hn (Nat.lt_succ_of_lt hm)
    exact hEarlier.step (h m) hx (hLoads m hLe (Nat.lt_succ_self m))

def TxEvent.caller : TxEvent → Option Nat
  | .call i _ _ => some i
  | .task i => some i
  | _ => none

theorem CanTx.calls_step {event : TxEvent} {other : Nat} (hNe : event.caller ≠ some other) :
    (CanTx.step event tx).calls other = tx.calls other := by
  cases event with
  | complete x ok lost failed =>
    rw [CanTx.step, CanTx.complete]
    split <;> rfl
  | priorities word => rfl
  | call task poll frame =>
    have hOther : other ≠ task := fun hEq => hNe (congrArg some hEq.symm)
    rw [CanTx.step]
    split
    · exact CanTx.setCall_of_ne hOther
    · rfl
  | task task =>
    have hOther : other ≠ task := fun hEq => hNe (congrArg some hEq.symm)
    rw [CanTx.step]
    unfold CanTx.stepTask
    split
    · refine (CanTx.setCall_of_ne hOther).trans ?_
      rw [CanTx.request]
      split <;> rfl
    · exact CanTx.setCall_of_ne hOther
    · exact CanTx.setCall_of_ne hOther
  | enter =>
    rw [CanTx.step]
    split <;> rfl
  | irq =>
    rw [CanTx.step]
    unfold CanTx.stepIrq
    split <;> rfl

theorem CanTx.calls_sending {other : Nat} (hNe : ∀ n, (events n).caller ≠ some other) (n : Nat) :
    (tx.sending events n).calls other = tx.calls other := by
  induction n with
  | zero => rfl
  | succ n ih => exact (CanTx.calls_step (hNe n)).trans ih

theorem CanTx.Fresh.separate (h : tx.Fresh) (task : Nat)
    (hOne : ∀ n other, other ≠ task → (events n).caller ≠ some other) (n : Nat) :
    (tx.sending events n).Separate (events n) := by
  intro x hLoads other
  by_cases hOther : other = task
  · subst hOther
    cases hEvent : events n with
    | task loader =>
      have hLoader : loader = other := by
        by_contra hNe
        exact hOne n loader hNe (by rw [hEvent]; rfl)
      rw [hEvent, hLoader, loadsIt] at hLoads
      split at hLoads
      · rename_i hCall
        rw [hCall]
        exact (Option.some_ne_none x).symm
      · cases hLoads
    | _ =>
      rw [hEvent] at hLoads
      cases hLoads
  · obtain ⟨status, hReturned⟩ := h.calls other
    rw [CanTx.calls_sending (fun n => hOne n other hOther), hReturned]
    exact (Option.some_ne_none x).symm

theorem CanTx.Ordered.others (h : tx.Ordered) {event : TxEvent} {x y : Nat}
    (hAck : x ∈ tx.acknowledges event) (hy : y < 3) (hNe : y ≠ x) :
    (CanTx.step event tx).flags y = tx.flags y := by
  cases event with
  | complete x ok lost failed => cases hAck
  | priorities word => cases hAck
  | call task poll frame => cases hAck
  | enter => cases hAck
  | task task =>
    rw [acknowledges] at hAck
    split at hAck
    · rename_i x status value hCall
      cases hAck
      rw [CanTx.step, CanTx.stepTask, hCall]
      exact (CanTx.flags_write (h.values task x status value hCall) hy).trans (if_neg hNe)
    · cases hAck
  | irq =>
    rw [acknowledges] at hAck
    split at hAck
    · rename_i x success value hAt
      cases hAck
      have hIrq := h.irq
      rw [hAt] at hIrq
      rw [CanTx.step, CanTx.stepIrq, hAt]
      exact (CanTx.flags_write hIrq.2 hy).trans (if_neg hNe)
    · cases hAck

theorem CanTx.completions_kept (h : ∀ n, (tx.sending events n).Ordered) :
    TxCompletionsKept events (tx.sending events) := by
  refine ⟨fun n x hx hInterrupt hNone => ?_, fun n x hx ok hInterrupt hSome => ?_,
    fun n m hLe x hx ok hEntered hInterrupt hSome hLoads hIdle => ?_,
    fun n x hAck y hy hNe => (h n).others hAck hy hNe⟩
  · have hCallbacks := ((h n).fits x hx).callbacks hInterrupt
    rwa [hNone, Option.toList_none, ite_self] at hCallbacks
  · have hFits := (h n).fits x hx
    have hCallbacks := hFits.callbacks hInterrupt
    by_cases hSet : ((tx.sending events n).flags x).rqcp = true
    · rw [if_pos hSet] at hCallbacks
      exact .inl ⟨hSet, Option.some.inj ((hFits.completed hSet).symm.trans hSome), hCallbacks⟩
    · rw [if_neg hSet, hSome] at hCallbacks
      exact .inr hCallbacks
  · have hDue : (tx.sending events n).Due x ok := by
      refine ⟨hInterrupt, hSome, .inr ?_⟩
      rw [hEntered]
      exact Nat.zero_le x
    have hReported := (CanTx.sending_due h hLe hx hDue hLoads).reported
    rw [hIdle] at hReported
    exact hReported.resolve_right id

/-- No completion is lost, or reported twice, in a run in which every value to acknowledge with is
read when no other mailbox has completed, and no mailbox is loaded that is about to be reported. -/
theorem can_completions_kept (h : tx.Fresh)
    (hSeparate : ∀ n, (tx.sending events n).Separate (events n))
    (hAlone : ∀ n, (tx.sending events n).ReadsAlone (events n))
    (hApart : ∀ n, (tx.sending events n).LoadsApart (events n)) :
    TxCompletionsKept events (tx.sending events) :=
  CanTx.completions_kept (h.sending hAlone hSeparate hApart)

end Runs

def sampleCanTx : CanTx :=
  ⟨0x1C000000, .idle, fun _ => .returned .ok, fun _ => ⟨false, none, []⟩⟩

theorem sampleCanTx_fresh : sampleCanTx.Fresh :=
  ⟨rfl, fun _ => ⟨.ok, rfl⟩, fun _ => rfl, by decide⟩

def loadedFrame : CanFrame := ⟨0x123, 1, standardId, dataFrame, fun _ => 0, 0⟩

/-- `CAN_transmit_IT` loads mailbox 0, then mailbox 1; then come the other events. -/
def loadTwo (rest : List TxEvent) : List TxEvent :=
  [.call 0 false (some loadedFrame), .task 0, .task 0, .task 0, .priorities 0x01000000,
    .call 0 false (some loadedFrame), .task 0, .task 0, .task 0, .priorities 0x02000000] ++ rest

def txRun (events : List TxEvent) (n : Nat) : TxEvent :=
  events[n]?.getD (.priorities 0x02000000)

def serveOne : List TxEvent := [.enter, .irq, .irq, .irq, .irq, .irq, .irq]

theorem txRun_separate {events : List TxEvent}
    (hOne : ∀ event ∈ events, event.caller = none ∨ event.caller = some 0) (n : Nat) :
    (sampleCanTx.sending (txRun events) n).Separate (txRun events n) := by
  refine sampleCanTx_fresh.separate 0 (fun n other hNe hCaller => ?_) n
  rw [txRun] at hCaller
  cases hEvent : events[n]? with
  | none =>
    rw [hEvent] at hCaller
    cases hCaller
  | some event =>
    rw [hEvent] at hCaller
    obtain hNone | hZero := hOne event (List.mem_of_getElem? hEvent)
    · exact absurd (hNone.symm.trans hCaller) nofun
    · exact hNe (Option.some.inj (hCaller.symm.trans hZero))

/-- Each completion is served before the next, and a more urgent interrupt loads mailbox 2 while
the handler is about to report mailbox 0. -/
def oneByOne : List TxEvent :=
  loadTwo (.complete 0 true false false :: .enter :: .irq :: .irq ::
    .call 0 false (some loadedFrame) :: .task 0 :: .task 0 :: .task 0 :: .irq :: .irq ::
    .irq :: .irq :: .complete 1 false true false :: serveOne)

theorem oneByOne_kept (n : Nat) :
    (sampleCanTx.sending (txRun oneByOne) n).ReadsAlone (txRun oneByOne n) ∧
      (sampleCanTx.sending (txRun oneByOne) n).LoadsApart (txRun oneByOne n) := by
  by_cases hLt : n < 30
  · have hAll : ∀ n < 30, (sampleCanTx.sending (txRun oneByOne) n).ReadsAlone (txRun oneByOne n) ∧
        (sampleCanTx.sending (txRun oneByOne) n).LoadsApart (txRun oneByOne n) := by
      unfold CanTx.ReadsAlone CanTx.LoadsApart
      decide
    exact hAll n hLt
  · have hEvent : txRun oneByOne n = .priorities 0x02000000 := by
      rw [txRun, List.getElem?_eq_none (Nat.le_of_not_lt hLt)]
      rfl
    rw [hEvent]
    exact ⟨nofun, nofun⟩

theorem can_completions_kept_one_by_one :
    ((sampleCanTx.sending (txRun oneByOne) 22).logs 0).callbacks = [true] ∧
      TxCompletionsKept (txRun oneByOne) (sampleCanTx.sending (txRun oneByOne)) :=
  ⟨by decide, can_completions_kept sampleCanTx_fresh (txRun_separate (by decide))
    (fun n => (oneByOne_kept n).1) fun n => (oneByOne_kept n).2⟩

/-- Both complete before the handler is entered: it clears the second unseen. -/
def overlapping : List TxEvent :=
  loadTwo (.complete 0 true false false :: .complete 1 true false false :: serveOne)

theorem overlapping_completion_lost :
    ¬ ∀ (tx : CanTx) (events : Nat → TxEvent), tx.Fresh →
      (∀ n, (tx.sending events n).Separate (events n)) →
        TxCompletionsKept events (tx.sending events) := by
  intro hClaim
  have hKept := hClaim sampleCanTx (txRun overlapping) sampleCanTx_fresh
    (txRun_separate (by decide))
  have hLost := hKept.kept 18 1 (by decide) true (by decide) (by decide)
  exact absurd hLost (by decide)

end KoRTOS.Hal
