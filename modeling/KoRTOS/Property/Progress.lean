import KoRTOS.Evaluation
import KoRTOS.Invariant.Candidates

/-!
# Events that have no outcome

A transition is undefined where `waitlist_unblock` finds nobody to release in a
waitlist that is not empty: it goes on with index -1. That needs a list under
`PRIORITY` in which only the idle task waits, so it never happens in a run in
which the idle task does not block.
-/

namespace KoRTOS

/-- What the guards of the system ask of an event, all of it before a call begins. -/
def Admitted (s : Sys) : Event → Prop
  | .call c =>
    s.kernel.pendSV = false ∧ s.pending s.kernel.currentTask = none ∧
      s.created.allows c = true ∧ ∀ call, c = .create call → s.created.fresh call = true
  | .resume => s.kernel.pendSV = false ∧ s.pending s.kernel.currentTask ≠ none
  | .isrSend queue _ => Objects.hasOptional s.created.queue queue = true
  | .isrRecv queue _ => Objects.hasOptional s.created.queue queue = true
  | .tick => True
  | .pendSV => True

def sendServes (k : Kernel) (q : QueueId) : Option WaitlistRef :=
  if (k.queues q).maxItems ≤ (k.queues q).count then none else some (.queueRecv q)

def recvServes (k : Kernel) (q : QueueId) : Option WaitlistRef :=
  if (k.queues q).count = 0 then none else some (.queueSend q)

def Piece.serves (k : Kernel) : Piece → Option WaitlistRef
  | .call (.semPost (some i)) => some (.sem i)
  | .call (.mutexUnlock (some i)) =>
    if (k.mutexes i).owner ≠ some k.currentTask then none else some (.mutex i)
  | .call (.queueSend (some q) (some _) _) => sendServes k q
  | .call (.queueRecv (some q) false _) => recvServes k q
  | .rest (.queueSend q _ _ _) => if k.current.timeout then none else sendServes k q
  | .rest (.queueRecv q _ _) => if k.current.timeout then none else recvServes k q
  | _ => none

def served (s : Sys) : Event → Option WaitlistRef
  | .call c => (Piece.call c).serves s.kernel
  | .resume => (s.pending s.kernel.currentTask).bind fun rest => (Piece.rest rest).serves s.kernel
  | .isrSend queue item => (Piece.call (.queueSend queue item 0)).serves s.kernel
  | .isrRecv queue itemNull => (Piece.call (.queueRecv queue itemNull 0)).serves s.kernel
  | .tick => none
  | .pendSV => none

/-- No waiter is as urgent as the scan of `waitlist_unblock` asks for. -/
def Unservable (k : Kernel) (w : WaitlistRef) : Prop :=
  k.policy w = .priority ∧ k.waiters w ≠ [] ∧ ∀ t ∈ k.waiters w, osPriorityLowest < k.eff t

section Choosing

variable {k k' : Kernel} {w : WaitlistRef} {wl : Waitlist} {l : List TaskId}

theorem bind_eq_none_of_total {α β : Type*} {o : Option α} {f : α → Option β}
    (hf : ∀ a, f a ≠ none) : o.bind f = none ↔ o = none := by
  cases o with
  | none => simp
  | some a => simpa using hf a

theorem waitlistSelect_eq_none (h : wl.Represents l) (hPolicy : wl.schedulePolicy = .priority) :
    waitlistSelect k wl = none ↔ ∀ t ∈ l, osPriorityLowest < k.eff t := by
  rw [waitlistSelect_priority h hPolicy]
  obtain ⟨hFold, hAll⟩ | ⟨i, p, hFold, hLt, hMin⟩ := Scan.foldl_cases (waiterKey k l)
    (List.range l.length) (osPriorityLowest + 1) none
  · rw [hFold]
    refine iff_of_true rfl fun t ht => ?_
    obtain ⟨j, hj, rfl⟩ := List.mem_iff_getElem.mp ht
    refine hAll j (List.mem_range.mpr hj) _ ?_
    rw [waiterKey, List.getElem?_eq_getElem hj]
    rfl
  · rw [hFold]
    refine iff_of_false (by simp) fun hAll => ?_
    obtain ⟨t, ht, hp⟩ := Option.map_eq_some_iff.mp hMin.1
    have hHigh : osPriorityLowest < p := hp ▸ hAll t (List.mem_of_getElem? ht)
    omega

theorem entry_of_select (h : wl.Represents l) (hne : l ≠ []) {i : Nat}
    (hSelect : waitlistSelect k wl = some i) : wl.taskWaitlist i ≠ none := by
  have hGet : ∃ t, l[i]? = some t := by
    cases hPolicy : wl.schedulePolicy with
    | fifo =>
      rw [waitlistSelect, hPolicy] at hSelect
      cases hSelect
      obtain ⟨t, rest, rfl⟩ := List.exists_cons_of_ne_nil hne
      exact ⟨t, rfl⟩
    | priority =>
      rw [waitlistSelect_priority h hPolicy] at hSelect
      obtain ⟨hFold, _⟩ | ⟨j, p, hFold, _, hMin⟩ := Scan.foldl_cases (waiterKey k l)
        (List.range l.length) (osPriorityLowest + 1) none
      · rw [hFold] at hSelect
        cases hSelect
      · rw [hFold] at hSelect
        cases hSelect
        obtain ⟨t, ht, _⟩ := Option.map_eq_some_iff.mp hMin.1
        exact ⟨t, ht⟩
  obtain ⟨t, ht⟩ := hGet
  rw [h.entry, ht]
  simp

theorem waitlistUnblock_eq_none (h : Listed k) :
    waitlistUnblock k w = none ↔ Unservable k w := by
  have hList := h w
  unfold waitlistUnblock Unservable
  dsimp only
  split
  · rename_i hZero
    rw [hList.count, List.length_eq_zero_iff] at hZero
    exact iff_of_false (by simp) fun hStuck => hStuck.2.1 hZero
  · rename_i hPos
    have hne : k.waiters w ≠ [] := by
      rwa [hList.count, List.length_eq_zero_iff] at hPos
    cases hSelect : waitlistSelect k (k.waitlist w) with
    | none =>
      refine iff_of_true rfl ?_
      have hPolicy : (k.waitlist w).schedulePolicy = .priority := by
        cases hPolicy : (k.waitlist w).schedulePolicy with
        | fifo =>
          rw [waitlistSelect, hPolicy] at hSelect
          cases hSelect
        | priority => rfl
      exact ⟨hPolicy, hne, (waitlistSelect_eq_none hList hPolicy).mp hSelect⟩
    | some i =>
      obtain ⟨t, ht⟩ := Option.ne_none_iff_exists'.mp (entry_of_select hList hne hSelect)
      refine iff_of_false (by simp [ht]) ?_
      rintro ⟨hPolicy, _, hAll⟩
      rw [(waitlistSelect_eq_none hList hPolicy).mpr hAll] at hSelect
      cases hSelect

theorem Unservable.congr (hPolicy : k'.policy = k.policy) (hWaiters : k'.waiters = k.waiters)
    (hEff : k'.eff = k.eff) : Unservable k' w ↔ Unservable k w := by
  rw [Unservable, Unservable, hPolicy, hWaiters, hEff]

theorem queueWake_eq_none (h : Listed k) : queueWake k w = none ↔ Unservable k w := by
  rw [← waitlistUnblock_eq_none h, queueWake]
  refine bind_eq_none_of_total ?_
  rintro ⟨_, _ | _⟩ <;> simp

end Choosing

section Pieces

variable {k : Kernel} {q : QueueId} {item : Nat → U8} {n d : U32} {c : ApiCall} {rest : Pending}

/-- What is asked of the waitlist that a piece serves, if it serves one. -/
def Stuck (k : Kernel) (w : Option WaitlistRef) : Prop := ∃ w', w = some w' ∧ Unservable k w'

theorem not_stuck_none : ¬ Stuck k none := by
  rintro ⟨_, hNone, _⟩
  cases hNone

theorem stuck_some {w : WaitlistRef} : Stuck k (some w) ↔ Unservable k w := by
  simp [Stuck]

theorem queueWake_setQueue (h : Listed k) (queue : Queue) {w : WaitlistRef}
    (hSend : queue.sendWaitlist = (k.queues q).sendWaitlist)
    (hRecv : queue.recvWaitlist = (k.queues q).recvWaitlist) :
    queueWake (k.setQueue q queue) w = none ↔ Unservable k w := by
  have hQuiet : Quiet k (k.setQueue q queue) := .setQueue hSend hRecv
  rw [queueWake_eq_none (h.congr hQuiet.sameBlocking)]
  exact Unservable.congr (policy_of_waitlist hQuiet.waitlist) hQuiet.waiters
    (SameRanks.of_userTasks hQuiet.userTasks).eff

theorem queueSendRound_eq_none (h : Listed k) :
    queueSendRound k q item n d = none ↔ Stuck k (sendServes k q) := by
  unfold queueSendRound sendServes
  split
  · exact iff_of_false (by simp) not_stuck_none
  · rw [stuck_some, ← queueWake_setQueue h ((k.queues q).pushItem item) rfl rfl]
    exact bind_eq_none_of_total (by simp)

theorem queueRecvRound_eq_none (h : Listed k) :
    queueRecvRound k q n d = none ↔ Stuck k (recvServes k q) := by
  unfold queueRecvRound recvServes
  split
  · exact iff_of_false (by simp) not_stuck_none
  · rw [stuck_some, ← queueWake_setQueue h (k.queues q).popItem rfl rfl]
    exact bind_eq_none_of_total (by simp)

theorem osSemPost_eq_none (h : Listed k) {i : SemId} :
    osSemPost k (some i) = none ↔ Unservable k (.sem i) := by
  rw [← waitlistUnblock_eq_none h, osSemPost]
  refine bind_eq_none_of_total ?_
  rintro ⟨_, _ | _⟩ <;> simp

theorem osMutexUnlock_eq_none (h : Listed k) {i : MutexId} :
    osMutexUnlock k (some i) = none ↔ Stuck k ((Piece.call (.mutexUnlock (some i))).serves k) := by
  unfold osMutexUnlock Piece.serves
  dsimp only
  split
  · exact iff_of_false (by simp) not_stuck_none
  · have hSame : SameBlocking k (k.modifyTask k.currentTask (removeOwnedMutex i)) :=
      .removeOwnedMutex
    rw [stuck_some, ← Unservable.congr (policy_of_waitlist hSame.waitlist) hSame.waiters
      SameRanks.removeOwnedMutex.eff, ← waitlistUnblock_eq_none (h.congr hSame)]
    refine bind_eq_none_of_total ?_
    rintro ⟨_, _ | _⟩ <;> simp

theorem runCall_eq_none (h : Listed k) (hCall : ∀ call, c ≠ .create call) :
    runCall k c = none ↔ Stuck k ((Piece.call c).serves k) := by
  have hTotal : ∀ {c : ApiCall}, runCall k c ≠ none → (Piece.call c).serves k = none →
      (runCall k c = none ↔ Stuck k ((Piece.call c).serves k)) := fun hSome hNone =>
    iff_of_false hSome (hNone ▸ not_stuck_none)
  cases c with
  | create call => exact absurd rfl (hCall call)
  | taskDelay => exact hTotal (by simp [runCall]) rfl
  | semWait => exact hTotal (by simp [runCall]) rfl
  | mutexLock => exact hTotal (by simp [runCall]) rfl
  | semPost sem =>
    cases sem with
    | none => exact hTotal (by simp [runCall, osSemPost]) rfl
    | some i =>
      rw [runCall, osSemPost_eq_none h]
      exact stuck_some.symm
  | mutexUnlock mtx =>
    cases mtx with
    | none => exact hTotal (by simp [runCall, osMutexUnlock]) rfl
    | some i => exact osMutexUnlock_eq_none h
  | queueSend queue item n =>
    cases queue with
    | none => exact hTotal (by simp [runCall, osQueueSendFromTask]) rfl
    | some q =>
      cases item with
      | none => exact hTotal (by simp [runCall, osQueueSendFromTask]) rfl
      | some item => exact queueSendRound_eq_none h
  | queueRecv queue itemNull n =>
    cases queue with
    | none => exact hTotal (by simp [runCall, osQueueRecvFromTask]) rfl
    | some q =>
      cases itemNull with
      | true => exact hTotal (by simp [runCall, osQueueRecvFromTask]) rfl
      | false => exact queueRecvRound_eq_none h

theorem resumePending_eq_none (h : Listed k) :
    resumePending k rest = none ↔ Stuck k ((Piece.rest rest).serves k) := by
  cases rest with
  | queueSend q item n d =>
    unfold resumePending Piece.serves
    dsimp only
    split
    · exact iff_of_false (by simp) not_stuck_none
    · exact queueSendRound_eq_none h
  | queueRecv q n d =>
    unfold resumePending Piece.serves
    dsimp only
    split
    · exact iff_of_false (by simp) not_stuck_none
    · exact queueRecvRound_eq_none h
  | _ => exact iff_of_false (by simp [resumePending]) not_stuck_none

theorem rest_of_zero {k' : Kernel} {f : Flow} (hs : Section k (.call c) k' f)
    (hZero : (∃ queue item, c = .queueSend queue item 0) ∨
      ∃ queue itemNull, c = .queueRecv queue itemNull 0) : f.rest = none := by
  have hNoBlock : ∀ {w n rest}, ¬ Blocks k (.call c) w n rest := by
    intro w n rest hBlocks
    obtain ⟨queue, item, rfl⟩ | ⟨queue, itemNull, rfl⟩ := hZero
    · cases hBlocks with
      | send hPiece _ hStay =>
        cases hPiece
        exact hStay (.inl rfl)
      | recv hPiece => cases hPiece
    · cases hBlocks with
      | send hPiece => cases hPiece
      | recv hPiece _ hStay =>
        cases hPiece
        exact hStay (.inl rfl)
  obtain ⟨queue, item, rfl⟩ | ⟨queue, itemNull, rfl⟩ := hZero <;>
  · cases hs with
    | block hBlocks => exact absurd hBlocks hNoBlock
    | _ => rfl

end Pieces

section Events

variable {s : Sys} {e : Event} {trace : List Label}

theorem settleIsr_ne_none {k : Kernel} {f : Flow} (hRest : f.rest = none) :
    s.settleIsr (k, f) ≠ none := by
  cases f with
  | returned => simp [Sys.settleIsr]
  | suspended => cases hRest

theorem isrSend_eq_none {queue : Option QueueId} {item : Option (Nat → U8)}
    (hAllowed : Objects.hasOptional s.created.queue queue = true) :
    step s (.isrSend queue item) = none ↔
      runCall s.kernel (.queueSend queue item 0) = none := by
  rw [step, if_pos hAllowed, runCall, osQueueSendFromIsr]
  cases hCall : osQueueSendFromTask s.kernel queue item 0 with
  | none => simp
  | some result =>
    obtain ⟨k', f⟩ := result
    have hRest := rest_of_zero (section_osQueueSendFromTask hCall) (.inl ⟨queue, item, rfl⟩)
    cases f with
    | suspended => cases hRest
    | returned err data => cases err <;> simp [Sys.settleIsr]

theorem isrRecv_eq_none {queue : Option QueueId} {itemNull : Bool}
    (hAllowed : Objects.hasOptional s.created.queue queue = true) :
    step s (.isrRecv queue itemNull) = none ↔
      runCall s.kernel (.queueRecv queue itemNull 0) = none := by
  rw [step, if_pos hAllowed, runCall, osQueueRecvFromIsr]
  cases hCall : osQueueRecvFromTask s.kernel queue itemNull 0 with
  | none => simp
  | some result =>
    obtain ⟨k', f⟩ := result
    have hRest := rest_of_zero (section_osQueueRecvFromTask hCall) (.inr ⟨queue, itemNull, rfl⟩)
    simpa using settleIsr_ne_none hRest

theorem step_eq_none (h : Listed s.kernel) (hAdmitted : Admitted s e) :
    step s e = none ↔ Stuck s.kernel (served s e) := by
  cases e with
  | call c =>
    obtain ⟨hRun, hFree, hAllowed, hFresh⟩ := hAdmitted
    have hGuard : ¬ (s.kernel.pendSV ∨ (s.pending s.kernel.currentTask).isSome ∨
        ¬ s.created.allows c) := by
      simp [hRun, hFree, hAllowed]
    unfold step
    dsimp only
    rw [if_neg hGuard]
    cases c with
    | create c =>
      refine iff_of_false ?_ not_stuck_none
      simp [create, hFresh c rfl]
    | taskDelay | semWait | semPost | mutexLock | mutexUnlock | queueSend | queueRecv =>
      rw [served, ← runCall_eq_none h (by simp)]
      exact bind_eq_none_of_total (by simp)
  | resume =>
    obtain ⟨hRun, hInside⟩ := hAdmitted
    obtain ⟨rest, hRest⟩ := Option.ne_none_iff_exists'.mp hInside
    rw [step, if_neg (by simp [hRun]), served, hRest]
    change (resumePending s.kernel rest).bind _ = none ↔ Stuck _ ((Piece.rest rest).serves s.kernel)
    rw [← resumePending_eq_none h]
    exact bind_eq_none_of_total (by simp)
  | isrSend queue item =>
    rw [isrSend_eq_none hAdmitted]
    exact runCall_eq_none h (by simp)
  | isrRecv queue itemNull =>
    rw [isrRecv_eq_none hAdmitted]
    exact runCall_eq_none h (by simp)
  | tick => exact iff_of_false (by simp [step]) not_stuck_none
  | pendSV => exact iff_of_false (by simp [step]) not_stuck_none

theorem admitted_of_step {s' : Sys} {out : Option Ret} (h : step s e = some (s', out)) :
    Admitted s e := by
  cases move_of_step h with
  | create hRun hFree hFresh => exact ⟨hRun, hFree, rfl, by simpa using hFresh⟩
  | call hRun hFree hAllowed _ hCall =>
    exact ⟨hRun, hFree, hAllowed, fun call hCreate => absurd hCreate (hCall call)⟩
  | resume hRun hPending => exact ⟨hRun, by simp [hPending]⟩
  | isrSend hAllowed => exact hAllowed
  | isrRecv hAllowed => exact hAllowed
  | tick => trivial
  | pendSV => trivial

theorem unservable_iff {k : Kernel} (h : UserPriorities k) {w : WaitlistRef} :
    Unservable k w ↔ k.policy w = .priority ∧ k.waiters w ≠ [] ∧
      (∀ t ∈ k.waiters w, t = idleTaskIdx) ∧ osPriorityLowest < k.eff idleTaskIdx := by
  constructor
  · rintro ⟨hPolicy, hne, hAll⟩
    have hIdle : ∀ t ∈ k.waiters w, t = idleTaskIdx := by
      intro t ht
      by_contra hUser
      exact absurd (hAll t ht) (Nat.not_lt.mpr (h.eff_le t hUser))
    refine ⟨hPolicy, hne, hIdle, ?_⟩
    obtain ⟨t, ht⟩ := List.exists_mem_of_ne_nil _ hne
    exact hIdle t ht ▸ hAll t ht
  · rintro ⟨hPolicy, hne, hIdle, hLow⟩
    exact ⟨hPolicy, hne, fun t ht => hIdle t ht ▸ hLow⟩

end Events

/-- In every run in which no task owns more mutexes than its control block has room for, an event
that is admitted has no outcome exactly if it serves a waitlist under `PRIORITY` in which nobody
but the idle task waits, with the priority it was given. -/
theorem stuck_iff {trace : List Label} {s : Sys} {e : Event} (hReach : Reaches trace s)
    (_hLimit : ∀ l ∈ trace, WithinMutexLimit l.post.kernel) (hAdmitted : Admitted s e) :
    step s e = none ↔ ∃ w, served s e = some w ∧ s.kernel.policy w = .priority ∧
      s.kernel.waiters w ≠ [] ∧ (∀ t ∈ s.kernel.waiters w, t = idleTaskIdx) ∧
      osPriorityLowest < s.kernel.eff idleTaskIdx := by
  rw [step_eq_none hReach.seated.entries.listed hAdmitted, Stuck]
  refine exists_congr fun w => and_congr_right fun _ => ?_
  exact unservable_iff hReach.candidates.priorities

/-- Task 1 posts to a semaphore on which only the idle task waits. -/
theorem stuck_iff_idle_waits :
    ∃ trace s, Reaches trace s ∧ step s (.call (.semPost (some 0))) = none := by
  have hCheck : checkBoot sampleImage [sampleTask 5, .sem (some 0) 0 (some .priority)]
      [.call (.taskDelay 1), .pendSV, .call (.semWait (some 0) osWaitForever), .tick, .pendSV,
        .resume]
      (fun l => decide (WithinMutexLimit l.post.kernel))
      (fun s => !s.kernel.pendSV && (s.pending s.kernel.currentTask).isNone && s.created.sem 0 &&
        s.kernel.policy (.sem 0) == .priority && s.kernel.waiters (.sem 0) == [idleTaskIdx] &&
        decide (osPriorityLowest < s.kernel.eff idleTaskIdx)) = true := by
    decide +kernel
  obtain ⟨trace, s, hReach, _, hLimit, hFinal⟩ := reaches_of_checkBoot hCheck
  simp only [Bool.and_eq_true, Bool.not_eq_true', Option.isNone_iff_eq_none, beq_iff_eq,
    decide_eq_true_eq] at hLimit hFinal
  obtain ⟨⟨⟨⟨⟨hRun, hFree⟩, hCreated⟩, hPolicy⟩, hWaiters⟩, hLow⟩ := hFinal
  have hAdmitted : Admitted s (.call (.semPost (some 0))) := ⟨hRun, hFree, hCreated, by simp⟩
  refine ⟨trace, s, hReach,
    (stuck_iff hReach hLimit hAdmitted).mpr ⟨.sem 0, rfl, hPolicy, ?_, ?_, hLow⟩⟩
  · simp [hWaiters]
  · simp [hWaiters]

/-- While the application keeps to the limits, everything that is admitted is possible: whenever
no switch is pending, the running task goes on in its call, or with any call it likes. -/
theorem always_possible {trace : List Label} {s : Sys} (hReach : Reaches trace s)
    (hUsed : ∀ l ∈ trace, WellUsed l) :
    (∀ e, (∃ next, step s e = some next) ↔ Admitted s e) ∧
      (s.kernel.pendSV = false →
        (∃ rest next, s.pending s.kernel.currentTask = some rest ∧
          step s .resume = some next) ∨
        s.pending s.kernel.currentTask = none ∧ ∀ c, (∀ call, c ≠ .create call) →
          s.created.allows c = true → ∃ next, step s (.call c) = some next) := by
  have hPossible : ∀ e, (∃ next, step s e = some next) ↔ Admitted s e := by
    intro e
    constructor
    · rintro ⟨next, hStep⟩
      exact admitted_of_step hStep
    · intro hAdmitted
      have hWaiting := (hReach.sound fun l hl => (hUsed l hl).1).waiting
      apply Option.ne_none_iff_exists'.mp
      intro hNone
      obtain ⟨w, _, hStuck⟩ := (step_eq_none hWaiting.listed hAdmitted).mp hNone
      obtain ⟨_, hne, hIdle, _⟩ := (unservable_iff hReach.candidates.priorities).mp hStuck
      obtain ⟨t, ht⟩ := List.exists_mem_of_ne_nil _ hne
      exact (hWaiting.blocked (hWaiting.mem_waiters.mp ht)).1 (hIdle t ht)
  refine ⟨hPossible, fun hRun => ?_⟩
  cases hInside : s.pending s.kernel.currentTask with
  | some rest =>
    obtain ⟨next, hStep⟩ := (hPossible .resume).mpr ⟨hRun, by simp [hInside]⟩
    exact .inl ⟨rest, next, rfl, hStep⟩
  | none =>
    refine .inr ⟨rfl, fun c hCall hAllowed => (hPossible (.call c)).mpr ?_⟩
    exact ⟨hRun, hInside, hAllowed, fun call hEq => absurd hEq (hCall call)⟩

/-- Task 1 waits for the semaphore, and the hook of the idle task can post to it. -/
theorem always_possible_waiting :
    ∃ trace s, Reaches trace s ∧ s.kernel.waiters (.sem 0) = [1] ∧
      ∃ next, step s (.call (.semPost (some 0))) = some next := by
  have hCheck : checkBoot sampleImage [sampleTask 5, .sem (some 0) 0 (some .priority)]
      [.call (.semWait (some 0) osWaitForever), .pendSV]
      (fun l => decide (WellUsed l))
      (fun s => !s.kernel.pendSV && (s.pending s.kernel.currentTask).isNone && s.created.sem 0 &&
        s.kernel.waiters (.sem 0) == [1]) = true := by
    decide +kernel
  obtain ⟨trace, s, hReach, _, hEach, hFinal⟩ := reaches_of_checkBoot hCheck
  simp only [Bool.and_eq_true, Bool.not_eq_true', Option.isNone_iff_eq_none, beq_iff_eq,
    decide_eq_true_eq] at hEach hFinal
  obtain ⟨⟨⟨hRun, hFree⟩, hCreated⟩, hWaiters⟩ := hFinal
  have hAdmitted : Admitted s (.call (.semPost (some 0))) := ⟨hRun, hFree, hCreated, by simp⟩
  exact ⟨trace, s, hReach, hWaiters, ((always_possible hReach hEach).1 _).mpr hAdmitted⟩

end KoRTOS
