import KoRTOS.Evaluation
import KoRTOS.Invariant.Candidates

/-!
# The order of release

A release takes the task out of a waitlist that the policy serves next, a
time-out takes one out of the middle, and both keep the order of the others.
New waiters come to the end, so a waitlist is at all times in the order in which
its tasks were inserted.
-/

namespace KoRTOS

/-- The place of the task that is released next: the first one under `FIFO`, the first of the
most urgent ones under `PRIORITY`. -/
def ServedNext (k : Kernel) (w : WaitlistRef) (before : List TaskId) (t : TaskId)
    (after : List TaskId) : Prop :=
  match k.policy w with
  | .fifo => before = []
  | .priority => (∀ u ∈ before, k.eff t < k.eff u) ∧ ∀ u ∈ after, k.eff t ≤ k.eff u

/-- Task `t` became ready and `rest` is left of waitlist `w`; of other tasks and waitlists
nothing changed. -/
structure Left (k k' : Kernel) (w : WaitlistRef) (t : TaskId) (timeout : Bool)
    (rest : List TaskId) : Prop where
  task : k'.userTasks t =
    { k.userTasks t with
      currentState := .ready
      blockReason := .none
      wakeupTick := 0
      blockedWaitlist := none
      timeout := timeout }
  otherTasks : ∀ u, u ≠ t → k'.userTasks u = k.userTasks u
  waiters : (k'.waitlist w).Represents rest
  policy : k'.policy w = k.policy w
  otherWaitlists : ∀ w', w' ≠ w → k'.waitlist w' = k.waitlist w'

def inserts (w : WaitlistRef) (t : TaskId) (l : Label) : Bool :=
  !(l.pre.kernel.waiters w).contains t && (l.post.kernel.waiters w).contains t

/-- When task `t` was last inserted into waitlist `w`, counted in transitions. -/
def insertedAt (w : WaitlistRef) (t : TaskId) (trace : List Label) : Nat :=
  Transition.latest (inserts w t) trace

def Kernel.userWaiters (k : Kernel) (w : WaitlistRef) : List TaskId :=
  (k.waiters w).filter (· != idleTaskIdx)

def InsertionOrder (trace : List Label) (s : Sys) : Prop :=
  ∀ w, (s.kernel.userWaiters w).Pairwise fun t u => insertedAt w t trace < insertedAt w u trace

section Release

variable {k : Kernel} {w : WaitlistRef} {l before after : List TaskId} {t : TaskId} {j : Nat}

theorem left_of_leaveWaitlist {b : Bool} (h : (k.waitlist w).Represents l)
    (hj : ∃ hj : j < l.length, l[j] = t) :
    Left k (leaveWaitlist k w j t b) w t b (l.eraseIdx j) := by
  refine ⟨?_, ?_, ?_, ?_, ?_⟩
  · rw [userTasks_leaveWaitlist, if_pos rfl]
    rfl
  · intro u hu
    rw [userTasks_leaveWaitlist, if_neg hu]
  · rw [waitlist_leaveWaitlist, if_pos rfl]
    exact h.remove hj.1
  · rw [Kernel.policy, waitlist_leaveWaitlist, if_pos rfl]
    rfl
  · intro w' hw
    rw [waitlist_leaveWaitlist, if_neg hw]

theorem waitlistSelect_servedNext (h : (k.waitlist w).Represents l) (hSome : l ≠ [])
    (hUser : ∀ t ∈ l, k.eff t ≤ osPriorityLowest) :
    ∃ before t after, l = before ++ t :: after ∧ ServedNext k w before t after ∧
      waitlistSelect k (k.waitlist w) = some before.length := by
  unfold ServedNext Kernel.policy
  cases hPolicy : (k.waitlist w).schedulePolicy with
  | fifo =>
    obtain ⟨t, after, rfl⟩ := List.exists_cons_of_ne_nil hSome
    refine ⟨[], t, after, rfl, rfl, ?_⟩
    rw [waitlistSelect, hPolicy]
    rfl
  | priority =>
    obtain ⟨i, hSelect, t, hAt, hLeast, hFirst⟩ := waitlistSelect_of_priority h hPolicy hSome hUser
    obtain ⟨hi, rfl⟩ := List.getElem?_eq_some_iff.mp hAt
    have hLength : (l.take i).length = i := List.length_take_of_le hi.le
    refine ⟨l.take i, l[i], l.drop (i + 1), ?_, ⟨?_, ?_⟩, ?_⟩
    · rw [List.getElem_cons_drop, List.take_append_drop]
    · intro u hu
      obtain ⟨n, hn, rfl⟩ := List.mem_iff_getElem.mp hu
      rw [hLength] at hn
      refine hFirst n _ hn ?_
      rw [List.getElem_take, List.getElem?_eq_getElem]
    · intro u hu
      obtain ⟨n, hn⟩ := List.mem_iff_getElem?.mp (List.mem_of_mem_drop hu)
      exact hLeast n u hn
    · rw [hSelect, hLength]

theorem waitlistUnblock_left (h : (k.waitlist w).Represents l) (hSome : l ≠ [])
    (hUser : ∀ t ∈ l, k.eff t ≤ osPriorityLowest) :
    ∃ before t after k', l = before ++ t :: after ∧ ServedNext k w before t after ∧
      waitlistUnblock k w = some (k', some t) ∧ Left k k' w t false (before ++ after) := by
  obtain ⟨before, t, after, rfl, hNext, hSelect⟩ := waitlistSelect_servedNext h hSome hUser
  have hAt : ∃ hj : before.length < (before ++ t :: after).length,
      (before ++ t :: after)[before.length] = t := ⟨by simp, by simp⟩
  have hLeft := left_of_leaveWaitlist (b := false) h hAt
  rw [List.eraseIdx_append_of_length_le le_rfl, Nat.sub_self, List.eraseIdx_cons_zero] at hLeft
  refine ⟨before, t, after, _, rfl, hNext, ?_, hLeft⟩
  have hCount : (k.waitlist w).waitCount ≠ 0 := by
    rw [h.count, List.length_append, List.length_cons]
    omega
  unfold waitlistUnblock
  dsimp only
  rw [if_neg hCount, hSelect]
  change ((k.waitlist w).taskWaitlist before.length).bind _ = _
  rw [h.entry_eq_some.mpr hAt]
  rfl

theorem unblockTask_left (h : (k.waitlist w).Represents (before ++ t :: after))
    (hNodup : (before ++ t :: after).Nodup) (hOn : k.blockedOn t = some w)
    (hReached : wakeupReached k t) : Left k (unblockTask k t) w t true (before ++ after) := by
  obtain ⟨j, hj, hAt, hLeave⟩ := unblockTask_of_mem h hReached hOn (by simp)
  have hErase : (before ++ t :: after).eraseIdx j = before ++ after := by
    have hBefore : t ∉ before := by
      intro hMem
      exact List.disjoint_of_nodup_append hNodup hMem List.mem_cons_self
    rw [← hNodup.erase_getElem j hj, hAt, List.erase_append_right _ hBefore,
      List.erase_cons_head]
  rw [hLeave, ← hErase]
  exact left_of_leaveWaitlist h ⟨hj, hAt⟩

end Release

section Runs

variable {k k' : Kernel} {s s' : Sys} {e : Event} {out : Option Ret} {w : WaitlistRef} {t : TaskId}
  {trace : List Label}

theorem Seated.waiters_cases (h : Seated s.kernel) (hMove : Move s e s' out) (w : WaitlistRef) :
    (s'.kernel.waiters w).Sublist (s.kernel.waiters w) ∨
      s'.kernel.waiters w = s.kernel.waiters w ++ [s.kernel.currentTask] := by
  have hListed := h.entries.listed
  cases hMove with
  | @create _ k' _ _ _ _ hCreation =>
    left
    change (k'.waiters w).Sublist _
    obtain hSame | hEmpty := waiters_creation hCreation w
    · rw [hSame]
    · rw [hEmpty]
      exact List.nil_sublist _
  | call _ _ _ hSection =>
    exact ((hSection.reblocks hListed).waiters_cases hListed w).imp_right And.right
  | resume _ _ hSection =>
    exact ((hSection.reblocks hListed).waiters_cases hListed w).imp_right And.right
  | isrSend _ hSection =>
    have hCases := ((hSection.reblocks hListed).waiters_cases hListed w).imp_right And.right
    dsimp only
    split
    · rw [(quiet_countDropped _ _).waiters]
      exact hCases
    · exact hCases
  | isrRecv _ hSection =>
    exact ((hSection.reblocks hListed).waiters_cases hListed w).imp_right And.right
  | tick => exact .inl (h.entries.afterTick.2 w)
  | pendSV =>
    left
    dsimp only [pendSVHandler]
    rw [Kernel.waiters, sameButStates_osScheduleNextTask.waitlist]
    exact List.Sublist.refl _

theorem InsertionOrder.afterMove (h : InsertionOrder trace s) (hSeated : Seated s.kernel)
    (hMove : Move s e s' out) : InsertionOrder (trace ++ [⟨s, e, out, s'⟩]) s' := by
  intro w
  have hStays : ∀ u ∈ s.kernel.userWaiters w, inserts w u ⟨s, e, out, s'⟩ = false := by
    intro u hu
    have hMem : (s.kernel.waiters w).contains u = true :=
      List.contains_iff_mem.mpr (List.mem_of_mem_filter hu)
    rw [inserts, hMem]
    rfl
  have hOrder := Transition.pairwise_latest_snoc (inserts w) hStays (h w)
  obtain hSub | hEnd := hSeated.waiters_cases hMove w
  · exact hOrder.sublist (hSub.filter _)
  · unfold Kernel.userWaiters
    rw [hEnd, List.filter_append]
    by_cases hUser : s.kernel.currentTask = idleTaskIdx
    · have hNone : [s.kernel.currentTask].filter (· != idleTaskIdx) = [] := by simp [hUser]
      rw [hNone, List.append_nil]
      exact hOrder
    · have hOne : [s.kernel.currentTask].filter (· != idleTaskIdx) = [s.kernel.currentTask] := by
        simp [hUser]
      rw [hOne]
      -- the task was not in the list before, since it is not in it twice now
      have hOnce := (hSeated.afterMove hMove).entries.once (w := w) hUser
      rw [hEnd, List.count_append, List.count_singleton_self] at hOnce
      have hAbsent : s.kernel.currentTask ∉ s.kernel.waiters w :=
        List.count_eq_zero.mp (by omega)
      have hInserts : inserts w s.kernel.currentTask ⟨s, e, out, s'⟩ = true := by
        unfold inserts
        dsimp only
        rw [hEnd, List.contains_eq_mem, List.contains_eq_mem, decide_eq_false hAbsent]
        simp
      exact Transition.pairwise_latest_append (inserts w) hStays hInserts (h w)

theorem Reaches.insertionOrder (h : Reaches trace s) : InsertionOrder trace s := by
  obtain ⟨image, calls, start, hBoot, hRun⟩ := h
  have hStart : InsertionOrder [] start := by
    intro w
    rw [Kernel.userWaiters, (idle_of_boot hBoot).1]
    exact .nil
  have hBoth : InsertionOrder trace s ∧ Seated s.kernel :=
    hRun.historyInvariant (I := fun trace s => InsertionOrder trace s ∧ Seated s.kernel)
      (C := fun _ => True) ⟨hStart, .of_sound (sound_of_boot hBoot)⟩
      (fun _ _ hTaken _ hPre =>
        have hMove := move_of_step hTaken
        ⟨hPre.1.afterMove hPre.2 hMove, hPre.2.afterMove hMove⟩)
      fun _ _ => trivial
  exact hBoth.1

end Runs

/-- Both ways out of a waitlist take out one task and keep the order of the others, and over
every run that is the order in which they were inserted. -/
theorem release_order :
    (∀ (k : Kernel) (w : WaitlistRef) (l : List TaskId), (k.waitlist w).Represents l → l ≠ [] →
      (∀ t ∈ l, k.eff t ≤ osPriorityLowest) →
      ∃ before t after k', l = before ++ t :: after ∧ ServedNext k w before t after ∧
        waitlistUnblock k w = some (k', some t) ∧ Left k k' w t false (before ++ after)) ∧
    (∀ (k : Kernel) (w : WaitlistRef) (before : List TaskId) (t : TaskId) (after : List TaskId),
      (k.waitlist w).Represents (before ++ t :: after) → (before ++ t :: after).Nodup →
      k.blockedOn t = some w → wakeupReached k t →
      Left k (unblockTask k t) w t true (before ++ after)) ∧
    ∀ trace s, Reaches trace s → InsertionOrder trace s := by
  refine ⟨?_, ?_, ?_⟩
  · intro k w l h hSome hUser
    exact waitlistUnblock_left h hSome hUser
  · intro k w before t after h hNodup hOn hReached
    exact unblockTask_left h hNodup hOn hReached
  · intro trace s h
    exact h.insertionOrder

def expiredWaiters : Kernel :=
  { zeroKernel sampleImage with
    userTasks := fun t =>
      { zeroTcb with
        currentState := .blocked
        effectivePriority := if t = 2 then 7 else 4
        wakeupTick := 5
        blockedWaitlist := some (.sem 0) }
    systickCount := 6
    semaphores := fun _ => ⟨0, ⟨fun i => [2, 1, 3][i]?, 3, .priority⟩⟩ }

theorem release_order_three :
    (∃ before t after k', [2, 1, 3] = before ++ t :: after ∧
      ServedNext expiredWaiters (.sem 0) before t after ∧
      waitlistUnblock expiredWaiters (.sem 0) = some (k', some t) ∧
      Left expiredWaiters k' (.sem 0) t false (before ++ after)) ∧
    Left expiredWaiters (unblockTask expiredWaiters 1) (.sem 0) 1 true [2, 3] ∧
    ∃ trace s, s.kernel.userWaiters (.sem 0) = [2, 1] ∧ Reaches trace s ∧
      InsertionOrder trace s := by
  have hListed : (expiredWaiters.waitlist (.sem 0)).Represents [2, 1, 3] := ⟨rfl, fun _ => rfl⟩
  have hCheck : checkBoot sampleImage
      [sampleTask 1, sampleTask 2, .sem (some 0) 0 (some .fifo)]
      [.call (.taskDelay 1), .pendSV, .call (.semWait (some 0) osWaitForever), .tick, .pendSV,
        .resume, .call (.semWait (some 0) osWaitForever)]
      (fun _ => true) (fun s => s.kernel.userWaiters (.sem 0) == [2, 1]) = true := by
    decide +kernel
  obtain ⟨trace, s, hReaches, _, _, hFinal⟩ := reaches_of_checkBoot hCheck
  refine ⟨?_, ?_, trace, s, by simpa using hFinal, hReaches, release_order.2.2 trace s hReaches⟩
  · exact release_order.1 expiredWaiters (.sem 0) [2, 1, 3] hListed (by simp) (by decide)
  · exact release_order.2.1 expiredWaiters (.sem 0) [2] 1 [3] hListed (by decide) rfl (by decide)

end KoRTOS
