import KoRTOS.Evaluation
import KoRTOS.Invariant.Placement

/-!
# What one tick wakes

A tick wakes the user tasks whose wake-up time has come, all of them and no
others, takes them out of their waitlists without touching the order there, and
changes nothing else.
-/

namespace KoRTOS

/-- The next tick is at or after the wake-up time of the blocked user task `t`. -/
def Expires (k : Kernel) (t : TaskId) : Prop :=
  t ≠ idleTaskIdx ∧ t < k.taskCount ∧ (k.userTasks t).currentState = .blocked ∧
    (k.userTasks t).wakeupTick ≠ 0 ∧
    (k.systickCount + 1 - (k.userTasks t).wakeupTick).toNat < 2 ^ 31

instance (k : Kernel) (t : TaskId) : Decidable (Expires k t) := by
  unfold Expires TaskId
  infer_instance

/-- The expired tasks are woken and gone from their waitlists, and that is all. -/
structure WakesExpired (k k' : Kernel) : Prop where
  woken : ∀ t, Expires k t → k'.userTasks t = wakeTcb (k.blockedOn t).isSome (k.userTasks t)
  place : ∀ t, Expires k t → match k.blockedOn t with
    | none => (k.userTasks t).blockReason = .delay
    | some w => t ∈ k.waiters w ∧ (k.userTasks t).blockReason = w.blockReason
  others : ∀ t, ¬ Expires k t → k'.userTasks t = k.userTasks t
  waiters : ∀ w, (k'.waitlist w).Represents ((k.waiters w).filter fun t => ¬ Expires k t)
  policy : k'.policy = k.policy
  tokens : k'.tokens = k.tokens
  mutexes : ∀ i, (k'.mutexes i).owner = (k.mutexes i).owner ∧
    (k'.mutexes i).state = (k.mutexes i).state
  content : k'.content = k.content
  systickCount : k'.systickCount = k.systickCount + 1
  currentTask : k'.currentTask = k.currentTask
  taskCount : k'.taskCount = k.taskCount

section Tick

variable {k k' : Kernel} {t i : TaskId} {w : WaitlistRef}

theorem expires_iff : Expires k t ↔
    t ≠ idleTaskIdx ∧ t < k.taskCount ∧ wakeupReached (updateTickCount k) t := by
  have hSign : (k.systickCount + 1 - (k.userTasks t).wakeupTick).toNat < 2 ^ 31 ↔
      0 ≤ (k.systickCount + 1 - (k.userTasks t).wakeupTick).toInt := by
    rw [BitVec.toInt_eq_toNat_cond]
    have hLt := (k.systickCount + 1 - (k.userTasks t).wakeupTick).isLt
    split <;> omega
  rw [Expires, hSign]
  rfl

theorem filter_eraseIdx {p : TaskId → Bool} {l : List TaskId} {j : Nat} (hj : j < l.length)
    (hDrop : p l[j] = false) : (l.eraseIdx j).filter p = l.filter p := by
  induction l generalizing j with
  | nil => rfl
  | cons a l ih =>
    cases j with
    | zero =>
      have hDrop : p a = false := hDrop
      rw [List.eraseIdx_cons_zero, List.filter_cons, hDrop]
      rfl
    | succ j =>
      rw [List.eraseIdx_cons_succ, List.filter_cons, List.filter_cons,
        ih (Nat.lt_of_succ_lt_succ hj) hDrop]

theorem filter_waiters_unblockTask (h : Listed k) {p : TaskId → Bool}
    (hDrop : wakeupReached k i → p i = false) :
    ((unblockTask k i).waiters w).filter p = (k.waiters w).filter p := by
  rcases h.unblockTask_cases i with ⟨_, hEq⟩ | ⟨_, _, hEq⟩ | ⟨hReached, w', j, _, ⟨hj, hAt⟩, hEq⟩ |
    ⟨_, w', _, _, hEq⟩
  · rw [hEq]
  · rw [hEq, Kernel.waiters, Kernel.waitlist_modifyTask, Kernel.waiters]
  · rw [hEq, h.leave hj, Function.update_apply]
    split
    · subst w'
      exact filter_eraseIdx hj (by rw [hAt]; exact hDrop hReached)
    · rfl
  · rw [hEq, Kernel.waiters, Kernel.waitlist_modifyTask, Kernel.waiters]

theorem Ticked.wakeupReached (h : Ticked k k') (hReached : wakeupReached k' t) :
    wakeupReached k t := by
  rcases h.tasks t with hSame | ⟨hOld, _⟩
  · exact (Ticked.wakeupReached_congr h.systickCount hSame).mp hReached
  · exact hOld

theorem filter_waiters_unblockTasks (h : UserEntries k) (hPlaced : Placed k)
    {p : TaskId → Bool}
    (hDrop : ∀ i, i ≠ idleTaskIdx → i < k.taskCount → wakeupReached k i → p i = false) :
    ((unblockTasks k).waiters w).filter p = (k.waiters w).filter p := by
  have hRounds : UserEntries (unblockTasks k) ∧ Placed (unblockTasks k) ∧
      Ticked k (unblockTasks k) ∧
      ((unblockTasks k).waiters w).filter p = (k.waiters w).filter p := by
    refine unblockTasks_induction (P := fun k' => UserEntries k' ∧ Placed k' ∧ Ticked k k' ∧
      (k'.waiters w).filter p = (k.waiters w).filter p) ⟨h, hPlaced, .refl k, rfl⟩ ?_
    rintro k' i hUser hLt ⟨hEntries', hPlaced', hTicked, hFilter⟩
    refine ⟨hEntries'.afterUnblockTask hUser, hPlaced'.afterUnblockTask hEntries'.listed i,
      hTicked.trans (ticked_unblockTask hEntries'.listed fun _ => hPlaced'.listed hUser), ?_⟩
    rw [← hFilter]
    apply filter_waiters_unblockTask hEntries'.listed
    exact fun hReached => hDrop i hUser hLt (hTicked.wakeupReached hReached)
  exact hRounds.2.2.2

theorem userTasks_tick (hPlaced : Placed k) (h : UserEntries k) :
    (Expires k t → (osTick k).userTasks t = wakeTcb (k.blockedOn t).isSome (k.userTasks t)) ∧
    (¬ Expires k t → (osTick k).userTasks t = k.userTasks t) := by
  have hTicked := (hPlaced.afterTick h).2
  constructor
  · intro hExpires
    obtain ⟨hUser, hLt, hReached⟩ := expires_iff.mp hExpires
    have hReady := (userTasks_osTick hUser hLt).1 hReached
    obtain hSame | ⟨_, hWoken⟩ := hTicked.tasks t
    · have hSame : (osTick k).userTasks t = k.userTasks t := hSame
      rw [hSame, hExpires.2.2.1] at hReady
      cases hReady
    · exact hWoken
  · intro hNot
    by_cases hUser : t ≠ idleTaskIdx ∧ t < k.taskCount
    · apply (userTasks_osTick hUser.1 hUser.2).2
      exact fun hReached => hNot (expires_iff.mpr ⟨hUser.1, hUser.2, hReached⟩)
    · apply userTasks_osTick_skipped
      rw [not_and_or, not_not, Nat.not_lt] at hUser
      exact hUser

/-- Whoever is still in a waitlist has not expired, and nobody else has left it. -/
theorem waiters_tick (hPlaced : Placed k) (h : UserEntries k) :
    (osTick k).waiters w = (k.waiters w).filter fun t => ¬ Expires k t := by
  have hSame : SameBlocking k (updateTickCount k) :=
    SameBlocking.of_userTasks rfl rfl (by funext w; cases w <;> rfl)
  obtain ⟨hAfter, hSub⟩ := h.afterTick
  have hStay : ((osTick k).waiters w).filter (fun t => ¬ Expires k t) = (osTick k).waiters w := by
    apply List.filter_eq_self.mpr
    intro t ht
    rw [decide_eq_true_eq]
    intro hExpires
    have hBlocked := (hAfter.blocked hExpires.1 ht).2.2
    rw [(userTasks_tick hPlaced h).1 hExpires] at hBlocked
    cases hBlocked
  rw [← hStay]
  apply filter_waiters_unblockTasks (h.congr hSame) (hPlaced.congr hSame)
  intro i hUser hLt hReached
  rw [decide_eq_false_iff_not, not_not]
  exact expires_iff.mpr ⟨hUser, hLt, hReached⟩

end Tick

/-- In every reachable state the next tick wakes exactly the tasks that expire. -/
theorem tick_wakes_expired {trace : List Label} {s : Sys} (h : Reaches trace s) :
    WakesExpired s.kernel (osTick s.kernel) := by
  have hEntries := h.seated.entries
  have hPlaced := h.housed.placed
  have hTicked := (hPlaced.afterTick hEntries).2
  obtain ⟨hCurrent, hCount, hClock⟩ := frame_osTick (k := s.kernel)
  refine {
    woken := fun t => (userTasks_tick hPlaced hEntries).1
    place := ?_
    others := fun t => (userTasks_tick hPlaced hEntries).2
    waiters := ?_
    policy := hTicked.policy
    tokens := hTicked.tokens
    mutexes := fun i => ⟨congrFun hTicked.ownerOf i, hTicked.state i⟩
    content := hTicked.content
    systickCount := hClock
    currentTask := hCurrent
    taskCount := hCount }
  · intro t hExpires
    have hReason := hPlaced.reason hExpires.1 hExpires.2.2.1
    cases hOn : s.kernel.blockedOn t with
    | none =>
      rw [hOn] at hReason
      exact hReason
    | some w =>
      rw [hOn] at hReason
      exact ⟨hPlaced.listed hExpires.1 hOn, hReason⟩
  · intro w
    rw [← waiters_tick hPlaced hEntries]
    exact hEntries.afterTick.1.listed w

/-- Of three tasks in one waitlist two expire together. -/
theorem tick_wakes_expired_two :
    ∃ trace s, Reaches trace s ∧ s.kernel.waiters (.sem 0) = [1, 2, 3] ∧
      (osTick s.kernel).waiters (.sem 0) = [2] ∧ WakesExpired s.kernel (osTick s.kernel) := by
  have hCheck : checkBoot sampleImage
      [sampleTask 1, sampleTask 2, sampleTask 3, .sem (some 0) 0 (some .fifo)]
      [.call (.semWait (some 0) 2), .pendSV, .call (.semWait (some 0) 3), .pendSV,
        .call (.semWait (some 0) 2), .pendSV, .tick]
      (fun _ => true)
      (fun s => s.kernel.waiters (.sem 0) == [1, 2, 3] &&
        (osTick s.kernel).waiters (.sem 0) == [2]) = true := by
    decide +kernel
  obtain ⟨trace, s, hReaches, _, _, hFinal⟩ := reaches_of_checkBoot hCheck
  rw [Bool.and_eq_true, beq_iff_eq, beq_iff_eq] at hFinal
  exact ⟨trace, s, hReaches, hFinal.1, hFinal.2, tick_wakes_expired hReaches⟩

end KoRTOS
