import KoRTOS.Invariant.Scheduling

/-!
# What a tick does

`Ticked` is the effect of the loop of `unblock_tasks` on everything the
invariants look at: the tasks whose time has come are woken, those that were
in a waitlist leave it with `timeout` set, and nothing else changes.
-/

namespace KoRTOS

structure Ticked (k k' : Kernel) : Prop where
  taskCount : k'.taskCount = k.taskCount
  currentTask : k'.currentTask = k.currentTask
  systickCount : k'.systickCount = k.systickCount
  pendSV : k'.pendSV = k.pendSV
  ownerOf : k'.ownerOf = k.ownerOf
  state : ∀ i, (k'.mutexes i).state = (k.mutexes i).state
  tokens : k'.tokens = k.tokens
  content : k'.content = k.content
  policy : k'.policy = k.policy
  waiters : ∀ w, (k'.waiters w).Sublist (k.waiters w)
  tasks : ∀ t, k'.userTasks t = k.userTasks t ∨
    (wakeupReached k t ∧ k'.userTasks t = wakeTcb (k.blockedOn t).isSome (k.userTasks t))

namespace Ticked

variable {k k' k'' : Kernel} {t : TaskId} {w : WaitlistRef}

theorem refl (k : Kernel) : Ticked k k where
  taskCount := rfl
  currentTask := rfl
  systickCount := rfl
  pendSV := rfl
  ownerOf := rfl
  state _ := rfl
  tokens := rfl
  content := rfl
  policy := rfl
  waiters _ := List.Sublist.refl _
  tasks _ := .inl rfl

theorem wakeupReached_congr (hTick : k'.systickCount = k.systickCount)
    (hTask : k'.userTasks t = k.userTasks t) : wakeupReached k' t ↔ wakeupReached k t := by
  rw [wakeupReached, wakeupReached, hTick, hTask]

theorem not_reached_of_woken (h : k'.userTasks t = wakeTcb true (k.userTasks t) ∨
    k'.userTasks t = wakeTcb false (k.userTasks t)) : ¬ wakeupReached k' t := by
  rintro ⟨hBlocked, _⟩
  rcases h with h | h
  · rw [h] at hBlocked
    cases hBlocked
  · rw [h] at hBlocked
    cases hBlocked

theorem trans (h : Ticked k k') (h' : Ticked k' k'') : Ticked k k'' where
  taskCount := h'.taskCount.trans h.taskCount
  currentTask := h'.currentTask.trans h.currentTask
  systickCount := h'.systickCount.trans h.systickCount
  pendSV := h'.pendSV.trans h.pendSV
  ownerOf := h'.ownerOf.trans h.ownerOf
  state i := (h'.state i).trans (h.state i)
  tokens := h'.tokens.trans h.tokens
  content := h'.content.trans h.content
  policy := h'.policy.trans h.policy
  waiters w := (h'.waiters w).trans (h.waiters w)
  tasks t := by
    rcases h.tasks t with hSame | ⟨hReached, hWoken⟩
    · rcases h'.tasks t with hSame' | ⟨hReached', hWoken'⟩
      · exact .inl (hSame'.trans hSame)
      · have hOn : k'.blockedOn t = k.blockedOn t := by
          rw [Kernel.blockedOn, hSame, Kernel.blockedOn]
        refine .inr ⟨(wakeupReached_congr h.systickCount hSame).mp hReached', ?_⟩
        rw [hWoken', hSame, hOn]
    · rcases h'.tasks t with hSame' | ⟨hReached', _⟩
      · exact .inr ⟨hReached, hSame'.trans hWoken⟩
      · refine absurd hReached' (not_reached_of_woken (k := k) ?_)
        cases hOn : (k.blockedOn t).isSome with
        | true => exact .inl (hOn ▸ hWoken)
        | false => exact .inr (hOn ▸ hWoken)

theorem blockedOn_eq_some (h : Ticked k k') (ht : k'.blockedOn t = some w) :
    k.blockedOn t = some w ∧ k'.userTasks t = k.userTasks t := by
  rcases h.tasks t with hSame | ⟨_, hWoken⟩
  · rw [Kernel.blockedOn, hSame] at ht
    exact ⟨ht, hSame⟩
  · rw [Kernel.blockedOn, hWoken] at ht
    cases ht

theorem eff (h : Ticked k k') : k'.eff = k.eff := by
  funext t
  rcases h.tasks t with hSame | ⟨_, hWoken⟩
  · rw [Kernel.eff, hSame, Kernel.eff]
  · rw [Kernel.eff, hWoken]
    rfl

theorem base (h : Ticked k k') : k'.base = k.base := by
  funext t
  rcases h.tasks t with hSame | ⟨_, hWoken⟩
  · rw [Kernel.base, hSame, Kernel.base]
  · rw [Kernel.base, hWoken]
    rfl

theorem ownedMutexCount (h : Ticked k k') :
    (k'.userTasks t).ownedMutexCount = (k.userTasks t).ownedMutexCount := by
  rcases h.tasks t with hSame | ⟨_, hWoken⟩
  · rw [hSame]
  · rw [hWoken]
    rfl

end Ticked

section Effect

variable {k : Kernel} {t : TaskId} {w : WaitlistRef} {j : Nat} {b : Bool}

theorem policy_leaveWaitlist : (leaveWaitlist k w j t b).policy = k.policy := by
  funext w'
  rw [Kernel.policy, waitlist_leaveWaitlist]
  split
  · subst w'
    rfl
  · rfl

@[simp] theorem tokens_leaveWaitlist : (leaveWaitlist k w j t b).tokens = k.tokens := by
  simp [leaveWaitlist]

@[simp] theorem content_leaveWaitlist : (leaveWaitlist k w j t b).content = k.content := by
  simp [leaveWaitlist]

theorem policy_modifyTask {f : Tcb → Tcb} : (k.modifyTask t f).policy = k.policy := by
  funext w
  rw [Kernel.policy, Kernel.waitlist_modifyTask, Kernel.policy]

theorem ticked_unblockTask (h : Listed k) {i : TaskId}
    (hIn : ∀ w, k.blockedOn i = some w → i ∈ k.waiters w) : Ticked k (unblockTask k i) := by
  rcases h.unblockTask_cases i with ⟨_, hEq⟩ | ⟨hReached, hFree, hEq⟩ |
    ⟨hReached, w, j, hOn, hj, hEq⟩ | ⟨_, w, hOn, hAbsent, _⟩
  · rw [hEq]
    exact .refl k
  · rw [hEq]
    refine ⟨rfl, rfl, rfl, rfl, rfl, fun _ => rfl, rfl, rfl, policy_modifyTask, ?_, ?_⟩
    · intro w
      rw [Kernel.waiters, Kernel.waitlist_modifyTask]
      exact List.Sublist.refl _
    · intro t
      rw [Kernel.userTasks_modifyTask]
      split
      · subst t
        exact .inr ⟨hReached, by rw [hFree]; rfl⟩
      · exact .inl rfl
  · rw [hEq]
    refine ⟨by simp, by simp, by simp, by simp, by funext; simp [Kernel.ownerOf], by simp, by simp,
      by simp, policy_leaveWaitlist, ?_, ?_⟩
    · intro w'
      rw [h.leave hj.1, Function.update_apply]
      split
      · subst w'
        exact List.eraseIdx_sublist _ _
      · exact List.Sublist.refl _
    · intro t
      rw [userTasks_leaveWaitlist]
      split
      · subst t
        exact .inr ⟨hReached, by rw [hOn]; rfl⟩
      · exact .inl rfl
  · exact absurd (hIn w hOn) hAbsent

theorem Waiting.ticked_unblockTask (h : Waiting k) (i : TaskId) : Ticked k (unblockTask k i) :=
  KoRTOS.ticked_unblockTask h.listed fun _ hOn => h.mem_waiters.mpr hOn

theorem unblockTasks_induction {P : Kernel → Prop} (h : P k)
    (hRound : ∀ k' i, i ≠ idleTaskIdx → i < k.taskCount → P k' → P (unblockTask k' i)) :
    P (unblockTasks k) := by
  have hFold : ∀ (l : List TaskId) (k' : Kernel),
      (∀ i ∈ l, i ≠ idleTaskIdx ∧ i < k.taskCount) → P k' → P (l.foldl unblockTask k') := by
    intro l
    induction l with
    | nil => exact fun _ _ h => h
    | cons i l ih =>
      intro k' hUser h
      obtain ⟨hi, hLt⟩ := hUser i List.mem_cons_self
      apply ih _ fun u hu => hUser u (List.mem_cons_of_mem i hu)
      exact hRound k' i hi hLt h
  unfold unblockTasks
  split
  · exact h
  · refine hFold _ _ (fun i hi => ?_) h
    obtain ⟨hPos, hLt⟩ := List.mem_range'_1.mp hi
    unfold TaskId idleTaskIdx at *
    omega

theorem Waiting.ticked_unblockTasks (h : Waiting k) : Ticked k (unblockTasks k) := by
  have hBoth : Waiting (unblockTasks k) ∧ Ticked k (unblockTasks k) :=
    unblockTasks_induction (P := fun k' => Waiting k' ∧ Ticked k k') ⟨h, .refl k⟩
      fun _ i _ _ hk => ⟨hk.1.afterUnblockTask i, hk.2.trans (hk.1.ticked_unblockTask i)⟩
  exact hBoth.2

theorem Waiting.updateTickCount (h : Waiting k) : Waiting (updateTickCount k) :=
  h.congr (.of_userTasks rfl rfl (by funext w; cases w <;> rfl))

theorem Waiting.afterTick (h : Waiting k) : Waiting (osTick k) := by
  have hTicked : Waiting (unblockTasks (KoRTOS.updateTickCount k)) :=
    unblockTasks_induction h.updateTickCount fun _ i _ _ hk => hk.afterUnblockTask i
  exact hTicked.congr (SameShape.portYield _).sameBlocking

end Effect

section Frame

variable {k : Kernel} {t i : TaskId} {l : List TaskId}

/-- What a round of `unblock_tasks` never touches. -/
structure TickFrame (k k' : Kernel) : Prop where
  currentTask : k'.currentTask = k.currentTask
  taskCount : k'.taskCount = k.taskCount
  systickCount : k'.systickCount = k.systickCount

theorem frame_unblockTask : TickFrame k (unblockTask k i) ∧
    ∀ t, t ≠ i → (unblockTask k i).userTasks t = k.userTasks t := by
  unfold unblockTask removeFromWaitlist
  split
  · dsimp only
    split
    · split
      · exact ⟨⟨by simp, by simp, by simp⟩, fun t ht => by simp [ht]⟩
      · exact ⟨⟨by simp, by simp, by simp⟩, fun t ht => by simp [ht]⟩
    · exact ⟨⟨by simp, by simp, by simp⟩, fun t ht => by simp [ht]⟩
  · exact ⟨⟨rfl, rfl, rfl⟩, fun _ _ => rfl⟩

theorem frame_foldl_unblockTask : TickFrame k (l.foldl unblockTask k) ∧
    ∀ t, t ∉ l → (l.foldl unblockTask k).userTasks t = k.userTasks t := by
  induction l generalizing k with
  | nil => exact ⟨⟨rfl, rfl, rfl⟩, fun _ _ => rfl⟩
  | cons i l ih =>
    obtain ⟨hFirst, hFirstTasks⟩ := frame_unblockTask (k := k) (i := i)
    obtain ⟨hRest, hRestTasks⟩ := ih (k := unblockTask k i)
    refine ⟨⟨hRest.currentTask.trans hFirst.currentTask, hRest.taskCount.trans hFirst.taskCount,
      hRest.systickCount.trans hFirst.systickCount⟩, fun t ht => ?_⟩
    rw [List.mem_cons, not_or] at ht
    exact (hRestTasks t ht.2).trans (hFirstTasks t ht.1)

theorem frame_osTick : (osTick k).currentTask = k.currentTask ∧
    (osTick k).taskCount = k.taskCount ∧ (osTick k).systickCount = k.systickCount + 1 := by
  unfold osTick unblockTasks
  split
  · exact ⟨rfl, rfl, rfl⟩
  · have hFrame := (frame_foldl_unblockTask (k := updateTickCount k)
      (l := List.range' 1 ((updateTickCount k).taskCount - 1))).1
    exact ⟨hFrame.currentTask, hFrame.taskCount, hFrame.systickCount⟩

/-- A user task whose time has come is ready after a tick; the others are as they were. -/
theorem userTasks_osTick (hUser : t ≠ idleTaskIdx) (hLt : t < k.taskCount) :
    (wakeupReached (updateTickCount k) t → ((osTick k).userTasks t).currentState = .ready) ∧
    (¬ wakeupReached (updateTickCount k) t → (osTick k).userTasks t = k.userTasks t) := by
  have hPos : 1 ≤ t := Nat.pos_of_ne_zero hUser
  have hMany : ¬ (updateTickCount k).taskCount ≤ 1 := by
    change ¬ k.taskCount ≤ 1
    unfold TaskId at *
    omega
  have hMem : t ∈ List.range' 1 ((updateTickCount k).taskCount - 1) := by
    rw [List.mem_range'_1]
    change 1 ≤ t ∧ t < 1 + (k.taskCount - 1)
    unfold TaskId at *
    omega
  obtain ⟨before, after, hSplit⟩ := List.append_of_mem hMem
  have hNodup : (before ++ t :: after).Nodup := hSplit ▸ List.nodup_range'
  obtain ⟨hBefore, hAfter⟩ : t ∉ before ∧ t ∉ after := by
    rw [List.nodup_middle, List.nodup_cons, List.mem_append, not_or] at hNodup
    exact hNodup.1
  have hTick : (osTick k).userTasks t =
      (unblockTask (before.foldl unblockTask (updateTickCount k)) t).userTasks t := by
    rw [osTick, Kernel.userTasks_portYield, unblockTasks, if_neg hMany, hSplit, List.foldl_append,
      List.foldl_cons]
    exact frame_foldl_unblockTask.2 t hAfter
  obtain ⟨hFrame, hTasks⟩ := frame_foldl_unblockTask (k := updateTickCount k) (l := before)
  have hReached := Ticked.wakeupReached_congr hFrame.systickCount (hTasks t hBefore)
  rw [hTick]
  constructor
  · intro hNow
    rw [unblockTask, if_pos (hReached.mpr hNow), Kernel.userTasks_modifyTask, if_pos rfl]
  · intro hNotYet
    rw [unblockTask, if_neg (fun h => hNotYet (hReached.mp h)), hTasks t hBefore]
    rfl

theorem userTasks_osTick_skipped (h : t = idleTaskIdx ∨ k.taskCount ≤ t) :
    (osTick k).userTasks t = k.userTasks t := by
  unfold osTick unblockTasks
  rw [Kernel.userTasks_portYield]
  split
  · rfl
  · apply frame_foldl_unblockTask.2
    rw [List.mem_range'_1]
    change ¬ (1 ≤ t ∧ t < 1 + (k.taskCount - 1))
    unfold TaskId idleTaskIdx at *
    omega

end Frame

end KoRTOS
