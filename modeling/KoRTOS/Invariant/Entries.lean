import KoRTOS.Invariant.Sound

/-!
# The entries of user tasks

What holds of the user tasks in every run, even one in which the idle task
blocks and is dispatched all the same, so that it is listed more than once: a
user task is listed at most once, where it is blocked, and none runs blocked.
-/

namespace KoRTOS

structure UserEntries (k : Kernel) : Prop where
  listed : Listed k
  once : ∀ {w t}, t ≠ idleTaskIdx → (k.waiters w).count t ≤ 1
  blocked : ∀ {w t}, t ≠ idleTaskIdx → t ∈ k.waiters w →
    t < k.taskCount ∧ k.blockedOn t = some w ∧ (k.userTasks t).currentState = .blocked

namespace UserEntries

variable {k k' : Kernel} {t : TaskId} {w : WaitlistRef} {j : Nat} {b : Bool} {n : U32}

theorem congr (h : UserEntries k) (hSame : SameBlocking k k') : UserEntries k' := by
  refine ⟨h.listed.congr hSame, ?_, ?_⟩
  · intro w t ht
    rw [hSame.waiters]
    exact h.once ht
  · intro w t ht hMem
    rw [hSame.waiters] at hMem
    rw [hSame.taskCount, hSame.blockedOn, hSame.currentState]
    exact h.blocked ht hMem

theorem modifyTask (h : UserEntries k) {f : Tcb → Tcb}
    (hAbsent : t ≠ idleTaskIdx → ∀ w, t ∉ k.waiters w) : UserEntries (k.modifyTask t f) := by
  have hWaiters : (k.modifyTask t f).waiters = k.waiters := by
    funext w
    rw [Kernel.waiters, Kernel.waitlist_modifyTask, Kernel.waiters]
  refine ⟨?_, ?_, ?_⟩
  · intro w
    rw [Kernel.waitlist_modifyTask, hWaiters]
    exact h.listed w
  · intro w u hu
    rw [hWaiters]
    exact h.once hu
  · intro w u hu hMem
    rw [hWaiters] at hMem
    have hne : u ≠ t := by
      rintro rfl
      exact hAbsent hu w hMem
    rw [Kernel.blockedOn, Kernel.userTasks_modifyTask, if_neg hne]
    exact h.blocked hu hMem

theorem absent (h : UserEntries k) (ht : t ≠ idleTaskIdx)
    (hState : (k.userTasks t).currentState ≠ .blocked) : t ∉ k.waiters w := fun hMem =>
  hState (h.blocked ht hMem).2.2

theorem afterEnqueue (h : UserEntries k) {reason : BlockReason}
    (hLt : k.currentTask < k.taskCount)
    (hFree : k.currentTask ≠ idleTaskIdx → k.current.currentState ≠ .blocked) :
    UserEntries (enqueueCurrent k w n reason) := by
  refine ⟨h.listed.afterEnqueue, ?_, ?_⟩
  · intro w' t ht
    rw [waiters_enqueueCurrent h.listed, Function.update_apply]
    split
    · rw [List.count_append, List.count_singleton]
      split
      · rename_i hEq
        rw [beq_iff_eq] at hEq
        subst hEq
        rw [List.count_eq_zero_of_not_mem (h.absent ht (hFree ht))]
      · exact h.once ht
    · exact h.once ht
  · intro w' t ht hMem
    rw [waiters_enqueueCurrent h.listed, Function.update_apply] at hMem
    rw [taskCount_enqueueCurrent, blockedOn_enqueueCurrent, userTasks_enqueueCurrent,
      Function.update_apply]
    by_cases hEq : t = k.currentTask
    · subst hEq
      have hw : w' = w := by
        by_contra hne
        rw [if_neg hne] at hMem
        exact h.absent ht (hFree ht) hMem
      rw [if_pos rfl, if_pos rfl, hw]
      exact ⟨hLt, rfl, rfl⟩
    · rw [if_neg hEq, if_neg hEq]
      split at hMem
      · rename_i hw
        subst hw
        rcases List.mem_append.mp hMem with hMem | hMem
        · exact h.blocked ht hMem
        · exact absurd (List.mem_singleton.mp hMem) hEq
      · exact h.blocked ht hMem

theorem afterLeave (h : UserEntries k)
    (hj : ∃ hj : j < (k.waiters w).length, (k.waiters w)[j] = t) :
    UserEntries (leaveWaitlist k w j t b) := by
  obtain ⟨hj, hAt⟩ := hj
  have hSub : ∀ w', ((leaveWaitlist k w j t b).waiters w').Sublist (k.waiters w') := by
    intro w'
    rw [h.listed.leave hj, Function.update_apply]
    split
    · rename_i hw
      rw [hw]
      exact List.eraseIdx_sublist _ _
    · exact List.Sublist.refl _
  refine ⟨h.listed.afterLeave hj, ?_, ?_⟩
  · intro w' u hu
    exact ((hSub w').count_le u).trans (h.once hu)
  · intro w' u hu hMem
    obtain ⟨hLt, hOn, hState⟩ := h.blocked hu ((hSub w').subset hMem)
    have hne : u ≠ t := by
      rintro rfl
      have hHere := (h.blocked hu (hAt ▸ List.getElem_mem hj : u ∈ k.waiters w)).2.1
      obtain rfl := Option.some.inj (hOn.symm.trans hHere)
      rw [h.listed.leave hj, Function.update_self] at hMem
      have hPerm := (List.getElem_cons_eraseIdx_perm hj).count_eq u
      have hOnce := h.once (w := w') hu
      rw [hAt, List.count_cons_self] at hPerm
      have hSome := List.count_pos_iff.mpr hMem
      omega
    rw [taskCount_leaveWaitlist, blockedOn_leaveWaitlist, userTasks_leaveWaitlist, if_neg hne,
      Function.update_of_ne hne]
    exact ⟨hLt, hOn, hState⟩

theorem afterUnblockTask (h : UserEntries k) (hUser : t ≠ idleTaskIdx) :
    UserEntries (unblockTask k t) := by
  rcases h.listed.unblockTask_cases t with ⟨_, hEq⟩ | ⟨_, hFree, hEq⟩ | ⟨_, w, j, _, hj, hEq⟩ |
    ⟨_, w, hOn, hAbsent, hEq⟩
  · rw [hEq]
    exact h
  · rw [hEq]
    refine h.modifyTask fun _ w hMem => ?_
    exact absurd ((h.blocked hUser hMem).2.1.symm.trans hFree) (by simp)
  · rw [hEq]
    exact h.afterLeave hj
  · rw [hEq]
    refine h.modifyTask fun _ w' hMem => ?_
    obtain rfl := Option.some.inj ((h.blocked hUser hMem).2.1.symm.trans hOn)
    exact hAbsent hMem

theorem waiters_unblockTask (h : Listed k) :
    ((unblockTask k t).waiters w).Sublist (k.waiters w) := by
  rcases h.unblockTask_cases t with ⟨_, hEq⟩ | ⟨_, _, hEq⟩ | ⟨_, w', j, _, ⟨hj, _⟩, hEq⟩ |
    ⟨_, w', _, _, hEq⟩
  · rw [hEq]
  · rw [hEq, Kernel.waiters, Kernel.waitlist_modifyTask, Kernel.waiters]
  · rw [hEq, h.leave hj, Function.update_apply]
    split
    · subst w'
      exact List.eraseIdx_sublist _ _
    · exact List.Sublist.refl _
  · rw [hEq, Kernel.waiters, Kernel.waitlist_modifyTask, Kernel.waiters]

theorem afterTick (h : UserEntries k) :
    UserEntries (osTick k) ∧ ∀ w, ((osTick k).waiters w).Sublist (k.waiters w) := by
  have hTicked : UserEntries (updateTickCount k) :=
    h.congr (SameBlocking.of_userTasks rfl rfl (by funext w; cases w <;> rfl))
  have hWoken : UserEntries (unblockTasks (updateTickCount k)) ∧
      ∀ w, ((unblockTasks (updateTickCount k)).waiters w).Sublist (k.waiters w) :=
    unblockTasks_induction
      (P := fun k' => UserEntries k' ∧ ∀ w, (k'.waiters w).Sublist (k.waiters w))
      ⟨hTicked, fun _ => List.Sublist.refl _⟩
      fun _ _ hUser _ hk => ⟨hk.1.afterUnblockTask hUser,
        fun w => (waiters_unblockTask hk.1.listed).trans (hk.2 w)⟩
  exact ⟨hWoken.1.congr (SameShape.portYield _).sameBlocking, hWoken.2⟩

theorem afterSchedule (h : UserEntries k) (hCurrent : k.currentTask < k.taskCount) :
    UserEntries (osScheduleNextTask k) := by
  have hReadied : UserEntries (readied k) := by
    unfold readied
    split
    · rename_i hRunning
      refine h.modifyTask fun hUser w => h.absent hUser ?_
      have hState : (k.userTasks k.currentTask).currentState = .running := hRunning
      rw [hState]
      simp
    · exact h
  rw [osScheduleNextTask_eq]
  split
  · exact hReadied
  · have hSelect := (scheduleSelect_spec (k := readied k) (by simpa using hCurrent)).2
    have hMoved : UserEntries { readied k with currentTask := scheduleSelect (readied k) } :=
      hReadied.congr (SameBlocking.of_userTasks rfl rfl (by funext w; cases w <;> rfl))
    refine hMoved.modifyTask fun hUser w => hMoved.absent hUser ?_
    rcases hSelect with hIdle | hReady
    · exact absurd hIdle hUser
    · intro hBlocked
      have hNot : (({ readied k with currentTask := scheduleSelect (readied k) } : Kernel).userTasks
        (scheduleSelect (readied k))).currentState = .ready := hReady
      exact absurd (hNot.symm.trans hBlocked) (by simp)

theorem afterCreate {c : CreateCall} {err : OsErr} (h : UserEntries k)
    (hCreation : Creation k c k' err) : UserEntries k' := by
  have hWaiters := waiters_creation hCreation
  refine ⟨?_, ?_, ?_⟩
  · intro w
    rcases waitlist_creation hCreation w with hSame | ⟨_, policy, hInit⟩
    · rw [Kernel.waiters, hSame]
      exact h.listed w
    · rw [Kernel.waiters, hInit, Waitlist.tasks_init]
      exact Waitlist.represents_init policy
  · intro w t ht
    rcases hWaiters w with hSame | hEmpty
    · rw [hSame]
      exact h.once ht
    · rw [hEmpty]
      exact Nat.zero_le 1
  · intro w t ht hMem
    rcases hWaiters w with hSame | hEmpty
    · rw [hSame] at hMem
      obtain ⟨hLt, hOn, hState⟩ := h.blocked ht hMem
      rw [Kernel.blockedOn, userTasks_creation_old hCreation hLt]
      exact ⟨hLt.trans_le (taskCount_creation hCreation), hOn, hState⟩
    · rw [hEmpty] at hMem
      cases hMem

end UserEntries

/-- A user task is listed at most once, where it is blocked, and does not run blocked. -/
structure Seated (k : Kernel) : Prop where
  entries : UserEntries k
  current_lt : k.currentTask < k.taskCount
  current_free : k.pendSV = false → k.currentTask ≠ idleTaskIdx →
    k.current.currentState ≠ .blocked

namespace Seated

variable {k k' : Kernel} {piece : Piece} {f : Flow} {s s' : Sys} {e : Event} {out : Option Ret}

theorem of_sound (h : Sound s) : Seated s.kernel := by
  refine ⟨⟨h.waiting.listed, ?_, ?_⟩, h.current_lt, fun hRun _ => h.current_free hRun⟩
  · intro w t _
    exact List.nodup_iff_count_le_one.mp (h.waiting.fibers.nodup w) t
  · intro w t _ hMem
    have hOn := h.waiting.mem_waiters.mp hMem
    obtain ⟨_, hLt, hState, _⟩ := h.waiting.blocked hOn
    exact ⟨hLt, hOn, hState⟩

theorem afterReblocks {rest : Option Pending} (h : Seated k) (hReblocks : Reblocks k k' rest)
    (hRun : rest ≠ none → k.pendSV = false) : UserEntries k' := by
  cases hReblocks with
  | same hSame => exact h.entries.congr hSame
  | leave hj hSame => exact (h.entries.afterLeave hj).congr hSame
  | delay hUser =>
    have hAbsent : k.currentTask ≠ idleTaskIdx → ∀ w, k.currentTask ∉ k.waiters w := fun _ _ =>
      h.entries.absent hUser (h.current_free (hRun (by simp)) hUser)
    exact (h.entries.modifyTask hAbsent).congr (SameShape.portYield _).sameBlocking
  | enter hSame hCurrent =>
    apply (h.entries.congr hSame).afterEnqueue
    · rw [hCurrent, hSame.taskCount]
      exact h.current_lt
    · intro hUser
      rw [hCurrent] at hUser
      rw [Kernel.current, hCurrent, hSame.currentState]
      exact h.current_free (hRun (by simp)) hUser

theorem afterSection (h : Seated k) (hs : Section k piece k' f)
    (hRun : f.rest ≠ none → k.pendSV = false) : Seated k' where
  entries := h.afterReblocks (hs.reblocks h.entries.listed) hRun
  current_lt := by
    rw [hs.current.1, hs.current.2]
    exact h.current_lt
  current_free hFree hUser := by
    rw [hs.current.1] at hUser
    exact hs.current_free (h.current_free (hs.pendSV hFree) hUser) hFree

theorem congr (h : Seated k) (hQuiet : Quiet k k') : Seated k' where
  entries := h.entries.congr hQuiet.sameBlocking
  current_lt := by
    rw [hQuiet.currentTask, hQuiet.taskCount]
    exact h.current_lt
  current_free hRun hUser := by
    rw [hQuiet.pendSV] at hRun
    rw [hQuiet.currentTask] at hUser
    rw [Kernel.current, hQuiet.currentTask, hQuiet.userTasks]
    exact h.current_free hRun hUser

theorem afterCreate {c : CreateCall} {err : OsErr} (h : Seated k)
    (hCreation : Creation k c k' err) : Seated k' := by
  obtain ⟨hCurrent, hPendSV, _⟩ := current_creation hCreation
  refine ⟨h.entries.afterCreate hCreation, ?_, ?_⟩
  · rw [hCurrent]
    exact h.current_lt.trans_le (taskCount_creation hCreation)
  · intro hRun hUser
    rw [hPendSV] at hRun
    rw [hCurrent] at hUser
    rw [Kernel.current, hCurrent, userTasks_creation_old hCreation h.current_lt]
    exact h.current_free hRun hUser

theorem schedule_current {k : Kernel} (hCurrent : k.currentTask < k.taskCount)
    (hUser : (osScheduleNextTask k).currentTask ≠ idleTaskIdx) :
    (osScheduleNextTask k).current.currentState ≠ .blocked := by
  rw [osScheduleNextTask_eq] at hUser ⊢
  split at hUser
  · rename_i hAlone
    rw [currentTask_readied] at hUser
    rw [taskCount_readied] at hAlone
    exact absurd (Nat.lt_one_iff.mp (hCurrent.trans_le hAlone)) hUser
  · rename_i hMany
    rw [if_neg hMany, Kernel.current]
    have hNow : (dispatch (readied k)).currentTask = scheduleSelect (readied k) := rfl
    rw [hNow, userTasks_dispatch, if_pos rfl]
    simp

theorem afterMove (h : Seated s.kernel) (hMove : Move s e s' out) : Seated s'.kernel := by
  cases hMove with
  | create _ _ _ hCreation => exact h.afterCreate hCreation
  | call hRun _ _ hSection => exact h.afterSection hSection fun _ => hRun
  | resume hRun _ hSection => exact h.afterSection hSection fun _ => hRun
  | isrSend _ hSection =>
    have hAfter := h.afterSection hSection fun hRest => absurd rfl hRest
    dsimp only
    split
    · exact hAfter.congr (quiet_countDropped _ _)
    · exact hAfter
  | isrRecv _ hSection => exact h.afterSection hSection fun hRest => absurd rfl hRest
  | tick =>
    obtain ⟨hCurrent, hCount, _⟩ := frame_osTick (k := s.kernel)
    refine ⟨h.entries.afterTick.1, ?_, fun hRun => by cases hRun⟩
    dsimp only
    rw [hCurrent, hCount]
    exact h.current_lt
  | pendSV =>
    have hSame : UserEntries { s.kernel with pendSV := false } :=
      h.entries.congr (SameBlocking.of_userTasks rfl rfl (by funext w; cases w <;> rfl))
    exact ⟨hSame.afterSchedule h.current_lt, currentTask_schedule_lt h.current_lt,
      fun _ hUser => schedule_current h.current_lt hUser⟩

end Seated

theorem seated_of_run {start s : Sys} {trace : List Label} (hRun : Run start trace s)
    (hStart : Seated start.kernel) : Seated s.kernel :=
  hRun.invariant (I := fun s => Seated s.kernel) (C := fun _ => True) hStart
    (fun _ hTaken _ hPre => hPre.afterMove (move_of_step hTaken)) fun _ _ => trivial

theorem Reaches.seated {trace : List Label} {s : Sys} (h : Reaches trace s) :
    Seated s.kernel := by
  obtain ⟨image, calls, start, hBoot, hRun⟩ := h
  exact seated_of_run hRun (.of_sound (sound_of_boot hBoot))

end KoRTOS
