import KoRTOS.Invariant.Sections
import KoRTOS.Library.Fibers
import Mathlib.Order.Interval.Finset.Nat

/-!
# Who is blocked where

The representation of blocking is kept in three places: the state and the
`blocked_waitlist` of each task, the entries of each waitlist and its
`wait_count`. `Waiting` says that they agree. Blocking appends, a release and a
time-out remove from the middle; each keeps all parts of the invariant.
-/

namespace KoRTOS

open FiberLists

/-- Every waitlist is an array that represents a list. -/
def Listed (k : Kernel) : Prop := ∀ w, (k.waitlist w).Represents (k.waiters w)

structure Waiting (k : Kernel) : Prop where
  taskCount_pos : 0 < k.taskCount
  taskCount_le : k.taskCount ≤ osMaxTasks
  listed : Listed k
  fibers : Fibers k.blockedOn k.waiters
  blocked : ∀ {t w}, k.blockedOn t = some w → t ≠ idleTaskIdx ∧ t < k.taskCount ∧
    (k.userTasks t).currentState = .blocked ∧ (k.userTasks t).blockReason = w.blockReason
  unlisted : ∀ {t}, k.blockedOn t = none →
    (t ≠ idleTaskIdx ∧ t < k.taskCount ∧ (k.userTasks t).currentState = .blocked ∧
      (k.userTasks t).blockReason = .delay) ∨
    ((k.userTasks t).currentState ≠ .blocked ∧ (k.userTasks t).blockReason = .none)

def wakeTcb (timeout : Bool) (tcb : Tcb) : Tcb :=
  { tcb with
    wakeupTick := 0
    currentState := .ready
    blockReason := .none
    blockedWaitlist := none
    timeout := timeout }

/-- Task `t` at position `j` of waitlist `w` is woken and leaves the waitlist. -/
def leaveWaitlist (k : Kernel) (w : WaitlistRef) (j : Nat) (t : TaskId) (timeout : Bool) : Kernel :=
  (k.modifyTask t (wakeTcb timeout)).setWaitlist w (waitlistRemoveTask (k.waitlist w) j)

theorem Listed.congr {k k' : Kernel} (h : Listed k) (hs : SameBlocking k k') : Listed k' := by
  intro w
  rw [hs.waitlist, hs.waiters]
  exact h w

namespace Waiting

variable {k k' : Kernel} {t u : TaskId} {w w' : WaitlistRef} {j : Nat} {b : Bool} {n : U32}

theorem congr (h : Waiting k) (hs : SameBlocking k k') : Waiting k' where
  taskCount_pos := hs.taskCount ▸ h.taskCount_pos
  taskCount_le := hs.taskCount ▸ h.taskCount_le
  listed := h.listed.congr hs
  fibers := by
    rw [hs.blockedOn, hs.waiters]
    exact h.fibers
  blocked ht := by
    rw [hs.taskCount, hs.currentState, hs.blockReason]
    exact h.blocked (hs.blockedOn ▸ ht)
  unlisted ht := by
    rw [hs.taskCount, hs.currentState, hs.blockReason]
    exact h.unlisted (hs.blockedOn ▸ ht)

theorem waitCount_eq (h : Waiting k) : (k.waitlist w).waitCount = (k.waiters w).length :=
  (h.listed w).count

theorem mem_waiters (h : Waiting k) : t ∈ k.waiters w ↔ k.blockedOn t = some w := h.fibers.mem_iff

theorem idle_free (h : Waiting k) : k.blockedOn idleTaskIdx = none := by
  cases hIdle : k.blockedOn idleTaskIdx with
  | none => rfl
  | some w => exact absurd rfl (h.blocked hIdle).1

theorem idle_not_blocked (h : Waiting k) :
    (k.userTasks idleTaskIdx).currentState ≠ .blocked := by
  rcases h.unlisted h.idle_free with ⟨hne, _⟩ | ⟨hState, _⟩
  · exact absurd rfl hne
  · exact hState

theorem free_of_not_blocked (h : Waiting k) (ht : (k.userTasks t).currentState ≠ .blocked) :
    k.blockedOn t = none := by
  cases hBlocked : k.blockedOn t with
  | none => rfl
  | some w => exact absurd (h.blocked hBlocked).2.2.1 ht

theorem sum_waitCount_le (h : Waiting k) (W : Finset WaitlistRef) :
    ∑ w ∈ W, (k.waitlist w).waitCount ≤ k.taskCount - 1 := by
  have hUsers : ∀ t w, k.blockedOn t = some w → t ∈ Finset.Ico 1 k.taskCount := by
    intro t w ht
    obtain ⟨hne, hlt, _⟩ := h.blocked ht
    exact Finset.mem_Ico.mpr ⟨Nat.one_le_iff_ne_zero.mpr hne, hlt⟩
  have hSum := h.fibers.sum_length_le (Finset.Ico 1 k.taskCount) hUsers W
  rw [Nat.card_Ico] at hSum
  simpa only [h.waitCount_eq] using hSum

theorem waitCount_lt (h : Waiting k) : (k.waitlist w).waitCount < osMaxTasks := by
  have hSum := h.sum_waitCount_le {w}
  rw [Finset.sum_singleton] at hSum
  have hPos := h.taskCount_pos
  have hLe := h.taskCount_le
  omega

end Waiting

section Enqueue

variable {k : Kernel} {t u : TaskId} {w w' : WaitlistRef} {n : U32} {reason : BlockReason}

@[simp] theorem taskCount_enqueueCurrent :
    (enqueueCurrent k w n reason).taskCount = k.taskCount := by simp [enqueueCurrent]

@[simp] theorem currentTask_enqueueCurrent :
    (enqueueCurrent k w n reason).currentTask = k.currentTask := by simp [enqueueCurrent]

@[simp] theorem systickCount_enqueueCurrent :
    (enqueueCurrent k w n reason).systickCount = k.systickCount := by simp [enqueueCurrent]

@[simp] theorem pendSV_enqueueCurrent : (enqueueCurrent k w n reason).pendSV = true := rfl

theorem userTasks_enqueueCurrent :
    (enqueueCurrent k w n reason).userTasks u =
      if u = k.currentTask then
        { k.userTasks k.currentTask with
          currentState := .blocked
          blockReason := reason
          blockedWaitlist := some w
          wakeupTick := wakeupTickOf k.systickCount n }
      else k.userTasks u := by
  simp [enqueueCurrent]

theorem waitlist_enqueueCurrent :
    (enqueueCurrent k w n reason).waitlist w' =
      if w' = w then
        { k.waitlist w with
          taskWaitlist := Function.update (k.waitlist w).taskWaitlist (k.waitlist w).waitCount
            (some k.currentTask)
          waitCount := (k.waitlist w).waitCount + 1 }
      else k.waitlist w' := by
  simp [enqueueCurrent]

@[simp] theorem owner_enqueueCurrent {i : MutexId} :
    ((enqueueCurrent k w n reason).mutexes i).owner = (k.mutexes i).owner := by
  simp [enqueueCurrent]

@[simp] theorem mutexState_enqueueCurrent {i : MutexId} :
    ((enqueueCurrent k w n reason).mutexes i).state = (k.mutexes i).state := by
  simp [enqueueCurrent]

theorem blockedOn_enqueueCurrent :
    (enqueueCurrent k w n reason).blockedOn =
      Function.update k.blockedOn k.currentTask (some w) := by
  funext u
  rw [Kernel.blockedOn, userTasks_enqueueCurrent, Function.update_apply]
  split <;> rfl

theorem waiters_enqueueCurrent (h : Listed k) :
    (enqueueCurrent k w n reason).waiters =
      Function.update k.waiters w (k.waiters w ++ [k.currentTask]) := by
  funext w'
  rw [Kernel.waiters, waitlist_enqueueCurrent, Function.update_apply]
  split
  · exact (h w).append.tasks_eq
  · rfl

theorem Listed.afterEnqueue (h : Listed k) : Listed (enqueueCurrent k w n reason) := by
  intro w'
  rw [waiters_enqueueCurrent h, waitlist_enqueueCurrent, Function.update_apply]
  split
  · exact (h w).append
  · exact h w'

theorem Waiting.afterEnqueue (h : Waiting k) (hUser : k.currentTask ≠ idleTaskIdx)
    (hLt : k.currentTask < k.taskCount) (hFree : k.blockedOn k.currentTask = none) :
    Waiting (enqueueCurrent k w n w.blockReason) where
  taskCount_pos := by simpa using h.taskCount_pos
  taskCount_le := by simpa using h.taskCount_le
  listed := h.listed.afterEnqueue
  fibers := by
    rw [blockedOn_enqueueCurrent, waiters_enqueueCurrent h.listed]
    exact h.fibers.append hFree
  blocked {t w'} ht := by
    rw [blockedOn_enqueueCurrent, Function.update_apply] at ht
    rw [userTasks_enqueueCurrent, taskCount_enqueueCurrent]
    split at ht
    · subst t
      cases ht
      exact ⟨hUser, hLt, by simp⟩
    · rename_i hne
      rw [if_neg hne]
      exact h.blocked ht
  unlisted {t} ht := by
    rw [blockedOn_enqueueCurrent, Function.update_apply] at ht
    rw [userTasks_enqueueCurrent, taskCount_enqueueCurrent]
    split at ht
    · cases ht
    · rename_i hne
      rw [if_neg hne]
      exact h.unlisted ht

end Enqueue

section Leave

variable {k : Kernel} {t u : TaskId} {w w' : WaitlistRef} {j : Nat} {b : Bool}

@[simp] theorem taskCount_leaveWaitlist :
    (leaveWaitlist k w j t b).taskCount = k.taskCount := by simp [leaveWaitlist]

@[simp] theorem currentTask_leaveWaitlist :
    (leaveWaitlist k w j t b).currentTask = k.currentTask := by simp [leaveWaitlist]

@[simp] theorem systickCount_leaveWaitlist :
    (leaveWaitlist k w j t b).systickCount = k.systickCount := by simp [leaveWaitlist]

@[simp] theorem pendSV_leaveWaitlist :
    (leaveWaitlist k w j t b).pendSV = k.pendSV := by simp [leaveWaitlist]

theorem userTasks_leaveWaitlist :
    (leaveWaitlist k w j t b).userTasks u =
      if u = t then wakeTcb b (k.userTasks t) else k.userTasks u := by
  simp [leaveWaitlist]

@[simp] theorem owner_leaveWaitlist {i : MutexId} :
    ((leaveWaitlist k w j t b).mutexes i).owner = (k.mutexes i).owner := by
  simp [leaveWaitlist]

@[simp] theorem mutexState_leaveWaitlist {i : MutexId} :
    ((leaveWaitlist k w j t b).mutexes i).state = (k.mutexes i).state := by
  simp [leaveWaitlist]

theorem waitlist_leaveWaitlist :
    (leaveWaitlist k w j t b).waitlist w' =
      if w' = w then waitlistRemoveTask (k.waitlist w) j else k.waitlist w' := by
  simp [leaveWaitlist]

theorem blockedOn_leaveWaitlist :
    (leaveWaitlist k w j t b).blockedOn = Function.update k.blockedOn t none := by
  funext u
  rw [Kernel.blockedOn, userTasks_leaveWaitlist, Function.update_apply]
  split <;> rfl

theorem Listed.leave (h : Listed k) (hj : j < (k.waiters w).length) :
    (leaveWaitlist k w j t b).waiters =
      Function.update k.waiters w ((k.waiters w).eraseIdx j) := by
  funext w'
  rw [Kernel.waiters, waitlist_leaveWaitlist, Function.update_apply]
  split
  · exact ((h w).remove hj).tasks_eq
  · rfl

theorem Listed.afterLeave (h : Listed k) (hj : j < (k.waiters w).length) :
    Listed (leaveWaitlist k w j t b) := by
  intro w'
  rw [h.leave hj, waitlist_leaveWaitlist, Function.update_apply]
  split
  · exact (h w).remove hj
  · exact h w'

/-- Since a task occurs once, removing its position removes it. -/
theorem waiters_leaveWaitlist (h : Waiting k)
    (hj : ∃ hj : j < (k.waiters w).length, (k.waiters w)[j] = t) :
    (leaveWaitlist k w j t b).waiters =
      Function.update k.waiters w ((k.waiters w).erase t) := by
  obtain ⟨hj, rfl⟩ := hj
  rw [h.listed.leave hj, (h.fibers.nodup w).erase_getElem j hj]

theorem Waiting.afterLeave (h : Waiting k)
    (hj : ∃ hj : j < (k.waiters w).length, (k.waiters w)[j] = t) :
    Waiting (leaveWaitlist k w j t b) where
  taskCount_pos := by simpa using h.taskCount_pos
  taskCount_le := by simpa using h.taskCount_le
  listed := h.listed.afterLeave hj.1
  fibers := by
    have ht : k.blockedOn t = some w := h.mem_waiters.mp (by
      obtain ⟨hj, rfl⟩ := hj
      exact List.getElem_mem hj)
    rw [blockedOn_leaveWaitlist, waiters_leaveWaitlist h hj]
    exact h.fibers.erase ht
  blocked {u w'} hu := by
    rw [blockedOn_leaveWaitlist, Function.update_apply] at hu
    rw [userTasks_leaveWaitlist, taskCount_leaveWaitlist]
    split at hu
    · cases hu
    · rename_i hne
      rw [if_neg hne]
      exact h.blocked hu
  unlisted {u} hu := by
    rw [blockedOn_leaveWaitlist, Function.update_apply] at hu
    rw [userTasks_leaveWaitlist, taskCount_leaveWaitlist]
    split at hu
    · rename_i hEq
      rw [if_pos hEq]
      exact .inr ⟨by simp [wakeTcb], rfl⟩
    · rename_i hne
      rw [if_neg hne]
      exact h.unlisted hu

/-- The waiter that `waitlist_unblock` picks is at the place where it was found. -/
theorem Listed.chosen (h : Listed k) (hc : Chosen k w j t) :
    ∃ hj : j < (k.waiters w).length, (k.waiters w)[j] = t :=
  (h w).entry_eq_some.mp hc.entry

theorem Chosen.blockedOn (h : Waiting k) (hChosen : Chosen k w j t) : k.blockedOn t = some w := by
  obtain ⟨hj, hAt⟩ := h.listed.chosen hChosen
  exact h.mem_waiters.mp (hAt ▸ List.getElem_mem hj)

theorem releaseTask_eq : releaseTask k w j t = leaveWaitlist k w j t false := rfl

theorem waiters_releaseTask (h : Waiting k) (hc : Chosen k w j t) :
    (releaseTask k w j t).portYield.waiters w' =
      if w' = w then (k.waiters w).erase t else k.waiters w' := by
  rw [(SameShape.portYield _).waiters, releaseTask_eq, waiters_leaveWaitlist h (h.listed.chosen hc)]
  exact Function.update_apply ..

end Leave

section Ticks

variable {k : Kernel} {t u i : TaskId} {w : WaitlistRef}

/-- A task that is in no waitlist may change its state and its reason together. -/
theorem Waiting.modifyTask (h : Waiting k) (hFree : k.blockedOn t = none) {f : Tcb → Tcb}
    (hf : (f (k.userTasks t)).blockedWaitlist = none)
    (hState : (t ≠ idleTaskIdx ∧ t < k.taskCount ∧ (f (k.userTasks t)).currentState = .blocked ∧
        (f (k.userTasks t)).blockReason = .delay) ∨
      ((f (k.userTasks t)).currentState ≠ .blocked ∧ (f (k.userTasks t)).blockReason = .none)) :
    Waiting (k.modifyTask t f) := by
  have hBlockedOn : (k.modifyTask t f).blockedOn = k.blockedOn := by
    funext u
    rw [Kernel.blockedOn, Kernel.userTasks_modifyTask]
    split
    · rename_i hEq
      rw [hf, hEq, hFree]
    · rfl
  have hWaiters : (k.modifyTask t f).waiters = k.waiters := by
    funext w
    rw [Kernel.waiters, Kernel.waitlist_modifyTask, Kernel.waiters]
  refine ⟨h.taskCount_pos, h.taskCount_le, ?_, ?_, ?_, ?_⟩
  · intro w
    rw [Kernel.waitlist_modifyTask, hWaiters]
    exact h.listed w
  · rw [hBlockedOn, hWaiters]
    exact h.fibers
  · intro u w hu
    rw [hBlockedOn] at hu
    have hne : u ≠ t := by
      rintro rfl
      rw [hFree] at hu
      cases hu
    rw [Kernel.userTasks_modifyTask, if_neg hne]
    exact h.blocked hu
  · intro u hu
    rw [hBlockedOn] at hu
    rw [Kernel.userTasks_modifyTask]
    split
    · subst u
      exact hState
    · exact h.unlisted hu

theorem modifyTask_modifyTask {f g : Tcb → Tcb} :
    (k.modifyTask t f).modifyTask t g = k.modifyTask t fun tcb => g (f tcb) := by
  simp [Kernel.modifyTask]

theorem modifyTask_setWaitlist {f : Tcb → Tcb} {wl : Waitlist} :
    (k.setWaitlist w wl).modifyTask t f = (k.modifyTask t f).setWaitlist w wl := by
  cases w <;> rfl

theorem modifyTask_congr {f g : Tcb → Tcb} (h : f (k.userTasks t) = g (k.userTasks t)) :
    k.modifyTask t f = k.modifyTask t g := by
  rw [Kernel.modifyTask, Kernel.modifyTask, h]

theorem unblockTask_of_mem {l : List TaskId} (h : (k.waitlist w).Represents l)
    (hReached : wakeupReached k i) (hOn : k.blockedOn i = some w) (hi : i ∈ l) :
    ∃ j, ∃ hj : j < l.length, l[j] = i ∧ unblockTask k i = leaveWaitlist k w j i true := by
  obtain ⟨j, hj, hAt, hFind⟩ := h.find hi
  refine ⟨j, hj, hAt, ?_⟩
  have hBlocked : (k.userTasks i).blockedWaitlist = some w := hOn
  rw [unblockTask, if_pos hReached]
  dsimp only
  rw [hBlocked]
  simp only [removeFromWaitlist, Kernel.waitlist_modifyTask, hFind]
  rw [modifyTask_modifyTask, modifyTask_setWaitlist, modifyTask_modifyTask]
  rfl

theorem Listed.unblockTask_cases (h : Listed k) (i : TaskId) :
    (¬ wakeupReached k i ∧ unblockTask k i = k) ∨
    (wakeupReached k i ∧ k.blockedOn i = none ∧
      unblockTask k i = k.modifyTask i (wakeTcb false)) ∨
    (wakeupReached k i ∧ ∃ w j, k.blockedOn i = some w ∧
      (∃ hj : j < (k.waiters w).length, (k.waiters w)[j] = i) ∧
      unblockTask k i = leaveWaitlist k w j i true) ∨
    (wakeupReached k i ∧ ∃ w, k.blockedOn i = some w ∧ i ∉ k.waiters w ∧
      unblockTask k i = k.modifyTask i fun tcb =>
        { wakeTcb true tcb with blockedWaitlist := some w }) := by
  by_cases hReached : wakeupReached k i
  · right
    cases hBlocked : (k.userTasks i).blockedWaitlist with
    | none =>
      refine .inl ⟨hReached, hBlocked, ?_⟩
      rw [unblockTask, if_pos hReached]
      dsimp only
      rw [hBlocked]
      dsimp only
      rw [modifyTask_modifyTask]
      apply modifyTask_congr
      simp [wakeTcb, hBlocked]
    | some w =>
      right
      by_cases hMem : i ∈ k.waiters w
      · obtain ⟨j, hj, hAt, hLeave⟩ := unblockTask_of_mem (h w) hReached hBlocked hMem
        exact .inl ⟨hReached, w, j, hBlocked, ⟨hj, hAt⟩, hLeave⟩
      · refine .inr ⟨hReached, w, hBlocked, hMem, ?_⟩
        rw [unblockTask, if_pos hReached]
        dsimp only
        rw [hBlocked]
        simp only [removeFromWaitlist, Kernel.waitlist_modifyTask, (h w).find_none hMem]
        rw [modifyTask_modifyTask]
        apply modifyTask_congr
        simp [wakeTcb, hBlocked]
  · exact .inl ⟨hReached, if_neg hReached⟩

theorem Waiting.unblockTask_cases (h : Waiting k) (i : TaskId) :
    (¬ wakeupReached k i ∧ unblockTask k i = k) ∨
    (wakeupReached k i ∧ k.blockedOn i = none ∧
      unblockTask k i = k.modifyTask i (wakeTcb false)) ∨
    (wakeupReached k i ∧ ∃ w j, k.blockedOn i = some w ∧
      (∃ hj : j < (k.waiters w).length, (k.waiters w)[j] = i) ∧
      unblockTask k i = leaveWaitlist k w j i true) := by
  rcases h.listed.unblockTask_cases i with hSame | hDelayed | hListed | ⟨_, w, hOn, hAbsent, _⟩
  · exact .inl hSame
  · exact .inr (.inl hDelayed)
  · exact .inr (.inr hListed)
  · exact absurd (h.mem_waiters.mpr hOn) hAbsent

theorem Waiting.afterUnblockTask (h : Waiting k) (i : TaskId) : Waiting (unblockTask k i) := by
  rcases h.unblockTask_cases i with ⟨_, hEq⟩ | ⟨_, hFree, hEq⟩ | ⟨_, w, j, _, hj, hEq⟩
  · rw [hEq]
    exact h
  · rw [hEq]
    exact h.modifyTask hFree rfl (.inr ⟨by simp [wakeTcb], rfl⟩)
  · rw [hEq]
    exact h.afterLeave hj

end Ticks
end KoRTOS
