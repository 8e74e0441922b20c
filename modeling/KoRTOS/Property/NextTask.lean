import KoRTOS.Evaluation
import KoRTOS.Invariant.Candidates

/-!
# The next task

What `os_schedule_next_task` does to a kernel whose running task, if there is
one, is the current one: which task it takes, and that nothing but states
changes.
-/

namespace KoRTOS

/-- A user task that is not blocked. -/
def candidate (k : Kernel) (t : TaskId) : Bool :=
  t != idleTaskIdx && decide (t < k.taskCount) && (k.userTasks t).currentState != .blocked

section Choice

variable {k : Kernel} {a b c t : TaskId}

theorem candidate_iff :
    candidate k t = true ↔
      t ≠ idleTaskIdx ∧ t < k.taskCount ∧ (k.userTasks t).currentState ≠ .blocked := by
  simp [candidate, and_assoc]

/-- From task `c` on, the scheduler comes to `a` before it comes to `b`. -/
def Precedes (c a b : TaskId) : Prop :=
  (c < a ∧ (a < b ∨ b ≤ c)) ∨ (a ≤ c ∧ b ≤ c ∧ a < b)

theorem pairwise_scheduleOrder : (scheduleOrder k).Pairwise (Precedes k.currentTask) := by
  refine List.pairwise_append.mpr ⟨?_, ?_, ?_⟩
  · refine List.Pairwise.imp_of_mem (fun ha _ hab => ?_) List.pairwise_lt_range'
    exact .inl ⟨(List.mem_range'_1.mp ha).1, .inl hab⟩
  · refine List.Pairwise.imp_of_mem (fun ha hb hab => ?_) List.pairwise_lt_range'
    have ha' := (List.mem_range'_1.mp ha).2
    have hb' := (List.mem_range'_1.mp hb).2
    unfold Precedes TaskId at *
    omega
  · intro a ha b hb
    have ha' := (List.mem_range'_1.mp ha).1
    have hb' := (List.mem_range'_1.mp hb).2
    unfold Precedes TaskId at *
    omega

section Readied

variable (hCurrent : k.currentTask < k.taskCount) (hRuns : OnlyCurrentRuns k)

include hCurrent in
theorem mem_order_readied :
    t ∈ scheduleOrder (readied k) ↔ t ≠ idleTaskIdx ∧ t < k.taskCount := by
  rw [mem_scheduleOrder (by simpa using hCurrent), taskCount_readied]

include hRuns in
theorem ready_readied :
    ((readied k).userTasks t).currentState = .ready ↔ (k.userTasks t).currentState ≠ .blocked := by
  rw [userTasks_readied]
  cases hState : (k.userTasks t).currentState with
  | running => simp [hRuns t hState]
  | ready => simp [hState]
  | blocked => simp [hState]

theorem currentTask_schedule (hMany : 2 ≤ k.taskCount) :
    (osScheduleNextTask k).currentTask = scheduleSelect (readied k) := by
  have hMany : ¬ (readied k).taskCount ≤ 1 := by
    rw [taskCount_readied]
    omega
  rw [osScheduleNextTask_eq, if_neg hMany]
  rfl

theorem two_le_of_candidate (ht : candidate k t = true) : 2 ≤ k.taskCount := by
  obtain ⟨hIdle, hLt, -⟩ := candidate_iff.mp ht
  have hPos : 0 < t := Nat.pos_of_ne_zero hIdle
  unfold TaskId at *
  omega

end Readied

theorem candidate_schedule (hCurrent : k.currentTask < k.taskCount) (hRuns : OnlyCurrentRuns k)
    (hUser : ∀ d, candidate k d = true → k.eff d ≤ osPriorityLowest)
    (ht : candidate k t = true) :
    candidate k (osScheduleNextTask k).currentTask = true ∧
    (∀ d, candidate k d = true → k.eff (osScheduleNextTask k).currentTask ≤ k.eff d) ∧
    ∀ d, candidate k d = true → k.eff d ≤ k.eff (osScheduleNextTask k).currentTask →
      d = (osScheduleNextTask k).currentTask ∨
        Precedes k.currentTask (osScheduleNextTask k).currentTask d := by
  have hEff : (readied k).eff = k.eff := sameButStates_readied.eff
  have hKey : ∀ d, candidate k d = true →
      d ∈ scheduleOrder (readied k) ∧ readyKey (readied k) d = some (k.eff d) := by
    intro d hd
    obtain ⟨hdIdle, hdLt, hdFree⟩ := candidate_iff.mp hd
    refine ⟨(mem_order_readied hCurrent).mpr ⟨hdIdle, hdLt⟩, ?_⟩
    rw [readyKey, if_pos ((ready_readied hRuns).mpr hdFree), ← hEff]
    rfl
  rw [currentTask_schedule (two_le_of_candidate ht)]
  obtain ⟨_, hNone⟩ | ⟨p, _, hMin⟩ := scheduleSelect_cases (k := readied k)
  · have hReady := (readyKey_eq_some (hKey t ht).2).1
    have hLow := hNone t (hKey t ht).1 hReady
    rw [hEff] at hLow
    exact absurd (hUser t ht) (Nat.not_le.mpr hLow)
  · obtain ⟨hSelected, hp⟩ := readyKey_eq_some hMin.1
    rw [hEff] at hp
    obtain ⟨hcIdle, hcLt⟩ := (mem_order_readied hCurrent).mp hMin.mem
    refine ⟨candidate_iff.mpr ⟨hcIdle, hcLt, (ready_readied hRuns).mp hSelected⟩, fun d hd => ?_,
      fun d hd hle => ?_⟩
    · rw [hp]
      exact hMin.le (hKey d hd).1 (hKey d hd).2
    · rw [hp] at hle
      have hFirst := hMin.first pairwise_scheduleOrder (hKey d hd).1 (hKey d hd).2 hle
      rwa [currentTask_readied] at hFirst

theorem schedule_idle_iff (hCurrent : k.currentTask < k.taskCount) (hRuns : OnlyCurrentRuns k)
    (hMany : 2 ≤ k.taskCount)
    (hUser : ∀ d, candidate k d = true → k.eff d ≤ osPriorityLowest) :
    (osScheduleNextTask k).currentTask = idleTaskIdx ↔ ∀ t, candidate k t = false := by
  constructor
  · intro hIdle t
    by_contra ht
    rw [Bool.not_eq_false] at ht
    have hChosen := (candidate_schedule hCurrent hRuns hUser ht).1
    exact (candidate_iff.mp hChosen).1 hIdle
  · intro hNone
    have hCurrent' : (readied k).currentTask < (readied k).taskCount := by simpa using hCurrent
    obtain ⟨hLt, hIdle | hReady⟩ := scheduleSelect_spec hCurrent'
    · rw [currentTask_schedule hMany, hIdle]
    · rw [currentTask_schedule hMany]
      by_contra hNe
      rw [taskCount_readied] at hLt
      have hChosen := candidate_iff.mpr ⟨hNe, hLt, (ready_readied hRuns).mp hReady⟩
      rw [hNone] at hChosen
      exact Bool.false_ne_true hChosen

theorem userTasks_schedule (hMany : 2 ≤ k.taskCount) : (osScheduleNextTask k).userTasks t =
    if t = (osScheduleNextTask k).currentTask then
      { k.userTasks t with currentState := .running }
    else if t = k.currentTask ∧ (k.userTasks t).currentState = .running then
      { k.userTasks t with currentState := .ready }
    else k.userTasks t := by
  have hDispatch : osScheduleNextTask k = dispatch (readied k) := by
    rw [osScheduleNextTask_eq, if_neg]
    rw [taskCount_readied]
    omega
  have hCurrent : (dispatch (readied k)).currentTask = scheduleSelect (readied k) := rfl
  rw [hDispatch, hCurrent, userTasks_dispatch, userTasks_readied]
  split
  · split <;> rfl
  · rfl

/-- How many indices come between `c` and `t`, going up from `c` and round the table of `n`. -/
def indicesBetween (n c t : Nat) : Nat := (t + (n - 1 - c)) % n

theorem indicesBetween_eq {n c t : Nat} (hc : c < n) (ht : t < n) :
    indicesBetween n c t = if c < t then t - c - 1 else t + n - 1 - c := by
  rw [indicesBetween]
  split
  · have hSum : t + (n - 1 - c) = t - c - 1 + n := by omega
    rw [hSum, Nat.add_mod_right, Nat.mod_eq_of_lt (by omega)]
  · rw [Nat.mod_eq_of_lt (by omega)]
    omega

theorem Precedes.indicesBetween_lt {n : Nat} (h : Precedes c a b) (hc : c < n) (ha : a < n)
    (hb : b < n) : indicesBetween n c a < indicesBetween n c b := by
  rw [indicesBetween_eq hc ha, indicesBetween_eq hc hb]
  unfold Precedes TaskId at *
  split <;> split <;> omega

/-- A kernel with user tasks, in which at most the current task is running. -/
structure Schedulable (k : Kernel) : Prop where
  users : 2 ≤ k.taskCount
  current_lt : k.currentTask < k.taskCount
  running : OnlyCurrentRuns k
  priorities : ∀ t, t ≠ idleTaskIdx → t < k.taskCount → k.eff t ≤ osPriorityLowest

/-- What `os_schedule_next_task` does: `k'` runs the first of the most urgent user tasks that can
run, or the idle task, and all the rest is as in `k`. -/
structure SchedulesNext (k k' : Kernel) : Prop where
  running : ∀ t, (k'.userTasks t).currentState = .running ↔ t = k'.currentTask
  idle : k'.currentTask = idleTaskIdx ↔ ∀ t, t ≠ idleTaskIdx → t < k.taskCount →
    (k.userTasks t).currentState = .blocked
  user : k'.currentTask ≠ idleTaskIdx → k'.currentTask < k.taskCount ∧
    (k.userTasks k'.currentTask).currentState ≠ .blocked
  urgent : k'.currentTask ≠ idleTaskIdx → ∀ t, t ≠ idleTaskIdx → t < k.taskCount →
    (k.userTasks t).currentState ≠ .blocked → k.eff k'.currentTask ≤ k.eff t
  first : k'.currentTask ≠ idleTaskIdx → ∀ t, t ≠ idleTaskIdx → t < k.taskCount →
    (k.userTasks t).currentState ≠ .blocked → k.eff t = k.eff k'.currentTask →
      indicesBetween k.taskCount k.currentTask k'.currentTask ≤
        indicesBetween k.taskCount k.currentTask t
  chosen : k'.userTasks k'.currentTask =
    { k.userTasks k'.currentTask with currentState := .running }
  previous : k.currentTask ≠ k'.currentTask → k.current.currentState = .running →
    k'.userTasks k.currentTask = { k.current with currentState := .ready }
  others : ∀ t, t ≠ k'.currentTask → (k.userTasks t).currentState ≠ .running →
    k'.userTasks t = k.userTasks t
  rest : SameButStates k k'

theorem Schedulable.candidate_next (h : Schedulable k)
    (hNext : (osScheduleNextTask k).currentTask ≠ idleTaskIdx) :
    candidate k (osScheduleNextTask k).currentTask = true ∧
    (∀ d, candidate k d = true → k.eff (osScheduleNextTask k).currentTask ≤ k.eff d) ∧
    ∀ d, candidate k d = true → k.eff d ≤ k.eff (osScheduleNextTask k).currentTask →
      d = (osScheduleNextTask k).currentTask ∨
        Precedes k.currentTask (osScheduleNextTask k).currentTask d := by
  have hUser : ∀ d, candidate k d = true → k.eff d ≤ osPriorityLowest := fun d hd =>
    h.priorities d (candidate_iff.mp hd).1 (candidate_iff.mp hd).2.1
  have hSome : ¬ ∀ t, candidate k t = false := fun hNone =>
    hNext ((schedule_idle_iff h.current_lt h.running h.users hUser).mpr hNone)
  obtain ⟨t, ht⟩ := not_forall.mp hSome
  exact candidate_schedule h.current_lt h.running hUser (Bool.not_eq_false _ ▸ ht)

/-- The scheduler takes the first of the most urgent tasks that can run. -/
theorem schedules_next (h : Schedulable k) : SchedulesNext k (osScheduleNextTask k) := by
  have hUser : ∀ d, candidate k d = true → k.eff d ≤ osPriorityLowest := fun d hd =>
    h.priorities d (candidate_iff.mp hd).1 (candidate_iff.mp hd).2.1
  have hTasks := fun t => userTasks_schedule (t := t) h.users
  constructor
  · intro t
    rw [hTasks]
    split
    · next hNext => exact iff_of_true rfl hNext
    · next hNext =>
      refine iff_of_false ?_ hNext
      split
      · exact TaskState.noConfusion
      · next hOther => exact fun hRunning => hOther ⟨h.running t hRunning, hRunning⟩
  · rw [schedule_idle_iff h.current_lt h.running h.users hUser]
    constructor
    · intro hNone t hIdle hLt
      by_contra hFree
      exact Bool.false_ne_true ((hNone t).symm.trans (candidate_iff.mpr ⟨hIdle, hLt, hFree⟩))
    · intro hBlocked t
      rw [← Bool.not_eq_true, candidate_iff]
      rintro ⟨hIdle, hLt, hFree⟩
      exact hFree (hBlocked t hIdle hLt)
  · intro hNext
    exact (candidate_iff.mp (h.candidate_next hNext).1).2
  · intro hNext t hIdle hLt hFree
    exact (h.candidate_next hNext).2.1 t (candidate_iff.mpr ⟨hIdle, hLt, hFree⟩)
  · intro hNext t hIdle hLt hFree hEqual
    obtain ⟨hChosen, -, hFirst⟩ := h.candidate_next hNext
    obtain rfl | hBefore := hFirst t (candidate_iff.mpr ⟨hIdle, hLt, hFree⟩) hEqual.le
    · exact Nat.le_refl _
    · exact (hBefore.indicesBetween_lt h.current_lt (candidate_iff.mp hChosen).2.1 hLt).le
  · rw [hTasks, if_pos rfl]
  · intro hSwitched hRunning
    rw [hTasks, if_neg hSwitched, if_pos ⟨rfl, hRunning⟩]
    rfl
  · intro t hOther hState
    rw [hTasks, if_neg hOther, if_neg fun hCurrent => hState hCurrent.2]
  · exact sameButStates_osScheduleNextTask

end Choice

theorem Reaches.schedulable {trace : List Label} {s : Sys} (h : Reaches trace s)
    (hMany : 2 ≤ s.kernel.taskCount) : Schedulable s.kernel where
  users := hMany
  current_lt := h.seated.current_lt
  running := h.candidates.running
  priorities t hIdle _ := h.candidates.priorities.eff_le t hIdle

def idlingKernel : Kernel :=
  let k := { zeroKernel sampleImage with taskCount := 3 }
  let k := k.modifyTask 0 fun tcb => { tcb with currentState := .running }
  k.modifyTask 1 fun tcb => { tcb with currentState := .blocked }

theorem schedules_next_second : idlingKernel.currentTask = 0 ∧
    (osScheduleNextTask idlingKernel).currentTask = 2 ∧
    SchedulesNext idlingKernel (osScheduleNextTask idlingKernel) := by
  refine ⟨rfl, by decide, schedules_next ⟨by decide, by decide, ?_, ?_⟩⟩
  · intro t hRunning
    by_contra hNe
    have hZero : t ≠ 0 := hNe
    by_cases hOne : t = 1
    · subst hOne
      cases hRunning
    · simp [idlingKernel, hZero, hOne, zeroKernel, zeroTcb] at hRunning
  · intro t hIdle _
    by_cases hOne : t = 1
    · subst hOne
      decide
    · have hZero : t ≠ 0 := hIdle
      simp [Kernel.eff, idlingKernel, hZero, hOne, zeroKernel, zeroTcb]

end KoRTOS
