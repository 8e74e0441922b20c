import KoRTOS.Invariant.Waiting

/-!
# The choice of the next task

The two loops of `os_schedule_next_task` scan the user tasks in cyclic order,
starting after the running task, for the first one of the best priority that is
ready. Dispatching changes states only, and takes no task out of a waitlist.
-/

namespace KoRTOS

/-- The order in which the scheduler looks at the user tasks. -/
def scheduleOrder (k : Kernel) : List TaskId :=
  List.range' (k.currentTask + 1) (k.taskCount - (k.currentTask + 1)) ++
    List.range' 1 k.currentTask

def readyKey (k : Kernel) (t : TaskId) : Option Nat :=
  if (k.userTasks t).currentState = .ready then some (k.userTasks t).effectivePriority else none

/-- The kernel after the running task has been put back among the ready ones. -/
def readied (k : Kernel) : Kernel :=
  if k.current.currentState = .running then
    k.modifyTask k.currentTask fun tcb => { tcb with currentState := .ready }
  else k

def dispatch (k : Kernel) : Kernel :=
  { k with currentTask := scheduleSelect k }.modifyTask (scheduleSelect k) fun tcb =>
    { tcb with currentState := .running }

theorem osScheduleNextTask_eq (k : Kernel) :
    osScheduleNextTask k =
      if (readied k).taskCount ≤ 1 then readied k else dispatch (readied k) := rfl

section Select

variable {k : Kernel} {t : TaskId}

theorem mem_scheduleOrder (hCurrent : k.currentTask < k.taskCount) :
    t ∈ scheduleOrder k ↔ t ≠ idleTaskIdx ∧ t < k.taskCount := by
  simp only [scheduleOrder, List.mem_append, List.mem_range'_1, idleTaskIdx]
  unfold TaskId at *
  omega

theorem foldl_scheduleStep (l : List TaskId) (p : Nat) (o : Option TaskId) :
    l.foldl (scheduleStep k) (p, o.getD idleTaskIdx) =
      ((l.foldl (Scan.step (readyKey k)) (p, o)).1,
        (l.foldl (Scan.step (readyKey k)) (p, o)).2.getD idleTaskIdx) := by
  induction l generalizing p o with
  | nil => rfl
  | cons i l ih =>
    have hStep : scheduleStep k (p, o.getD idleTaskIdx) i =
        ((Scan.step (readyKey k) (p, o) i).1,
          (Scan.step (readyKey k) (p, o) i).2.getD idleTaskIdx) := by
      unfold scheduleStep Scan.step readyKey
      by_cases hReady : (k.userTasks i).currentState = .ready
      · simp only [hReady, true_and, if_true]
        split <;> rfl
      · simp only [hReady, false_and, if_false]
    rw [List.foldl_cons, List.foldl_cons, hStep]
    exact ih _ _

theorem scheduleSelect_eq : scheduleSelect k =
    ((scheduleOrder k).foldl (Scan.step (readyKey k)) (osPriorityLowest + 1, none)).2.getD
      idleTaskIdx := by
  have hFold := foldl_scheduleStep (k := k) (scheduleOrder k) (osPriorityLowest + 1) none
  rw [scheduleOrder, List.foldl_append] at hFold
  exact congrArg Prod.snd hFold

/-- The scheduler falls back on the idle task, or takes the first ready task of the best
priority in its order. -/
theorem scheduleSelect_cases :
    (scheduleSelect k = idleTaskIdx ∧ ∀ t ∈ scheduleOrder k,
      (k.userTasks t).currentState = .ready → osPriorityLowest < k.eff t) ∨
    ∃ p, p ≤ osPriorityLowest ∧
      Scan.FirstMin (readyKey k) (scheduleOrder k) (scheduleSelect k) p := by
  rw [scheduleSelect_eq]
  rcases Scan.foldl_cases (readyKey k) (scheduleOrder k) (osPriorityLowest + 1) none with
    ⟨hFold, hAll⟩ | ⟨t, p, hFold, hLt, hMin⟩
  · left
    rw [hFold]
    refine ⟨rfl, ?_⟩
    intro t ht hReady
    exact hAll t ht _ (if_pos hReady)
  · right
    rw [hFold]
    exact ⟨p, Nat.le_of_lt_succ hLt, hMin⟩

theorem readyKey_eq_some {p : Nat} (h : readyKey k t = some p) :
    (k.userTasks t).currentState = .ready ∧ k.eff t = p := by
  unfold readyKey at h
  split at h
  · rename_i hReady
    exact ⟨hReady, Option.some.inj h⟩
  · cases h

theorem scheduleSelect_spec (hCurrent : k.currentTask < k.taskCount) :
    scheduleSelect k < k.taskCount ∧
      (scheduleSelect k = idleTaskIdx ∨
        (k.userTasks (scheduleSelect k)).currentState = .ready) := by
  rcases scheduleSelect_cases (k := k) with ⟨hIdle, _⟩ | ⟨p, _, hMin⟩
  · rw [hIdle]
    exact ⟨Nat.zero_lt_of_lt hCurrent, .inl rfl⟩
  · have hMem := (mem_scheduleOrder hCurrent).mp hMin.mem
    exact ⟨hMem.2, .inr (readyKey_eq_some hMin.1).1⟩

end Select

section Frame

variable {k : Kernel} {t : TaskId}

theorem userTasks_readied :
    (readied k).userTasks t =
      if t = k.currentTask ∧ (k.userTasks t).currentState = .running then
        { k.userTasks t with currentState := .ready }
      else k.userTasks t := by
  unfold readied Kernel.current
  by_cases hEq : t = k.currentTask
  · subst t
    split <;> simp [*]
  · split <;> simp [hEq]

@[simp] theorem currentTask_readied : (readied k).currentTask = k.currentTask := by
  unfold readied
  split <;> rfl

@[simp] theorem taskCount_readied : (readied k).taskCount = k.taskCount := by
  unfold readied
  split <;> rfl

@[simp] theorem waitlist_readied : (readied k).waitlist = k.waitlist := by
  unfold readied
  split
  · exact Kernel.waitlist_modifyTask
  · rfl

@[simp] theorem waitlist_dispatch : (dispatch k).waitlist = k.waitlist := by
  funext w
  cases w <;> rfl

theorem userTasks_dispatch :
    (dispatch k).userTasks t =
      if t = scheduleSelect k then { k.userTasks t with currentState := .running }
      else k.userTasks t := by
  rw [dispatch, Kernel.userTasks_modifyTask]
  split
  · subst t
    rfl
  · rfl

/-- Everything but states and the current task is the same after `os_schedule_next_task`. -/
structure SameButStates (k k' : Kernel) : Prop where
  taskCount : k'.taskCount = k.taskCount
  systickCount : k'.systickCount = k.systickCount
  pendSV : k'.pendSV = k.pendSV
  semaphores : k'.semaphores = k.semaphores
  mutexes : k'.mutexes = k.mutexes
  queues : k'.queues = k.queues
  waitlist : k'.waitlist = k.waitlist
  tasks : ∀ t, ∃ state, k'.userTasks t = { k.userTasks t with currentState := state }

theorem SameButStates.trans {k k' k'' : Kernel} (h : SameButStates k k')
    (h' : SameButStates k' k'') : SameButStates k k'' where
  taskCount := h'.taskCount.trans h.taskCount
  systickCount := h'.systickCount.trans h.systickCount
  pendSV := h'.pendSV.trans h.pendSV
  semaphores := h'.semaphores.trans h.semaphores
  mutexes := h'.mutexes.trans h.mutexes
  queues := h'.queues.trans h.queues
  waitlist := h'.waitlist.trans h.waitlist
  tasks t := by
    obtain ⟨state, hState⟩ := h.tasks t
    obtain ⟨state', hState'⟩ := h'.tasks t
    exact ⟨state', by rw [hState', hState]⟩

theorem sameButStates_readied : SameButStates k (readied k) where
  taskCount := taskCount_readied
  systickCount := by unfold readied; split <;> rfl
  pendSV := by unfold readied; split <;> rfl
  semaphores := by unfold readied; split <;> rfl
  mutexes := by unfold readied; split <;> rfl
  queues := by unfold readied; split <;> rfl
  waitlist := waitlist_readied
  tasks t := by
    rw [userTasks_readied]
    split
    · exact ⟨_, rfl⟩
    · exact ⟨_, rfl⟩

theorem sameButStates_dispatch : SameButStates k (dispatch k) where
  taskCount := rfl
  systickCount := rfl
  pendSV := rfl
  semaphores := rfl
  mutexes := rfl
  queues := rfl
  waitlist := waitlist_dispatch
  tasks t := by
    rw [userTasks_dispatch]
    split
    · exact ⟨_, rfl⟩
    · exact ⟨_, rfl⟩

theorem sameButStates_osScheduleNextTask : SameButStates k (osScheduleNextTask k) := by
  rw [osScheduleNextTask_eq]
  split
  · exact sameButStates_readied
  · exact sameButStates_readied.trans sameButStates_dispatch

namespace SameButStates

variable {k' : Kernel}

theorem blockReason (h : SameButStates k k') :
    (k'.userTasks t).blockReason = (k.userTasks t).blockReason := by
  obtain ⟨_, hEq⟩ := h.tasks t
  rw [hEq]

theorem timeout (h : SameButStates k k') :
    (k'.userTasks t).timeout = (k.userTasks t).timeout := by
  obtain ⟨_, hEq⟩ := h.tasks t
  rw [hEq]

theorem wakeupTick (h : SameButStates k k') :
    (k'.userTasks t).wakeupTick = (k.userTasks t).wakeupTick := by
  obtain ⟨_, hEq⟩ := h.tasks t
  rw [hEq]

theorem ownedMutexCount (h : SameButStates k k') :
    (k'.userTasks t).ownedMutexCount = (k.userTasks t).ownedMutexCount := by
  obtain ⟨_, hEq⟩ := h.tasks t
  rw [hEq]

theorem ownedMutexes (h : SameButStates k k') :
    (k'.userTasks t).ownedMutexes = (k.userTasks t).ownedMutexes := by
  obtain ⟨_, hEq⟩ := h.tasks t
  rw [hEq]

theorem blockedOn (h : SameButStates k k') : k'.blockedOn = k.blockedOn := by
  funext t
  obtain ⟨_, hEq⟩ := h.tasks t
  rw [Kernel.blockedOn, hEq, Kernel.blockedOn]

theorem eff (h : SameButStates k k') : k'.eff = k.eff := by
  funext t
  obtain ⟨_, hEq⟩ := h.tasks t
  rw [Kernel.eff, hEq, Kernel.eff]

theorem base (h : SameButStates k k') : k'.base = k.base := by
  funext t
  obtain ⟨_, hEq⟩ := h.tasks t
  rw [Kernel.base, hEq, Kernel.base]

theorem waiters (h : SameButStates k k') : k'.waiters = k.waiters := by
  funext w
  rw [Kernel.waiters, h.waitlist, Kernel.waiters]

theorem ownerOf (h : SameButStates k k') : k'.ownerOf = k.ownerOf := by
  funext i
  rw [Kernel.ownerOf, h.mutexes, Kernel.ownerOf]

end SameButStates
end Frame

theorem Waiting.reason_none {k : Kernel} {t : TaskId} (h : Waiting k)
    (ht : (k.userTasks t).currentState ≠ .blocked) : (k.userTasks t).blockReason = .none := by
  rcases h.unlisted (h.free_of_not_blocked ht) with ⟨_, _, hBlocked, _⟩ | ⟨_, hReason⟩
  · exact absurd hBlocked ht
  · exact hReason

theorem Waiting.setState {k : Kernel} {t : TaskId} {state : TaskState} (h : Waiting k)
    (ht : (k.userTasks t).currentState ≠ .blocked) (hState : state ≠ .blocked) :
    Waiting (k.modifyTask t fun tcb => { tcb with currentState := state }) :=
  h.modifyTask (h.free_of_not_blocked ht) (h.free_of_not_blocked ht)
    (.inr ⟨hState, h.reason_none ht⟩)

theorem Waiting.afterReadied {k : Kernel} (h : Waiting k) : Waiting (readied k) := by
  unfold readied
  split
  · rename_i hRunning
    exact h.setState (by rw [← Kernel.current, hRunning]; simp) (by simp)
  · exact h

theorem Waiting.select_not_blocked {k : Kernel} (h : Waiting k)
    (hCurrent : k.currentTask < k.taskCount) :
    (k.userTasks (scheduleSelect k)).currentState ≠ .blocked := by
  rcases (scheduleSelect_spec hCurrent).2 with hIdle | hReady
  · rw [hIdle]
    exact h.idle_not_blocked
  · rw [hReady]
    simp

theorem Waiting.afterDispatch {k : Kernel} (h : Waiting k)
    (hCurrent : k.currentTask < k.taskCount) : Waiting (dispatch k) := by
  have hMoved : Waiting { k with currentTask := scheduleSelect k } :=
    h.congr (.of_userTasks rfl rfl (by funext w; cases w <;> rfl))
  exact hMoved.setState (h.select_not_blocked hCurrent) (by simp)

theorem Waiting.afterSchedule {k : Kernel} (h : Waiting k)
    (hCurrent : k.currentTask < k.taskCount) : Waiting (osScheduleNextTask k) := by
  rw [osScheduleNextTask_eq]
  split
  · exact h.afterReadied
  · apply h.afterReadied.afterDispatch
    rw [currentTask_readied, taskCount_readied]
    exact hCurrent

theorem currentTask_schedule_lt {k : Kernel} (hCurrent : k.currentTask < k.taskCount) :
    (osScheduleNextTask k).currentTask < (osScheduleNextTask k).taskCount := by
  have hReadied : (readied k).currentTask < (readied k).taskCount := by
    rw [currentTask_readied, taskCount_readied]
    exact hCurrent
  rw [osScheduleNextTask_eq]
  split
  · exact hReadied
  · exact (scheduleSelect_spec hReadied).1

theorem Waiting.schedule_current {k : Kernel} (h : Waiting k)
    (hCurrent : k.currentTask < k.taskCount) :
    ((osScheduleNextTask k).userTasks (osScheduleNextTask k).currentTask).currentState ≠
      .blocked := by
  rw [osScheduleNextTask_eq]
  split
  · rename_i hAlone
    rw [taskCount_readied] at hAlone
    have hIdle : k.currentTask = idleTaskIdx := by
      rw [idleTaskIdx]
      unfold TaskId at *
      omega
    rw [currentTask_readied, hIdle]
    exact h.afterReadied.idle_not_blocked
  · have hCurrent' : (dispatch (readied k)).currentTask = scheduleSelect (readied k) := rfl
    rw [hCurrent', userTasks_dispatch, if_pos rfl]
    simp

theorem blocked_of_schedule {k : Kernel} {t : TaskId}
    (hState : ((osScheduleNextTask k).userTasks t).currentState = .blocked) :
    (k.userTasks t).currentState = .blocked := by
  have hReadied : ((readied k).userTasks t).currentState = .blocked := by
    rw [osScheduleNextTask_eq] at hState
    split at hState
    · exact hState
    · rw [userTasks_dispatch] at hState
      split at hState
      · cases hState
      · exact hState
  rw [userTasks_readied] at hReadied
  split at hReadied
  · cases hReadied
  · exact hReadied

theorem blocked_schedule {k : Kernel} {t : TaskId} (hCurrent : k.currentTask < k.taskCount)
    (hUser : t ≠ idleTaskIdx) (hBlocked : (k.userTasks t).currentState = .blocked) :
    ((osScheduleNextTask k).userTasks t).currentState = .blocked := by
  have hReadied : ((readied k).userTasks t).currentState = .blocked := by
    rw [userTasks_readied, if_neg]
    · exact hBlocked
    · rintro ⟨_, hRunning⟩
      exact absurd (hRunning.symm.trans hBlocked) (by simp)
  rw [osScheduleNextTask_eq]
  split
  · exact hReadied
  · rw [userTasks_dispatch, if_neg]
    · exact hReadied
    · rintro rfl
      obtain hIdle | hReady := (scheduleSelect_spec (k := readied k) (by simpa using hCurrent)).2
      · exact hUser hIdle
      · exact absurd (hReady.symm.trans hReadied) (by simp)

end KoRTOS
