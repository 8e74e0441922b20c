import KoRTOS.Evaluation
import KoRTOS.Invariant.Scheduling
import KoRTOS.Port.ContextSwitch

/-!
# Context switches are transparent

Tasks compute and write to their own stacks, kernel code and other handlers
change the kernel but neither the stack pointers nor the running task, tasks are
created on stacks of their own, and PendSV switches. Whoever is resumed finds
his registers as they were when he was suspended.
-/

namespace KoRTOS.Port

open BlockStore

/-- Which words belong to which stack. -/
structure StackLayout where
  task : TaskId → U32 → Bool
  main : U32 → Bool
  aligned : ∀ t a, task t a = true → a &&& 3 = 0
  disjoint : ∀ t u a, task t a = true → task u a = true → t = u
  main_disjoint : ∀ t a, task t a = true → main a = false

/-- The 16 words of a context from `sp` upwards belong to the stack of the task. -/
def StackLayout.holds (layout : StackLayout) (t : TaskId) (sp : U32) : Prop :=
  ∀ a ∈ words sp 16, layout.task t a = true

instance (layout : StackLayout) (t : TaskId) (sp : U32) : Decidable (layout.holds t sp) :=
  decidable_of_iff ((words sp 16).all (layout.task t) = true) List.all_eq_true

inductive MachineEvent where
  | compute (cpu : Cpu)
  | store (address value : U32)
  | kernelCode (k : Kernel)
  | create (taskHandler : U32) (priority : Nat) (taskStackBase : Option U32)
      (taskStackSize : U32)
  | pendSV (scratch : Fin 3 → Cpu)

/-- The kernel after code other than `PendSV_Handler` and `os_task_create`, which leads to `k`. -/
def afterKernelCode (old k : Kernel) : Kernel :=
  { k with
    currentTask := old.currentTask
    taskCount := old.taskCount
    memory := old.memory
    userTasks := fun t => { k.userTasks t with stackPointer := (old.userTasks t).stackPointer } }

/-- A task leaves room for its context on its stack, and writes nowhere else. -/
def machineStep (layout : StackLayout) (m : Machine) : MachineEvent → Option (Machine × Unit)
  | .compute cpu =>
    if layout.holds m.kernel.currentTask (cpu.psp - 64) then some ({ m with cpu := cpu }, ())
    else none
  | .store address value =>
    if layout.task m.kernel.currentTask address then
      some ({ m with kernel :=
        { m.kernel with memory := store m.memory address value } }, ())
    else none
  | .kernelCode k => some ({ m with kernel := afterKernelCode m.kernel k }, ())
  | .create taskHandler priority taskStackBase taskStackSize =>
    let (k, err) := osTaskCreate m.kernel taskHandler priority taskStackBase taskStackSize
    if err = .ok → layout.holds m.kernel.taskCount (k.userTasks m.kernel.taskCount).stackPointer then
      some ({ m with kernel := k }, ())
    else none
  | .pendSV scratch => some (m.pendSV scratch, ())

abbrev MachineLabel := Transition.Label Machine MachineEvent Unit

/-- The registers task `t` had when it was last suspended. -/
def suspendedAs (t : TaskId) (trace : List MachineLabel) : Option Cpu :=
  trace.reverse.findSome? fun l =>
    match l.event with
    | .pendSV _ => if l.pre.kernel.currentTask = t then some l.pre.cpu else none
    | _ => none

/-- The contexts of the tasks are on their stacks, or fit on them. -/
structure StackLayout.Fits (layout : StackLayout) (m : Machine) : Prop where
  current_lt : m.kernel.currentTask < m.kernel.taskCount
  room : layout.holds m.kernel.currentTask (m.cpu.psp - 64)
  main : layout.main (m.msp - 4) = true
  frames : ∀ t, t < m.kernel.taskCount → t ≠ m.kernel.currentTask →
    layout.holds t (m.kernel.userTasks t).stackPointer

/-- `stack_pointer` points to the saved registers, at the top of what the task used. -/
structure Suspended (layout : StackLayout) (k : Kernel) (t : TaskId) (cpu : Cpu) : Prop where
  own : layout.holds t (k.userTasks t).stackPointer
  top : (k.userTasks t).stackPointer + 64 = cpu.psp
  frame : loadBlock k.memory (words (k.userTasks t).stackPointer 16) = cpu.sf2 ++ cpu.sf1

section Words

variable {sp a : U32}

theorem words_append : words sp 16 = words sp 8 ++ words (sp + 32) 8 := by
  simp [words, List.range_succ, BitVec.add_assoc]

theorem words_nodup : (words sp 16).Nodup := by
  refine List.Nodup.map_on (fun i hi j hj hEq => ?_) List.nodup_range
  rw [List.mem_range] at hi hj
  bv_omega

end Words

section Saved

variable {layout : StackLayout} {m : Machine} {t : TaskId} {a : U32}

theorem saved_stackPointer : (m.saved.userTasks t).stackPointer =
    if t = m.kernel.currentTask then m.cpu.psp - 64 else (m.kernel.userTasks t).stackPointer := by
  have hSum : m.cpu.psp - 32 - 32 = m.cpu.psp - 64 := by bv_omega
  rw [Machine.saved, osSaveSpValue, Kernel.userTasks_modifyTask, hSum]
  split <;> rfl

theorem saved_memory : m.saved.memory = storeBlock (storeBlock
    (storeBlock m.memory (words (m.cpu.psp - 64 + 32) 8) m.cpu.sf1)
    (words (m.cpu.psp - 64) 8) m.cpu.sf2) (words (m.msp - 4) 1) [excReturnThreadPsp] := by
  have hLow : m.cpu.psp - 32 - 32 = m.cpu.psp - 64 := by bv_omega
  have hHigh : m.cpu.psp - 32 = m.cpu.psp - 64 + 32 := by bv_omega
  rw [← hHigh, ← hLow]
  rfl

theorem notMem_main (h : layout.Fits m) (ht : layout.task t a = true) :
    a ∉ words (m.msp - 4) 1 := by
  intro ha
  have hEq : a = m.msp - 4 := by simpa [words] using ha
  have hNot := layout.main_disjoint t a ht
  rw [hEq, h.main] at hNot
  cases hNot

theorem saved_memory_of_task (h : layout.Fits m) (ht : layout.task t a = true)
    (hOther : t ≠ m.kernel.currentTask) : m.saved.memory a = m.memory a := by
  have hOwn : a ∉ words (m.cpu.psp - 64) 16 := fun ha =>
    hOther (layout.disjoint t _ a ht (h.room a ha))
  rw [words_append, List.mem_append, not_or] at hOwn
  rw [saved_memory, storeBlock_of_notMem (notMem_main h ht), storeBlock_of_notMem hOwn.1,
    storeBlock_of_notMem hOwn.2]

theorem saved_frame (h : layout.Fits m) :
    loadBlock m.saved.memory (words (m.cpu.psp - 64) 16) = m.cpu.sf2 ++ m.cpu.sf1 := by
  have hMain : (words (m.cpu.psp - 64) 16).Disjoint (words (m.msp - 4) 1) := fun a ha =>
    notMem_main h (h.room a ha)
  have hNodup : (words (m.cpu.psp - 64) 16).Nodup := words_nodup
  rw [words_append, List.nodup_append'] at hNodup
  obtain ⟨hLow, hHigh, hApart⟩ := hNodup
  have hSf2 : m.cpu.sf2.length = (words (m.cpu.psp - 64) 8).length := rfl
  have hSf1 : m.cpu.sf1.length = (words (m.cpu.psp - 64 + 32) 8).length := rfl
  rw [saved_memory, loadBlock_storeBlock_of_disjoint hMain, words_append, loadBlock_append,
    loadBlock_storeBlock hLow hSf2, loadBlock_storeBlock_of_disjoint hApart.symm,
    loadBlock_storeBlock hHigh hSf1]

end Saved

section Switching

variable {layout : StackLayout} {m m' : Machine} {e : MachineEvent} {t : TaskId} {cpu : Cpu}
  {trace : List MachineLabel} {l : MachineLabel}

theorem suspendedAs_snoc : suspendedAs t (trace ++ [l]) =
    match l.event with
    | .pendSV _ =>
      if l.pre.kernel.currentTask = t then some l.pre.cpu else suspendedAs t trace
    | _ => suspendedAs t trace := by
  unfold suspendedAs
  rw [List.reverse_append, List.reverse_singleton, List.singleton_append, List.findSome?_cons]
  cases l.event with
  | pendSV =>
    dsimp only
    split
    · rename_i hSome
      split at hSome <;> simp_all
    · rename_i hNone
      split at hNone <;> simp_all
  | _ => rfl

/-- Every task is running, suspended with the registers it had, or has not run yet. -/
structure Switching (layout : StackLayout) (trace : List MachineLabel) (m : Machine) : Prop
    extends layout.Fits m where
  past : ∀ t cpu, suspendedAs t trace = some cpu → t < m.kernel.taskCount
  saved : ∀ t cpu, suspendedAs t trace = some cpu → t ≠ m.kernel.currentTask →
    Suspended layout m.kernel t cpu

theorem Switching.quietly (h : Switching layout trace m) (hFits : layout.Fits m')
    (hSuspended : ∀ t, suspendedAs t (trace ++ [l]) = suspendedAs t trace)
    (hCurrent : m'.kernel.currentTask = m.kernel.currentTask)
    (hCount : m.kernel.taskCount ≤ m'.kernel.taskCount)
    (hPointer : ∀ t, t < m.kernel.taskCount → (m'.kernel.userTasks t).stackPointer =
      (m.kernel.userTasks t).stackPointer)
    (hMemory : ∀ t a, t < m.kernel.taskCount → t ≠ m.kernel.currentTask →
      layout.task t a = true → m'.memory a = m.memory a) :
    Switching layout (trace ++ [l]) m' := by
  refine ⟨hFits, fun t cpu ht => ?_, fun t cpu ht hOther => ?_⟩
  · rw [hSuspended] at ht
    exact (h.past t cpu ht).trans_le hCount
  · rw [hSuspended] at ht
    rw [hCurrent] at hOther
    have hLt := h.past t cpu ht
    obtain ⟨hOwn, hTop, hFrame⟩ := h.saved t cpu ht hOther
    refine ⟨?_, ?_, ?_⟩
    · rw [hPointer t hLt]
      exact hOwn
    · rw [hPointer t hLt]
      exact hTop
    · rw [hPointer t hLt, ← hFrame]
      exact loadBlock_congr fun a ha => hMemory t a hLt hOther (hOwn a ha)

/-- Before the next task is chosen, the context of every task is on its stack. -/
theorem Switching.frame_saved (h : Switching layout trace m) (ht : t < m.kernel.taskCount) :
    layout.holds t (m.saved.userTasks t).stackPointer := by
  rw [saved_stackPointer]
  split
  · rename_i hEq
    rw [hEq]
    exact h.room
  · rename_i hOther
    exact h.frames t ht hOther

theorem Switching.suspended_saved (h : Switching layout trace m)
    (ht : (if m.kernel.currentTask = t then some m.cpu else suspendedAs t trace) = some cpu) :
    t < m.kernel.taskCount ∧ Suspended layout m.saved t cpu := by
  split at ht
  · rename_i hEq
    cases ht
    subst hEq
    have hPointer : (m.saved.userTasks m.kernel.currentTask).stackPointer = m.cpu.psp - 64 := by
      rw [saved_stackPointer, if_pos rfl]
    refine ⟨h.current_lt, h.frame_saved h.current_lt, ?_, ?_⟩
    · rw [hPointer]
      exact BitVec.sub_add_cancel _ _
    · rw [hPointer]
      exact saved_frame h.toFits
  · rename_i hOther
    obtain ⟨hOwn, hTop, hFrame⟩ := h.saved t cpu ht (Ne.symm hOther)
    have hPointer : (m.saved.userTasks t).stackPointer = (m.kernel.userTasks t).stackPointer := by
      rw [saved_stackPointer, if_neg (Ne.symm hOther)]
    refine ⟨h.past t cpu ht, ?_, ?_, ?_⟩
    · rw [hPointer]
      exact hOwn
    · rw [hPointer]
      exact hTop
    · rw [hPointer, ← hFrame]
      exact loadBlock_congr fun a ha =>
        saved_memory_of_task h.toFits (hOwn a ha) (Ne.symm hOther)

theorem stackPointer_osScheduleNextTask (k : Kernel) (t : TaskId) :
    ((osScheduleNextTask k).userTasks t).stackPointer = (k.userTasks t).stackPointer := by
  obtain ⟨_, hTask⟩ := (sameButStates_osScheduleNextTask (k := k)).tasks t
  rw [hTask]

theorem Suspended.afterSchedule {k : Kernel} (h : Suspended layout k t cpu) :
    Suspended layout (osScheduleNextTask k) t cpu := by
  obtain ⟨hOwn, hTop, hFrame⟩ := h
  have hPointer := stackPointer_osScheduleNextTask k t
  refine ⟨?_, ?_, ?_⟩
  · rw [hPointer]
    exact hOwn
  · rw [hPointer]
    exact hTop
  · rw [hPointer, memory_osScheduleNextTask]
    exact hFrame

variable {scratch : Fin 3 → Cpu}

theorem current_afterPendSV (h : layout.Fits m) :
    (m.pendSV scratch).kernel.currentTask < m.kernel.taskCount := by
  have hLt : m.saved.currentTask < m.saved.taskCount := h.current_lt
  have hNext := currentTask_schedule_lt hLt
  rw [sameButStates_osScheduleNextTask.taskCount] at hNext
  rw [pendSV_kernel]
  exact hNext

theorem Switching.afterPendSV (h : Switching layout trace m) :
    Switching layout (trace ++ [⟨m, .pendSV scratch, (), m.pendSV scratch⟩])
      (m.pendSV scratch) := by
  have hLt : (m.pendSV scratch).kernel.currentTask < m.kernel.taskCount :=
    current_afterPendSV h.toFits
  have hCount : (m.pendSV scratch).kernel.taskCount = m.kernel.taskCount := by
    rw [pendSV_kernel]
    exact sameButStates_osScheduleNextTask.taskCount
  have hPointer : ∀ t, ((m.pendSV scratch).kernel.userTasks t).stackPointer =
      (m.saved.userTasks t).stackPointer := by
    intro t
    rw [pendSV_kernel]
    exact stackPointer_osScheduleNextTask _ t
  refine ⟨⟨hCount ▸ hLt, ?_, ?_, ?_⟩, ?_, ?_⟩
  · have hRoom := h.frame_saved hLt
    rw [← hPointer] at hRoom
    have hPsp : (m.pendSV scratch).cpu.psp - 64 =
        ((m.pendSV scratch).kernel.userTasks (m.pendSV scratch).kernel.currentTask).stackPointer := by
      rw [pendSV_psp, pendSV_kernel]
      exact BitVec.add_sub_cancel _ _
    rw [hPsp]
    exact hRoom
  · rw [pendSV_msp]
    exact h.main
  · intro t ht _
    rw [hPointer]
    exact h.frame_saved (hCount ▸ ht)
  · intro t cpu ht
    rw [suspendedAs_snoc] at ht
    rw [hCount]
    exact (h.suspended_saved ht).1
  · intro t cpu ht _
    rw [suspendedAs_snoc] at ht
    rw [pendSV_kernel]
    exact (h.suspended_saved ht).2.afterSchedule

/-- The task that is resumed has the registers it had when it was suspended. -/
theorem Switching.resumed (h : Switching layout trace m)
    (ht : suspendedAs (m.pendSV scratch).kernel.currentTask
      (trace ++ [⟨m, .pendSV scratch, (), m.pendSV scratch⟩]) = some cpu) :
    (m.pendSV scratch).cpu = cpu := by
  rw [suspendedAs_snoc] at ht
  obtain ⟨_, hOwn, hTop, hFrame⟩ := h.suspended_saved ht
  have hSp : osGetSpValue (osScheduleNextTask m.saved) =
      (m.saved.userTasks (m.pendSV scratch).kernel.currentTask).stackPointer := by
    rw [pendSV_kernel, ← stackPointer_osScheduleNextTask]
    rfl
  exact pendSV_cpu hSp hFrame hTop

theorem osTaskCreate_cases {k k' : Kernel} {taskHandler taskStackSize : U32} {priority : Nat}
    {taskStackBase : Option U32} {err : OsErr}
    (h : osTaskCreate k taskHandler priority taskStackBase taskStackSize = (k', err)) :
    (err ≠ .ok ∧ k' = k) ∨
    (err = .ok ∧ k'.currentTask = k.currentTask ∧ k'.taskCount = k.taskCount + 1 ∧
      (∀ t, t ≠ k.taskCount → k'.userTasks t = k.userTasks t) ∧
      ∀ a, a ∉ words (k'.userTasks k.taskCount).stackPointer 16 → k'.memory a = k.memory a) := by
  unfold osTaskCreate at h
  split at h
  · cases h
    exact .inl ⟨by decide, rfl⟩
  · split at h
    · cases h
      exact .inl ⟨by decide, rfl⟩
    · cases taskStackBase with
      | none =>
        cases h
        exact .inl ⟨by decide, rfl⟩
      | some base =>
        have hMemory : ∀ a, a ∉ words
            (portInitTaskStackFrame k.memory taskHandler base taskStackSize).2 16 →
            (portInitTaskStackFrame k.memory taskHandler base taskStackSize).1 a = k.memory a := by
          rw [portInit_sp]
          exact fun _ => portInit_of_notMem
        dsimp only at h
        generalize portInitTaskStackFrame k.memory taskHandler base taskStackSize = frame
          at h hMemory
        cases h
        refine .inr ⟨rfl, rfl, rfl, fun t ht => Function.update_of_ne ht _ _, fun a ha => ?_⟩
        refine hMemory a ?_
        rwa [Kernel.userTasks_modifyTask, if_pos rfl] at ha

theorem Switching.afterStep {u : Unit} (h : Switching layout trace m)
    (hStep : machineStep layout m e = some (m', u)) :
    Switching layout (trace ++ [⟨m, e, u, m'⟩]) m' := by
  cases e with
  | compute cpu =>
    simp only [machineStep] at hStep
    split at hStep
    · rename_i hRoom
      cases hStep
      exact h.quietly ⟨h.current_lt, hRoom, h.main, h.frames⟩ (fun _ => suspendedAs_snoc) rfl
        (Nat.le_refl _) (fun _ _ => rfl) fun _ _ _ _ _ => rfl
    · cases hStep
  | store address value =>
    simp only [machineStep] at hStep
    split at hStep
    · rename_i hOwn
      cases hStep
      refine h.quietly ⟨h.current_lt, h.room, h.main, h.frames⟩ (fun _ => suspendedAs_snoc) rfl
        (Nat.le_refl _) (fun _ _ => rfl) fun t a _ hOther ht => Function.update_of_ne ?_ _ _
      rintro rfl
      exact hOther (layout.disjoint t _ a ht hOwn)
    · cases hStep
  | kernelCode k =>
    cases hStep
    exact h.quietly ⟨h.current_lt, h.room, h.main, h.frames⟩ (fun _ => suspendedAs_snoc) rfl
      (Nat.le_refl _) (fun _ _ => rfl) fun _ _ _ _ _ => rfl
  | create taskHandler priority taskStackBase taskStackSize =>
    simp only [machineStep] at hStep
    split at hStep
    · rename_i hNew
      cases hStep
      generalize hCreate : osTaskCreate m.kernel taskHandler priority taskStackBase
        taskStackSize = result at hNew ⊢
      obtain ⟨k', err⟩ := result
      obtain ⟨_, rfl⟩ | ⟨hOk, hCurrent, hCount, hTasks, hMemory⟩ := osTaskCreate_cases hCreate
      · exact h.quietly ⟨h.current_lt, h.room, h.main, h.frames⟩ (fun _ => suspendedAs_snoc) rfl
          (Nat.le_refl _) (fun _ _ => rfl) fun _ _ _ _ _ => rfl
      · have hHolds := hNew hOk
        refine h.quietly ⟨?_, ?_, h.main, ?_⟩ (fun _ => suspendedAs_snoc) hCurrent ?_ ?_ ?_
        · dsimp only
          rw [hCurrent, hCount]
          exact Nat.lt_succ_of_lt h.current_lt
        · dsimp only
          rw [hCurrent]
          exact h.room
        · intro t ht hOther
          dsimp only at ht hOther ⊢
          rw [hCurrent] at hOther
          rw [hCount] at ht
          obtain hOld | rfl := Nat.lt_succ_iff_lt_or_eq.mp ht
          · rw [hTasks t (Nat.ne_of_lt hOld)]
            exact h.frames t hOld hOther
          · exact hHolds
        · dsimp only
          rw [hCount]
          exact Nat.le_succ _
        · intro t ht
          dsimp only
          rw [hTasks t (Nat.ne_of_lt ht)]
        · intro t a ht _ hOwn
          refine hMemory a fun hFrame => ?_
          exact Nat.ne_of_lt ht (layout.disjoint t _ a hOwn (hHolds a hFrame))
    · cases hStep
  | pendSV scratch =>
    cases hStep
    exact h.afterPendSV

theorem StackLayout.Fits.switching (h : layout.Fits m) : Switching layout [] m :=
  ⟨h, nofun, nofun⟩

theorem switching_of_run {start s : Machine} (hFits : layout.Fits start)
    (hRun : Transition.Run (machineStep layout) start trace s) : Switching layout trace s :=
  hRun.historyInvariant hFits.switching
    (fun _ _ hTaken (_ : True) hPre => hPre.afterStep hTaken) fun _ _ => trivial

end Switching

/-- A switch, seen from the tasks: who is resumed continues with the registers he had, and
nobody else's stack is written to. -/
structure SwitchTransparent (layout : StackLayout) (before : List MachineLabel)
    (l : MachineLabel) : Prop where
  resumed : ∀ cpu, suspendedAs l.post.kernel.currentTask (before ++ [l]) = some cpu →
    l.post.cpu = cpu
  untouched : ∀ t a, t ≠ l.pre.kernel.currentTask → layout.task t a = true →
    l.post.memory a = l.pre.memory a

/-- In every run, every switch is transparent, and the stack pointer of every suspended task
points to its registers on its own stack. -/
theorem context_switch_transparent {layout : StackLayout} {start s : Machine}
    {trace : List MachineLabel} (hFits : layout.Fits start)
    (hRun : Transition.Run (machineStep layout) start trace s) :
    (∀ before l after scratch, trace = before ++ l :: after → l.event = .pendSV scratch →
      SwitchTransparent layout before l) ∧
    ∀ t cpu, suspendedAs t trace = some cpu → t ≠ s.kernel.currentTask →
      Suspended layout s.kernel t cpu := by
  refine ⟨?_, (switching_of_run hFits hRun).saved⟩
  rintro before ⟨pre, e, ⟨⟩, post⟩ after scratch rfl rfl
  obtain ⟨hTaken, hBefore⟩ := hRun.prefix
  have hSwitching := switching_of_run hFits hBefore
  obtain rfl : pre.pendSV scratch = post := congrArg Prod.fst (Option.some.inj hTaken)
  refine ⟨fun cpu => hSwitching.resumed, fun t a hOther ht => ?_⟩
  have hMemory : (pre.pendSV scratch).memory = pre.saved.memory := by
    rw [Machine.memory, pendSV_kernel, memory_osScheduleNextTask]
  rw [hMemory]
  exact saved_memory_of_task hSwitching.toFits ht hOther

def sampleLayout : StackLayout where
  task t a := a.toNat / 1024 == 0x80004 + t && a &&& 3 == 0
  main a := a.toNat / 1024 == 0x80000
  aligned t a h := by
    simp only [Bool.and_eq_true, beq_iff_eq] at h
    exact h.2
  disjoint t u a ht hu := by
    simp only [Bool.and_eq_true, beq_iff_eq] at ht hu
    exact Nat.add_left_cancel (ht.1.symm.trans hu.1)
  main_disjoint t a ht := by
    simp only [Bool.and_eq_true, beq_iff_eq] at ht
    exact beq_eq_false_iff_ne.mpr (by omega)

def sampleMachine : Machine where
  kernel := { zeroKernel sampleImage with
    currentTask := 1
    taskCount := 2
    userTasks := fun t => { zeroTcb with stackPointer := 0x200013C0#32 + 1024 * BitVec.ofNat 32 t } }
  cpu := ⟨fun i => BitVec.ofNat 32 i, 0x08000301#32, 0x08000400#32, 0x01000000#32, 0x20001780#32⟩
  msp := 0x20000400#32

def sampleKernel (state : TaskState) : Kernel :=
  { zeroKernel sampleImage with
    userTasks := fun t => if t = 1 then { zeroTcb with currentState := state } else zeroTcb }

def sampleKernelCode (state : TaskState) : MachineEvent := .kernelCode (sampleKernel state)

theorem sampleMachine_fits : sampleLayout.Fits sampleMachine := by
  refine ⟨by decide, by decide +kernel, by decide +kernel, fun t ht hOther => ?_⟩
  have hTask : t = 0 := by
    change t < 2 at ht
    change t ≠ 1 at hOther
    exact Nat.lt_one_iff.mp (Nat.lt_of_le_of_ne (Nat.lt_succ_iff.mp ht) hOther)
  subst hTask
  decide +kernel

/-- Task 1 is switched out, the idle task computes, and task 1 is resumed. -/
theorem context_switch_transparent_resumed :
    ∃ trace s, Transition.Run (machineStep sampleLayout) sampleMachine trace s ∧
      s.kernel.currentTask = 1 ∧ (suspendedAs 1 trace).isSome = true ∧
      (∀ before l after scratch, trace = before ++ l :: after → l.event = .pendSV scratch →
        SwitchTransparent sampleLayout before l) ∧
      ∀ t cpu, suspendedAs t trace = some cpu → t ≠ s.kernel.currentTask →
        Suspended sampleLayout s.kernel t cpu := by
  have hRuns : (Transition.execute (machineStep sampleLayout) sampleMachine
      [sampleKernelCode .blocked, .pendSV fun _ => sampleMachine.cpu,
        .compute { sampleMachine.cpu with psp := 0x20001400#32, pc := 0 },
        sampleKernelCode .ready, .pendSV fun _ => sampleMachine.cpu]).any
      (fun result => result.2.kernel.currentTask == 1 && (suspendedAs 1 result.1).isSome) =
        true := by
    decide +kernel
  obtain ⟨⟨trace, s⟩, hExecute, hFinal⟩ := (Option.any_eq_true _ _).mp hRuns
  rw [Bool.and_eq_true, beq_iff_eq] at hFinal
  have hRun := Transition.run_of_execute hExecute
  exact ⟨trace, s, hRun, hFinal.1, hFinal.2, context_switch_transparent sampleMachine_fits hRun⟩

end KoRTOS.Port
