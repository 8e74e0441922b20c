import KoRTOS.Evaluation
import KoRTOS.Port.ContextSwitch

/-!
# The stack of a new task

What the first dispatch of a task restores from the frame that
`port_init_task_stack_frame` built, and which words of memory `os_task_create`
writes. The loop that zeroes the registers starts at the word of LR and ends one
word above R4; the size of the stack is used but never checked.
-/

namespace KoRTOS

open Port

namespace Port.Machine

def started (m : Machine) (taskHandler taskStackBase taskStackSize : U32) : Machine :=
  let (memory, sp) := portInitTaskStackFrame m.memory taskHandler taskStackBase taskStackSize
  { m with kernel := { m.kernel with memory := memory } }.restore sp

end Port.Machine

/-- The context the frame is meant for, with nothing written outside of the top 16 words. -/
structure IntendedContext (m : Machine) (taskHandler taskStackBase taskStackSize : U32) :
    Prop where
  pc : (m.started taskHandler taskStackBase taskStackSize).cpu.pc = taskHandler
  xpsr : (m.started taskHandler taskStackBase taskStackSize).cpu.xpsr = dummyStackXpsr
  lr : (m.started taskHandler taskStackBase taskStackSize).cpu.lr = excReturnThreadPsp
  registers : ∀ i, (m.started taskHandler taskStackBase taskStackSize).cpu.r i = 0
  psp : (m.started taskHandler taskStackBase taskStackSize).cpu.psp =
    taskStackBase + 4 * (taskStackSize / 4)
  untouched : ∀ a ∉ words (taskStackBase + 4 * (taskStackSize / 4) - 64) 16,
    (m.started taskHandler taskStackBase taskStackSize).memory a = m.memory a

section Started

variable {m : Machine} {taskHandler taskStackBase taskStackSize : U32}

theorem started_cpu : (m.started taskHandler taskStackBase taskStackSize).cpu =
    { r := fun i =>
        if i = 4 then m.memory (taskStackBase + 4 * (taskStackSize / 4) - 64) else 0
      lr := 0
      pc := taskHandler
      xpsr := dummyStackXpsr
      psp := taskStackBase + 4 * (taskStackSize / 4) } := by
  have hFrame : (m.started taskHandler taskStackBase taskStackSize).cpu =
      Cpu.ofFrame (frameWord m.memory taskHandler taskStackBase taskStackSize)
        (taskStackBase + 4 * (taskStackSize / 4)) := by
    rw [Machine.started, restore_cpu, portInit_sp, BitVec.sub_add_cancel]
    rfl
  have hZero : ∀ i, 1 ≤ i → i ≤ 13 →
      frameWord m.memory taskHandler taskStackBase taskStackSize i = 0 := fun _ => frameWord_mid
  rw [hFrame, Cpu.ofFrame, frameWord_pc, frameWord_xpsr]
  refine Cpu.ext (funext fun i => ?_) (hZero 13 (by omega) (by omega)) rfl rfl rfl
  by_cases hR4 : i = 4
  · have hIndex : i.val - 4 = 0 := by
      rw [hR4]
      rfl
    dsimp only
    rw [if_pos hR4, if_neg (by omega), if_neg (by omega), hIndex]
    exact frameWord_zero
  · have hNe : i.val ≠ 4 := fun h => hR4 (Fin.ext h)
    dsimp only
    rw [if_neg hR4, hZero 12 (by omega) (by omega)]
    split
    · exact hZero _ (by omega) (by omega)
    · split
      · rfl
      · exact hZero _ (by omega) (by omega)

/-- The frame of no task restores to the context it is meant for. -/
theorem not_intendedContext : ¬ IntendedContext m taskHandler taskStackBase taskStackSize := by
  intro h
  have hLr := h.lr
  rw [started_cpu] at hLr
  have hNe : (0 : U32) ≠ excReturnThreadPsp := by decide
  exact hNe hLr

end Started

def emptyMachine : Machine where
  kernel := zeroKernel sampleImage
  cpu := ⟨fun _ => 0, 0, 0, 0, 0⟩
  msp := 0x20002000#32

theorem intendedContext_fails : ¬ ∀ (m : Machine) (taskHandler taskStackBase taskStackSize : U32),
    64 ≤ taskStackSize.toNat → IntendedContext m taskHandler taskStackBase taskStackSize := by
  intro h
  have hLr := (h emptyMachine 0x08000201#32 0x20001000#32 256#32 (by decide)).lr
  rw [started_cpu] at hLr
  have hNe : (0 : U32) ≠ excReturnThreadPsp := by decide
  exact hNe hLr

/-- The arguments of a call of `os_task_create`. -/
structure TaskArgs where
  taskHandler : U32
  priority : Nat
  taskStackBase : Option U32
  taskStackSize : U32

namespace TaskArgs

def create (c : TaskArgs) (k : Kernel) : Kernel × OsErr :=
  osTaskCreate k c.taskHandler c.priority c.taskStackBase c.taskStackSize

/-- The call writes the word at `a`: some content of it is lost. -/
def Writes (c : TaskArgs) (k : Kernel) (a : U32) : Prop :=
  ∃ memory, (c.create { k with memory := memory }).1.memory a ≠ memory a

/-- The three checks of the call. -/
def Accepted (c : TaskArgs) (k : Kernel) : Prop :=
  k.taskCount < osMaxTasks ∧ c.priority ≤ osPriorityLowest ∧ c.taskStackBase ≠ none

/-- The frame fits into the stack, and the stack into the address space. -/
def Fits (c : TaskArgs) : Prop :=
  ∀ base ∈ c.taskStackBase, 64 ≤ c.taskStackSize.toNat ∧
    base.toNat + 4 * (c.taskStackSize.toNat / 4) ≤ 2 ^ 32

end TaskArgs

def InStack (base size a : U32) : Prop :=
  base.toNat ≤ a.toNat ∧ a.toNat < base.toNat + size.toNat

/-- The call, made in `k`, stays inside the stack it was given, or changes nothing. -/
structure Contained (k : Kernel) (c : TaskArgs) : Prop where
  words : (c.create k).2 = .ok → ∀ base ∈ c.taskStackBase, ∀ a, c.Writes k a →
    ∀ j < 4, InStack base c.taskStackSize (a + BitVec.ofNat 32 j)
  stackPointer : (c.create k).2 = .ok → ∀ base ∈ c.taskStackBase,
    InStack base c.taskStackSize ((c.create k).1.userTasks k.taskCount).stackPointer
  refused : (c.create k).2 ≠ .ok → (c.create k).1 = k

section Create

variable {k : Kernel} {c : TaskArgs} {base : U32}

theorem create_of_accepted (h : c.Accepted k) (hBase : c.taskStackBase = some base) :
    (c.create k).2 = .ok ∧
      (c.create k).1.memory =
        (portInitTaskStackFrame k.memory c.taskHandler base c.taskStackSize).1 ∧
      ((c.create k).1.userTasks k.taskCount).stackPointer =
        base + 4 * (c.taskStackSize / 4) - 64 := by
  obtain ⟨hCount, hPriority, -⟩ := h
  have hRange : ¬ (c.priority < osPriorityHighest ∨ osPriorityLowest < c.priority) := by
    rintro (hLow | hHigh)
    · exact Nat.not_lt_zero _ hLow
    · omega
  rw [TaskArgs.create]
  unfold osTaskCreate
  rw [if_neg (by omega), if_neg hRange, hBase]
  refine ⟨rfl, rfl, ?_⟩
  change (Function.update k.userTasks k.taskCount (_ : Tcb) k.taskCount).stackPointer = _
  have hSp : (portInitTaskStackFrame k.memory c.taskHandler base c.taskStackSize).2 =
      base + 4 * (c.taskStackSize / 4) - 64 := portInit_sp
  rw [Function.update_self]
  exact hSp

theorem create_of_refused (h : ¬ c.Accepted k) :
    (c.create k).1 = k ∧ (c.create k).2 ≠ .ok := by
  rw [TaskArgs.create]
  unfold osTaskCreate
  split
  · exact ⟨rfl, OsErr.noConfusion⟩
  · split
    · exact ⟨rfl, OsErr.noConfusion⟩
    · next hCount hRange =>
      split
      · exact ⟨rfl, OsErr.noConfusion⟩
      · next hBase =>
        refine absurd ⟨by omega, by omega, ?_⟩ h
        rw [hBase]
        exact Option.some_ne_none _

theorem accepted_iff : c.Accepted k ↔ (c.create k).2 = .ok := by
  constructor
  · intro h
    obtain ⟨base, hBase⟩ := Option.ne_none_iff_exists'.mp h.2.2
    exact (create_of_accepted h hBase).1
  · intro h
    by_contra hRefused
    exact (create_of_refused hRefused).2 h

theorem frameWord_written (taskHandler base taskStackSize : U32) {i : Nat} (hFrom : 1 ≤ i)
    (hTo : i ≤ 15) :
    ∃ value, ∀ memory, frameWord memory taskHandler base taskStackSize i = value := by
  have hCases : i ≤ 13 ∨ i = 14 ∨ i = 15 := by omega
  obtain hMid | rfl | rfl := hCases
  · exact ⟨0, fun _ => frameWord_mid hFrom hMid⟩
  · exact ⟨taskHandler, fun _ => frameWord_pc⟩
  · exact ⟨dummyStackXpsr, fun _ => frameWord_xpsr⟩

/-- The call writes the words of the frame but the lowest, and no others. -/
theorem writes_iff (h : c.Accepted k) (hBase : c.taskStackBase = some base) {a : U32} :
    c.Writes k a ↔ ∃ i, 1 ≤ i ∧ i ≤ 15 ∧
      a = base + 4 * (c.taskStackSize / 4) - 64 + BitVec.ofNat 32 (4 * i) := by
  have hMemory : ∀ memory : U32 → U32, (c.create { k with memory := memory }).1.memory =
      (portInitTaskStackFrame memory c.taskHandler base c.taskStackSize).1 := fun memory =>
    (create_of_accepted (k := { k with memory := memory }) h hBase).2.1
  constructor
  · rintro ⟨memory, hNe⟩
    rw [hMemory] at hNe
    by_contra hNone
    apply hNe
    apply portInit_of_notMem
    intro hMem
    obtain ⟨i, hi, hAt⟩ := List.mem_map.mp hMem
    rw [List.mem_range] at hi
    obtain rfl | hPos := Nat.eq_zero_or_pos i
    · apply hNe
      rw [← hAt]
      exact frameWord_zero.trans (congrArg memory (BitVec.add_zero _).symm)
    · exact hNone ⟨i, hPos, by omega, hAt.symm⟩
  · rintro ⟨i, hFrom, hTo, rfl⟩
    obtain ⟨value, hValue⟩ := frameWord_written c.taskHandler base c.taskStackSize hFrom hTo
    refine ⟨fun _ => value + 1, ?_⟩
    rw [hMemory]
    intro hEq
    have hSame : value = value + 1 := (hValue fun _ => value + 1).symm.trans hEq
    bv_omega

theorem toNat_whole_words (size : U32) : (4 * (size / 4)).toNat = 4 * (size.toNat / 4) := by
  have hDiv : (size / 4).toNat = size.toNat / 4 := BitVec.toNat_udiv
  have hLt := size.isLt
  have hFour : (4 : U32).toNat = 4 := rfl
  rw [BitVec.toNat_mul, hDiv, hFour]
  exact Nat.mod_eq_of_lt (by omega)

theorem inStack_word {size : U32} (hSize : 64 ≤ size.toNat)
    (hTop : base.toNat + 4 * (size.toNat / 4) ≤ 2 ^ 32) {i j : Nat} (hi : i < 16) (hj : j < 4) :
    InStack base size
      (base + 4 * (size / 4) - 64 + BitVec.ofNat 32 (4 * i) + BitVec.ofNat 32 j) := by
  have hWhole := toNat_whole_words size
  generalize 4 * (size / 4) = whole at hWhole ⊢
  have hAddress : (base + whole - 64 + BitVec.ofNat 32 (4 * i) + BitVec.ofNat 32 j).toNat =
      base.toNat + 4 * (size.toNat / 4) - 64 + 4 * i + j := by
    bv_omega
  rw [InStack, hAddress]
  omega

theorem contained_iff : Contained k c ↔ (c.Accepted k → c.Fits) := by
  constructor
  · rintro ⟨hWords, hSp, -⟩ hAccepted base hBase
    have hBase : c.taskStackBase = some base := hBase
    obtain ⟨hOk, -, hAt⟩ := create_of_accepted hAccepted hBase
    obtain ⟨hSpLow, hSpHigh⟩ := hSp hOk base hBase
    have hTop := hWords hOk base hBase _ ((writes_iff hAccepted hBase).mpr
      ⟨15, by omega, by omega, rfl⟩)
    obtain ⟨hFirst, -⟩ := hTop 0 (by omega)
    obtain ⟨hLast, -⟩ := hTop 3 (by omega)
    rw [hAt] at hSpLow hSpHigh
    have hWhole := toNat_whole_words c.taskStackSize
    generalize c.taskStackSize = size at hSpLow hSpHigh hFirst hLast hWhole ⊢
    have hLt := size.isLt
    generalize 4 * (size / 4) = whole at hSpLow hSpHigh hFirst hLast hWhole
    constructor <;> bv_omega
  · intro hFits
    refine ⟨fun hOk base hBase a hWrites => ?_, fun hOk base hBase => ?_, fun hRefused => ?_⟩
    · have hAccepted := accepted_iff.mpr hOk
      obtain ⟨hSize, hTop⟩ := hFits hAccepted base hBase
      obtain ⟨i, -, hi, rfl⟩ := (writes_iff hAccepted hBase).mp hWrites
      intro j hj
      exact inStack_word hSize hTop (by omega) hj
    · have hAccepted := accepted_iff.mpr hOk
      obtain ⟨hSize, hTop⟩ := hFits hAccepted base hBase
      rw [(create_of_accepted hAccepted hBase).2.2]
      simpa using inStack_word hSize hTop (i := 0) (j := 0) (by omega) (by omega)
    · apply (create_of_refused fun hAccepted => hRefused ?_).1
      exact accepted_iff.mp hAccepted

end Create

def createTasks (k : Kernel) (calls : List TaskArgs) : Kernel :=
  calls.foldl (fun k c => (c.create k).1) k

/-- All calls of a sequence stay inside their stacks just if each accepted one has room for
its frame. -/
theorem createTasks_contained_iff (k : Kernel) (calls : List TaskArgs) :
    (∀ before c after, calls = before ++ c :: after → Contained (createTasks k before) c) ↔
      ∀ before c after, calls = before ++ c :: after → c.Accepted (createTasks k before) →
        c.Fits := by
  constructor
  · intro h before c after hCalls
    exact contained_iff.mp (h before c after hCalls)
  · intro h before c after hCalls
    exact contained_iff.mpr (h before c after hCalls)

def smallStack : TaskArgs where
  taskHandler := 0x08000201#32
  priority := 5
  taskStackBase := some 0x20001000#32
  taskStackSize := 32#32

theorem createTasks_escapes : ¬ ∀ (k : Kernel) (calls before after : List TaskArgs) (c : TaskArgs),
    (∀ c ∈ calls, ∀ base ∈ c.taskStackBase, base ≠ 0) → calls = before ++ c :: after →
      Contained (createTasks k before) c := by
  intro h
  have hContained := h (zeroKernel sampleImage) [smallStack] [] [] smallStack
    (by simp [smallStack]) rfl
  have hAccepted : smallStack.Accepted (zeroKernel sampleImage) :=
    ⟨by decide, by decide, Option.some_ne_none _⟩
  have hRoom : 64 ≤ smallStack.taskStackSize.toNat :=
    (contained_iff.mp hContained hAccepted 0x20001000#32 rfl).1
  exact absurd hRoom (by decide)

end KoRTOS
