import KoRTOS.Kernel.Types

/-!
# The initial stack frame of the Cortex-M4 port

`port_init_task_stack_frame` of `port.c`. Memory maps the address of a word to
its content; pointer arithmetic on `uint32_t *` moves by 4 bytes modulo 2^32.
-/

namespace KoRTOS.Port

def dummyStackXpsr : U32 := 0x01000000#32
def excReturnThreadPsp : U32 := 0xFFFFFFFD#32

def store (memory : U32 → U32) (address value : U32) : U32 → U32 :=
  Function.update memory address value

/-- `for (...) *(sp--) = 0;` run `n` times: memory and `sp` after the loop. -/
def zeroRegisters : Nat → (U32 → U32) → U32 → (U32 → U32) × U32
  | 0, memory, sp => (memory, sp)
  | n + 1, memory, sp => zeroRegisters n (store memory sp 0) (sp - 4)

def portInitTaskStackFrame (memory : U32 → U32) (taskHandler taskStackBase taskStackSize : U32) :
    (U32 → U32) × U32 :=
  let sp := taskStackBase + 4 * (taskStackSize / 4)
  let sp := sp - 4
  let memory := store memory sp dummyStackXpsr
  let sp := sp - 4
  let memory := store memory sp taskHandler
  let sp := sp - 4
  let memory := store memory sp excReturnThreadPsp
  zeroRegisters 13 memory sp

def words (a : U32) (n : Nat) : List U32 := (List.range n).map fun i => a + BitVec.ofNat 32 (4 * i)

section Written

variable {memory : U32 → U32} {sp a : U32} {n : Nat}

theorem zeroRegisters_sp : (zeroRegisters n memory sp).2 = sp - BitVec.ofNat 32 (4 * n) := by
  induction n generalizing memory sp with
  | zero => exact (BitVec.sub_zero sp).symm
  | succ n ih =>
    rw [zeroRegisters, ih]
    bv_omega

theorem zeroRegisters_of_ne (h : ∀ i < n, a ≠ sp - BitVec.ofNat 32 (4 * i)) :
    (zeroRegisters n memory sp).1 a = memory a := by
  induction n generalizing memory sp with
  | zero => rfl
  | succ n ih =>
    have hFirst : a ≠ sp := by simpa using h 0 (Nat.succ_pos n)
    rw [zeroRegisters, ih, store, Function.update_of_ne hFirst]
    intro i hi hEq
    refine h (i + 1) (Nat.succ_lt_succ hi) ?_
    rw [hEq]
    bv_omega

theorem zeroRegisters_of_zero (h : memory a = 0) : (zeroRegisters n memory sp).1 a = 0 := by
  induction n generalizing memory sp with
  | zero => exact h
  | succ n ih =>
    apply ih
    rw [store, Function.update_apply]
    split
    · rfl
    · exact h

theorem zeroRegisters_of_lt {i : Nat} (h : i < n) :
    (zeroRegisters n memory sp).1 (sp - BitVec.ofNat 32 (4 * i)) = 0 := by
  induction n generalizing memory sp i with
  | zero => exact absurd h (Nat.not_lt_zero i)
  | succ n ih =>
    rw [zeroRegisters]
    cases i with
    | zero =>
      apply zeroRegisters_of_zero
      rw [Nat.mul_zero, BitVec.sub_zero, store, Function.update_self]
    | succ i =>
      have hNext : sp - BitVec.ofNat 32 (4 * (i + 1)) = sp - 4 - BitVec.ofNat 32 (4 * i) := by
        bv_omega
      rw [hNext]
      exact ih (Nat.lt_of_succ_lt_succ h)

variable {taskHandler taskStackBase taskStackSize : U32}

theorem portInit_sp :
    (portInitTaskStackFrame memory taskHandler taskStackBase taskStackSize).2 =
      taskStackBase + 4 * (taskStackSize / 4) - 64 := by
  rw [portInitTaskStackFrame, zeroRegisters_sp]
  bv_omega

theorem portInit_eq : (portInitTaskStackFrame memory taskHandler taskStackBase taskStackSize).1 =
    let top := taskStackBase + 4 * (taskStackSize / 4)
    (zeroRegisters 13 (store (store (store memory (top - 4) dummyStackXpsr) (top - 8) taskHandler)
      (top - 12) excReturnThreadPsp) (top - 12)).1 := by
  rw [portInitTaskStackFrame]
  generalize taskStackBase + 4 * (taskStackSize / 4) = top
  have hPc : top - 4 - 4 = top - 8 := by bv_omega
  have hLr : top - 8 - 4 = top - 12 := by bv_omega
  rw [hPc, hLr]

theorem portInit_of_notMem
    (h : a ∉ words (taskStackBase + 4 * (taskStackSize / 4) - 64) 16) :
    (portInitTaskStackFrame memory taskHandler taskStackBase taskStackSize).1 a = memory a := by
  generalize hTop : taskStackBase + 4 * (taskStackSize / 4) = top at h
  have hNe : ∀ i < 16, a ≠ top - 64 + BitVec.ofNat 32 (4 * i) := fun i hi hEq =>
    h (List.mem_map.mpr ⟨i, List.mem_range.mpr hi, hEq.symm⟩)
  have hXpsr : a ≠ top - 4 := by
    have h15 := hNe 15 (by decide)
    bv_omega
  have hPc : a ≠ top - 8 := by
    have h14 := hNe 14 (by decide)
    bv_omega
  have hLr : a ≠ top - 12 := by
    have h13 := hNe 13 (by decide)
    bv_omega
  rw [portInit_eq, hTop, zeroRegisters_of_ne, store, Function.update_of_ne hLr, store,
    Function.update_of_ne hPc, store, Function.update_of_ne hXpsr]
  intro i hi hEq
  refine hNe (13 - i) (by omega) ?_
  rw [hEq]
  bv_omega

/-- The words of the frame, counted from the returned pointer upwards: R4 to R11, R0 to R3,
R12, LR, PC and xPSR. -/
def frameWord (memory : U32 → U32) (taskHandler taskStackBase taskStackSize : U32) (i : Nat) :
    U32 :=
  (portInitTaskStackFrame memory taskHandler taskStackBase taskStackSize).1
    (taskStackBase + 4 * (taskStackSize / 4) - 64 + BitVec.ofNat 32 (4 * i))

theorem frameWord_zero : frameWord memory taskHandler taskStackBase taskStackSize 0 =
    memory (taskStackBase + 4 * (taskStackSize / 4) - 64) := by
  rw [frameWord, portInit_eq]
  generalize taskStackBase + 4 * (taskStackSize / 4) = top
  have hXpsr : top - 64 ≠ top - 4 := by bv_omega
  have hPc : top - 64 ≠ top - 8 := by bv_omega
  have hLr : top - 64 ≠ top - 12 := by bv_omega
  rw [Nat.mul_zero, BitVec.add_zero, zeroRegisters_of_ne, store, Function.update_of_ne hLr, store,
    Function.update_of_ne hPc, store, Function.update_of_ne hXpsr]
  intro i hi
  bv_omega

theorem frameWord_mid {i : Nat} (hFrom : 1 ≤ i) (hTo : i ≤ 13) :
    frameWord memory taskHandler taskStackBase taskStackSize i = 0 := by
  rw [frameWord, portInit_eq]
  generalize taskStackBase + 4 * (taskStackSize / 4) = top
  have hRound : top - 64 + BitVec.ofNat 32 (4 * i) = top - 12 - BitVec.ofNat 32 (4 * (13 - i)) := by
    bv_omega
  rw [hRound]
  apply zeroRegisters_of_lt
  omega

theorem frameWord_pc :
    frameWord memory taskHandler taskStackBase taskStackSize 14 = taskHandler := by
  rw [frameWord, portInit_eq]
  generalize taskStackBase + 4 * (taskStackSize / 4) = top
  have hSlot : top - 64 + BitVec.ofNat 32 (4 * 14) = top - 8 := by bv_omega
  have hLr : top - 8 ≠ top - 12 := by bv_omega
  rw [hSlot, zeroRegisters_of_ne, store, Function.update_of_ne hLr, store, Function.update_self]
  intro i hi
  bv_omega

theorem frameWord_xpsr :
    frameWord memory taskHandler taskStackBase taskStackSize 15 = dummyStackXpsr := by
  rw [frameWord, portInit_eq]
  generalize taskStackBase + 4 * (taskStackSize / 4) = top
  have hSlot : top - 64 + BitVec.ofNat 32 (4 * 15) = top - 4 := by bv_omega
  have hLr : top - 4 ≠ top - 12 := by bv_omega
  have hPc : top - 4 ≠ top - 8 := by bv_omega
  rw [hSlot, zeroRegisters_of_ne, store, Function.update_of_ne hLr, store,
    Function.update_of_ne hPc, store, Function.update_self]
  intro i hi
  bv_omega

end Written

end KoRTOS.Port
