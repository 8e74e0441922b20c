import KoRTOS.Kernel.Scheduler
import KoRTOS.Library.BlockStore
import Mathlib.Tactic.IntervalCases

/-!
# The context switch of the Cortex-M4 port

`PendSV_Handler` of `port.c`, one instruction after the other, between the entry
and the return of the exception. The hardware saves SF1 (R0-R3, R12, LR, PC,
xPSR), the handler SF2 (R4-R11), both on the stack of the task. The functions
the handler calls keep R4-R11 and leave anything in the other registers.
-/

namespace KoRTOS.Port

open BlockStore

/-- R0 to R12, LR, PC, xPSR and PSP. -/
@[ext] structure Cpu where
  r : Fin 13 → U32
  lr : U32
  pc : U32
  xpsr : U32
  psp : U32

/-- The kernel with the memory of the stacks, the registers of the task, and MSP. -/
structure Machine where
  kernel : Kernel
  cpu : Cpu
  msp : U32

namespace Cpu

def sf1 (cpu : Cpu) : List U32 :=
  [cpu.r 0, cpu.r 1, cpu.r 2, cpu.r 3, cpu.r 12, cpu.lr, cpu.pc, cpu.xpsr]

def sf2 (cpu : Cpu) : List U32 :=
  [cpu.r 4, cpu.r 5, cpu.r 6, cpu.r 7, cpu.r 8, cpu.r 9, cpu.r 10, cpu.r 11]

def setR0 (cpu : Cpu) (value : U32) : Cpu := { cpu with r := Function.update cpu.r 0 value }

end Cpu

namespace Machine

def memory (m : Machine) : U32 → U32 := m.kernel.memory

def storeWords (m : Machine) (a : U32) (values : List U32) : Machine :=
  { m with kernel :=
    { m.kernel with memory := storeBlock m.memory (words a values.length) values } }

/-- The hardware takes the exception: SF1 goes to the stack in use. -/
def exceptionEntry (m : Machine) : Machine :=
  let m := { m with cpu := { m.cpu with psp := m.cpu.psp - 32 } }.storeWords (m.cpu.psp - 32) m.cpu.sf1
  { m with cpu := { m.cpu with lr := excReturnThreadPsp } }

/-- The hardware returns to the thread: SF1 comes from the stack PSP points to. -/
def exceptionReturn (m : Machine) : Machine :=
  let word := fun i => m.memory (m.cpu.psp + BitVec.ofNat 32 (4 * i))
  { m with cpu :=
    { r := fun i => if i.val < 4 then word i.val else if i.val = 12 then word 4 else m.cpu.r i
      lr := word 5
      pc := word 6
      xpsr := word 7
      psp := m.cpu.psp + 32 } }

def mrsR0Psp (m : Machine) : Machine := { m with cpu := m.cpu.setR0 m.cpu.psp }

/-- `STMDB R0!, {R4-R11}` -/
def stmdbR0 (m : Machine) : Machine :=
  let a := m.cpu.r 0 - 32
  let m := m.storeWords a m.cpu.sf2
  { m with cpu := m.cpu.setR0 a }

/-- `PUSH {LR}` -/
def pushLr (m : Machine) : Machine :=
  { m with msp := m.msp - 4 }.storeWords (m.msp - 4) [m.cpu.lr]

/-- `LDMIA R0!, {R4-R11}` -/
def ldmiaR0 (m : Machine) : Machine :=
  let a := m.cpu.r 0
  let cpu := { m.cpu with
    r := fun i =>
      if 4 ≤ i.val ∧ i.val < 12 then m.memory (a + BitVec.ofNat 32 (4 * (i.val - 4)))
      else m.cpu.r i }
  { m with cpu := cpu.setR0 (a + 32) }

def msrPspR0 (m : Machine) : Machine := { m with cpu := { m.cpu with psp := m.cpu.r 0 } }

/-- `POP {LR}` -/
def popLr (m : Machine) : Machine :=
  { m with cpu := { m.cpu with lr := m.memory m.msp }, msp := m.msp + 4 }

/-- `BX LR`: an `EXC_RETURN` in LR is not an address. -/
def bxLr (m : Machine) : Machine :=
  if m.cpu.lr = excReturnThreadPsp then m.exceptionReturn
  else { m with cpu := { m.cpu with pc := m.cpu.lr } }

/-- What a function leaves in the registers it need not keep; `scratch` is arbitrary. -/
def clobber (m : Machine) (scratch : Cpu) : Machine :=
  { m with cpu := { m.cpu with
      r := fun i => if i.val < 4 ∨ i.val = 12 then scratch.r i else m.cpu.r i
      lr := scratch.lr
      xpsr := scratch.xpsr } }

end Machine

def osSaveSpValue (k : Kernel) (currentPspVal : U32) : Kernel :=
  k.modifyTask k.currentTask fun tcb => { tcb with stackPointer := currentPspVal }

def osGetSpValue (k : Kernel) : U32 := k.current.stackPointer

namespace Machine

def blOsSaveSpValue (m : Machine) (scratch : Cpu) : Machine :=
  { m with kernel := osSaveSpValue m.kernel (m.cpu.r 0) }.clobber scratch

def blOsScheduleNextTask (m : Machine) (scratch : Cpu) : Machine :=
  { m with kernel := osScheduleNextTask m.kernel }.clobber scratch

def blOsGetSpValue (m : Machine) (scratch : Cpu) : Machine :=
  let m := m.clobber scratch
  { m with cpu := m.cpu.setR0 (osGetSpValue m.kernel) }

/-- The handler from the load of SF2 to the return, with `sp` in R0. -/
def restore (m : Machine) (sp : U32) : Machine :=
  { m with cpu := m.cpu.setR0 sp }.ldmiaR0.msrPspR0.exceptionReturn

/-- `PendSV_Handler`; `scratch` is what the called functions leave in the registers. -/
def pendSVHandler (m : Machine) (scratch : Fin 3 → Cpu) : Machine :=
  let m := m.mrsR0Psp
  let m := m.stmdbR0
  let m := m.pushLr
  let m := m.blOsSaveSpValue (scratch 0)
  let m := m.blOsScheduleNextTask (scratch 1)
  let m := m.blOsGetSpValue (scratch 2)
  let m := m.ldmiaR0
  let m := m.msrPspR0
  let m := m.popLr
  m.bxLr

/-- PendSV is taken: the pending bit is cleared, and the handler runs. -/
def pendSV (m : Machine) (scratch : Fin 3 → Cpu) : Machine :=
  let m := { m with kernel := { m.kernel with pendSV := false } }
  m.exceptionEntry.pendSVHandler scratch

/-- The kernel once the context of the running task is on its stack. -/
def saved (m : Machine) : Kernel :=
  let memory := storeBlock m.memory (words (m.cpu.psp - 32) 8) m.cpu.sf1
  let memory := storeBlock memory (words (m.cpu.psp - 32 - 32) 8) m.cpu.sf2
  let memory := storeBlock memory (words (m.msp - 4) 1) [excReturnThreadPsp]
  osSaveSpValue { m.kernel with pendSV := false, memory := memory } (m.cpu.psp - 32 - 32)

/-- PendSV is taken, and the handler has saved the context. -/
def suspend (m : Machine) : Machine :=
  { m with kernel := { m.kernel with pendSV := false } }.exceptionEntry.mrsR0Psp.stmdbR0.pushLr

def choose (m : Machine) (scratch : Fin 3 → Cpu) : Machine :=
  ((m.blOsSaveSpValue (scratch 0)).blOsScheduleNextTask (scratch 1)).blOsGetSpValue (scratch 2)

def resume (m : Machine) : Machine := m.ldmiaR0.msrPspR0.popLr

end Machine

theorem memory_osScheduleNextTask (k : Kernel) : (osScheduleNextTask k).memory = k.memory := by
  unfold osScheduleNextTask
  dsimp only
  split <;> split <;> rfl

section Effect

variable {m : Machine} {scratch : Fin 3 → Cpu}

def Machine.switched (m : Machine) (scratch : Fin 3 → Cpu) : Machine :=
  (m.suspend.choose scratch).resume

theorem pendSV_eq_bxLr : m.pendSV scratch = (m.switched scratch).bxLr := rfl

theorem suspend_msp : m.suspend.msp = m.msp - 4 := rfl

theorem suspend_saved : osSaveSpValue m.suspend.kernel (m.suspend.cpu.r 0) = m.saved := rfl

theorem choose_kernel : (m.choose scratch).kernel =
    osScheduleNextTask (osSaveSpValue m.kernel (m.cpu.r 0)) := rfl

theorem choose_r0 : (m.choose scratch).cpu.r 0 = osGetSpValue (m.choose scratch).kernel := rfl

theorem choose_msp : (m.choose scratch).msp = m.msp := rfl

theorem resume_kernel : m.resume.kernel = m.kernel := rfl

theorem resume_psp : m.resume.cpu.psp = m.cpu.r 0 + 32 := rfl

theorem resume_lr : m.resume.cpu.lr = m.memory m.msp := rfl

theorem resume_msp : m.resume.msp = m.msp + 4 := rfl

theorem resume_sf2 {i : Fin 13} (h : 4 ≤ i.val ∧ i.val < 12) :
    m.resume.cpu.r i = m.memory (m.cpu.r 0 + BitVec.ofNat 32 (4 * (i.val - 4))) := by
  have hNe : i ≠ 0 := by
    rintro rfl
    exact absurd h.1 (by decide)
  exact (Function.update_of_ne hNe _ _).trans (if_pos h)

theorem switched_kernel : (m.switched scratch).kernel = osScheduleNextTask m.saved := by
  rw [Machine.switched, resume_kernel, choose_kernel, suspend_saved]

theorem switched_msp : (m.switched scratch).msp = m.msp := by
  rw [Machine.switched, resume_msp, choose_msp, suspend_msp, BitVec.sub_add_cancel]

theorem chosen_r0 : (m.suspend.choose scratch).cpu.r 0 =
    osGetSpValue (osScheduleNextTask m.saved) := by
  rw [choose_r0, choose_kernel, suspend_saved]

theorem chosen_memory : (m.suspend.choose scratch).memory = m.saved.memory := by
  rw [Machine.memory, choose_kernel, suspend_saved, memory_osScheduleNextTask]

theorem switched_psp :
    (m.switched scratch).cpu.psp = osGetSpValue (osScheduleNextTask m.saved) + 32 := by
  rw [Machine.switched, resume_psp, chosen_r0]

theorem switched_lr : (m.switched scratch).cpu.lr = excReturnThreadPsp := by
  have hWords : words (m.msp - 4) 1 = [m.msp - 4] := by simp [words]
  rw [Machine.switched, resume_lr, chosen_memory, choose_msp, suspend_msp]
  change storeBlock _ (words (m.msp - 4) 1) [excReturnThreadPsp] (m.msp - 4) = excReturnThreadPsp
  rw [hWords]
  simp [storeBlock]

theorem pendSV_eq : m.pendSV scratch = (m.switched scratch).exceptionReturn := by
  rw [pendSV_eq_bxLr, Machine.bxLr, if_pos switched_lr]

theorem exceptionReturn_kernel : m.exceptionReturn.kernel = m.kernel := rfl

theorem exceptionReturn_msp : m.exceptionReturn.msp = m.msp := rfl

theorem pendSV_kernel : (m.pendSV scratch).kernel = osScheduleNextTask m.saved := by
  rw [pendSV_eq, exceptionReturn_kernel, switched_kernel]

theorem pendSV_msp : (m.pendSV scratch).msp = m.msp := by
  rw [pendSV_eq, exceptionReturn_msp, switched_msp]

theorem exceptionReturn_psp : m.exceptionReturn.cpu.psp = m.cpu.psp + 32 := rfl

theorem pendSV_psp :
    (m.pendSV scratch).cpu.psp = osGetSpValue (osScheduleNextTask m.saved) + 64 := by
  rw [pendSV_eq, exceptionReturn_psp, switched_psp]
  exact BitVec.add_assoc _ 32 32

theorem sf1_address (sp : U32) (i : Nat) :
    sp + 32 + BitVec.ofNat 32 (4 * i) = sp + BitVec.ofNat 32 (4 * (i + 8)) := by
  have hSum : (32 : U32) + BitVec.ofNat 32 (4 * i) = BitVec.ofNat 32 (32 + 4 * i) :=
    (BitVec.ofNat_add 32 (4 * i)).symm
  rw [BitVec.add_assoc, hSum, Nat.mul_add, Nat.add_comm]

/-- The registers after `restore`, by the 16 words at `sp`. -/
def Cpu.ofFrame (word : Nat → U32) (psp : U32) : Cpu where
  r i := if i.val < 4 then word (i + 8) else if i.val = 12 then word 12 else word (i - 4)
  lr := word 13
  pc := word 14
  xpsr := word 15
  psp := psp

theorem restore_cpu (sp : U32) : (m.restore sp).cpu =
    Cpu.ofFrame (fun i => m.memory (sp + BitVec.ofNat 32 (4 * i))) (sp + 64) := by
  have hPsp : sp + 32 + 32 = sp + 64 := BitVec.add_assoc sp 32 32
  refine Cpu.ext (funext fun i => ?_) ?_ ?_ ?_ hPsp
  · change (if i.val < 4 then m.memory (sp + 32 + BitVec.ofNat 32 (4 * i)) else
        if i.val = 12 then m.memory (sp + 32 + BitVec.ofNat 32 (4 * 4)) else
          { m with cpu := m.cpu.setR0 sp }.resume.cpu.r i) =
      (if i.val < 4 then m.memory (sp + BitVec.ofNat 32 (4 * (i + 8))) else
        if i.val = 12 then m.memory (sp + BitVec.ofNat 32 (4 * 12)) else
          m.memory (sp + BitVec.ofNat 32 (4 * (i - 4))))
    rw [sf1_address, sf1_address]
    split
    · rfl
    · split
      · rfl
      · have hMid : 4 ≤ i.val ∧ i.val < 12 := by omega
        exact resume_sf2 hMid
  · exact congrArg m.memory (sf1_address sp 5)
  · exact congrArg m.memory (sf1_address sp 6)
  · exact congrArg m.memory (sf1_address sp 7)

theorem pendSV_restore : (m.pendSV scratch).cpu =
    ((m.suspend.choose scratch).restore (osGetSpValue (osScheduleNextTask m.saved))).cpu := by
  have hR0 : (m.suspend.choose scratch).cpu.setR0 (osGetSpValue (osScheduleNextTask m.saved)) =
      (m.suspend.choose scratch).cpu := by
    rw [Cpu.setR0, ← chosen_r0, Function.update_eq_self]
  rw [pendSV_eq, Machine.restore, hR0]
  rfl

theorem Cpu.ofFrame_eq {cpu : Cpu} {word : Nat → U32}
    (h : (List.range 16).map word = cpu.sf2 ++ cpu.sf1) : Cpu.ofFrame word cpu.psp = cpu := by
  have hWord : ∀ i : Fin 16, word i.val = (cpu.sf2 ++ cpu.sf1).get i := by
    intro i
    have hAt : ((List.range 16).map word)[i.val]? = (cpu.sf2 ++ cpu.sf1)[i.val]? := by
      rw [h]
    rw [List.getElem?_map, List.getElem?_range i.isLt] at hAt
    exact Option.some.inj (hAt.trans (List.getElem?_eq_getElem i.isLt))
  refine Cpu.ext (funext fun i => ?_) (hWord 13) (hWord 14) (hWord 15) rfl
  obtain ⟨i, hi⟩ := i
  dsimp only [Cpu.ofFrame]
  split
  · refine (hWord ⟨i + 8, by omega⟩).trans ?_
    interval_cases i <;> rfl
  · split
    · subst i
      exact hWord 12
    · have hMid : 4 ≤ i ∧ i < 12 := by omega
      obtain ⟨hFrom, hTo⟩ := hMid
      refine (hWord ⟨i - 4, by omega⟩).trans ?_
      interval_cases i <;> rfl

/-- If the frame of the task that runs next is that of `cpu`, the registers are those of `cpu`. -/
theorem pendSV_cpu {cpu : Cpu} {sp : U32} (hSp : osGetSpValue (osScheduleNextTask m.saved) = sp)
    (hFrame : loadBlock m.saved.memory (words sp 16) = cpu.sf2 ++ cpu.sf1)
    (hPsp : sp + 64 = cpu.psp) : (m.pendSV scratch).cpu = cpu := by
  rw [pendSV_restore, restore_cpu, chosen_memory, hSp, hPsp]
  apply Cpu.ofFrame_eq
  rw [← hFrame, loadBlock, words, List.map_map]
  rfl

end Effect
end KoRTOS.Port
