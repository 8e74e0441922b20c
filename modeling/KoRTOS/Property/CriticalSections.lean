import KoRTOS.Port.CriticalSection

/-!
# Critical sections run alone

Interrupts are disabled exactly while the code that runs has a section open, however
the sections are nested and whatever preempted whatever before. So nothing else
runs until the outermost of them is left.
-/

namespace KoRTOS.Port

open Transition

/-- The values restore PRIMASK step by step to enabled interrupts. -/
def Nested : Bool → List Bool → Prop
  | primask, [] => primask = false
  | primask, prev :: rest => primask = true ∧ Nested prev rest

/-- What the code knows of PRIMASK is true. -/
structure Masking.Knows (primask : Bool) (masking : Masking) : Prop where
  nested : Nested primask masking.sections
  read : ∀ prev, masking.read = some prev → prev = primask

/-- Code that does not run was preempted with interrupts enabled. -/
structure Core.Masked (core : Core) : Prop where
  running : core.running.Knows core.primask
  handlers : ∀ masking ∈ core.handlers.tail, masking.Knows false
  tasks : ∀ t, core.handlers ≠ [] ∨ t ≠ core.current → (core.tasks t).Knows false

theorem Masking.idle_knows : idle.Knows false := by
  refine ⟨rfl, ?_⟩
  rintro prev ⟨⟩

theorem Nested.eq_true_iff {primask : Bool} {sections : List Bool} (h : Nested primask sections) :
    primask = true ↔ sections ≠ [] := by
  cases sections with
  | nil =>
    rw [show primask = false from h]
    simp
  | cons prev rest => simp [h.1]

theorem Masking.Knows.closed {masking : Masking} (h : masking.Knows false) :
    masking.sections = [] := by
  have hIff := h.nested.eq_true_iff
  simpa using hIff

namespace Core

variable {core next : Core} {masking : Masking} {l : Label Core Instruction Unit}

structure Same (core next : Core) : Prop where
  handlers : next.handlers.tail = core.handlers.tail
  outermost : next.handlers = [] ↔ core.handlers = []
  current : next.current = core.current
  tasks : ∀ t, core.handlers ≠ [] ∨ t ≠ core.current → next.tasks t = core.tasks t

theorem Same.refl (core : Core) : Same core core := ⟨rfl, Iff.rfl, rfl, fun _ _ => rfl⟩

theorem Same.trans {last : Core} (h : Same core next) (hLast : Same next last) :
    Same core last where
  handlers := hLast.handlers.trans h.handlers
  outermost := hLast.outermost.trans h.outermost
  current := hLast.current.trans h.current
  tasks t hOther :=
    (hLast.tasks t (by rwa [h.current, ne_eq, h.outermost])).trans (h.tasks t hOther)

theorem setRunning_same : Same core (core.setRunning masking) := by
  unfold setRunning
  split
  · rename_i hTask
    refine ⟨rfl, Iff.rfl, rfl, fun t hOther => ?_⟩
    exact Function.update_of_ne (hOther.resolve_left (absurd hTask)) _ _
  · rename_i hHandlers
    exact ⟨by rw [hHandlers]; rfl, by simp [hHandlers], rfl, fun _ _ => rfl⟩

@[simp] theorem setRunning_running : (core.setRunning masking).running = masking := by
  unfold setRunning running
  split <;> rename_i hHandlers <;> simp [hHandlers]

@[simp] theorem setRunning_primask : (core.setRunning masking).primask = core.primask := by
  unfold setRunning
  split <;> rfl

theorem Same.setMask (primask : Bool) (h : Same core next) : Same core (next.setMask primask) :=
  ⟨h.handlers, h.outermost, h.current, h.tasks⟩

theorem Masked.knows (h : core.Masked) (hRunning : core.running = masking) :
    masking.Knows core.primask := hRunning ▸ h.running

theorem Masked.of_same (h : core.Masked) (hSame : Same core next)
    (hRunning : next.running.Knows next.primask) : next.Masked where
  running := hRunning
  handlers := by
    rw [hSame.handlers]
    exact h.handlers
  tasks t hOther := by
    rw [ne_eq, hSame.outermost, hSame.current] at hOther
    rw [hSame.tasks t hOther]
    exact h.tasks t hOther

theorem Masked.getPrimask (h : core.Masked) :
    (core.setRunning ⟨core.running.sections, some core.primask⟩).Masked := by
  refine h.of_same setRunning_same ?_
  rw [setRunning_running, setRunning_primask]
  refine ⟨h.running.nested, ?_⟩
  rintro prev ⟨⟩
  rfl

theorem Masked.disableInterrupts {prev : Bool} (h : core.Masked)
    (hRead : core.running.read = some prev) :
    ((core.setRunning ⟨prev :: core.running.sections, none⟩).setMask true).Masked := by
  refine h.of_same (setRunning_same.setMask true) ?_
  change (core.setRunning _).running.Knows true
  rw [setRunning_running]
  refine ⟨⟨rfl, ?_⟩, ?_⟩
  · rw [h.running.read prev hRead]
    exact h.running.nested
  · rintro prev ⟨⟩

theorem Masked.setPrimask {prev : Bool} {rest : List Bool} (h : core.Masked)
    (hRunning : core.running = ⟨prev :: rest, none⟩) :
    ((core.setRunning ⟨rest, none⟩).setMask prev).Masked := by
  refine h.of_same (setRunning_same.setMask prev) ?_
  change (core.setRunning _).running.Knows prev
  rw [setRunning_running]
  refine ⟨(h.knows hRunning).nested.2, ?_⟩
  rintro prev ⟨⟩

theorem Masked.preempted (h : core.Masked) (hEnabled : core.primask = false) :
    (∀ masking ∈ core.handlers, masking.Knows false) ∧ ∀ t, (core.tasks t).Knows false := by
  have hRunning := h.running
  rw [hEnabled, Core.running] at hRunning
  cases hHandlers : core.handlers with
  | nil =>
    rw [hHandlers] at hRunning
    refine ⟨fun _ hMem => absurd hMem List.not_mem_nil, fun t => ?_⟩
    by_cases hCurrent : t = core.current
    · rw [hCurrent]
      exact hRunning
    · exact h.tasks t (.inr hCurrent)
  | cons first rest =>
    rw [hHandlers] at hRunning
    refine ⟨fun masking hMem => ?_, fun t => h.tasks t (.inl (by simp [hHandlers]))⟩
    obtain rfl | hRest := List.mem_cons.mp hMem
    · exact hRunning
    · exact h.handlers masking (by rwa [hHandlers])

theorem Masked.exceptionEntry (h : core.Masked) (hEnabled : core.primask = false) :
    Masked { core with handlers := .idle :: core.handlers } where
  running := by
    rw [hEnabled]
    exact Masking.idle_knows
  handlers := (h.preempted hEnabled).1
  tasks t _ := (h.preempted hEnabled).2 t

theorem Masked.enabled {rest : List Masking} (h : core.Masked)
    (hHandlers : core.handlers = .idle :: rest) : core.primask = false := by
  have hRunning : core.running = .idle := by
    rw [Core.running, hHandlers]
    rfl
  exact (h.knows hRunning).nested

theorem Masked.lastReturn (h : core.Masked) {next : Nat} (hHandlers : core.handlers = [.idle]) :
    Masked { core with handlers := [], current := next } := by
  have hPrimask := h.enabled hHandlers
  have hTasks := (h.preempted hPrimask).2
  refine ⟨?_, fun _ hMem => absurd hMem List.not_mem_nil, fun t _ => hTasks t⟩
  rw [hPrimask]
  exact hTasks next

theorem Masked.return {rest : List Masking} (h : core.Masked)
    (hHandlers : core.handlers = .idle :: rest) (hRest : rest ≠ []) :
    Masked { core with handlers := rest } := by
  have hPrimask := h.enabled hHandlers
  have hAll := (h.preempted hPrimask).1
  rw [hHandlers] at hAll
  obtain ⟨first, others, rfl⟩ := List.exists_cons_of_ne_nil hRest
  refine ⟨?_, ?_, ?_⟩
  · rw [hPrimask]
    exact hAll first (by simp)
  · exact fun masking hMem => hAll masking (by simp_all)
  · exact fun t _ => (h.preempted hPrimask).2 t

theorem Masked.step (h : core.Masked) {i : Instruction} {out : Unit}
    (hStep : core.step i = some (next, out)) : next.Masked := by
  cases i with
  | getPrimask =>
    simp only [Core.step] at hStep
    split at hStep
    · obtain ⟨⟩ := hStep
      exact h.getPrimask
    · cases hStep
  | disableInterrupts =>
    simp only [Core.step] at hStep
    split at hStep
    · rename_i hRead
      obtain ⟨⟩ := hStep
      exact h.disableInterrupts hRead
    · cases hStep
  | setPrimask =>
    simp only [Core.step] at hStep
    split at hStep
    · rename_i hRunning
      obtain ⟨⟩ := hStep
      exact h.setPrimask hRunning
    · cases hStep
  | other =>
    obtain ⟨⟩ := hStep
    exact h
  | exceptionEntry =>
    simp only [Core.step] at hStep
    split at hStep
    · cases hStep
    · rename_i hEnabled
      obtain ⟨⟩ := hStep
      exact h.exceptionEntry (Bool.not_eq_true _ ▸ hEnabled)
  | exceptionReturn task =>
    simp only [Core.step] at hStep
    split at hStep
    · rename_i hHandlers
      obtain ⟨⟩ := hStep
      exact h.lastReturn hHandlers
    · rename_i rest hRest hHandlers
      obtain ⟨⟩ := hStep
      exact h.return hHandlers hRest
    · cases hStep

theorem initial_masked (current : Nat) : (initial current).Masked where
  running := Masking.idle_knows
  handlers _ hMem := absurd hMem List.not_mem_nil
  tasks _ _ := Masking.idle_knows

theorem Masked.run (h : core.Masked) {trace : List (Label Core Instruction Unit)}
    (hRun : Run Core.step core trace next) : next.Masked :=
  hRun.invariant (C := fun _ => True) h (fun _ hTaken _ hPre => hPre.step hTaken) fun _ _ => trivial

theorem Masked.alone (h : core.Masked) {i : Instruction} {out : Unit}
    (hStep : core.step i = some (next, out)) (hOpen : core.running.sections ≠ []) :
    Same core next := by
  have hPrimask := h.running.nested.eq_true_iff.mpr hOpen
  cases i with
  | exceptionEntry =>
    rw [Core.step, hPrimask] at hStep
    cases hStep
  | exceptionReturn task =>
    have hNot : ∀ rest, core.handlers ≠ ⟨[], none⟩ :: rest := by
      intro rest hHandlers
      rw [Core.running, hHandlers] at hOpen
      exact hOpen rfl
    simp only [Core.step] at hStep
    split at hStep
    · exact absurd ‹_› (hNot [])
    · exact absurd ‹_› (hNot _)
    · cases hStep
  | getPrimask =>
    simp only [Core.step] at hStep
    split at hStep
    · obtain ⟨⟩ := hStep
      exact setRunning_same
    · cases hStep
  | disableInterrupts =>
    simp only [Core.step] at hStep
    split at hStep
    · obtain ⟨⟩ := hStep
      exact setRunning_same.setMask true
    · cases hStep
  | setPrimask =>
    simp only [Core.step] at hStep
    split at hStep
    · obtain ⟨⟩ := hStep
      exact setRunning_same.setMask _
    · cases hStep
  | other =>
    obtain ⟨⟩ := hStep
    exact .refl core

/-- A section that stays open is not interrupted. -/
theorem Masked.alone_run (h : core.Masked) {trace : List (Label Core Instruction Unit)}
    (hRun : Run Core.step core trace next) (hOpen : ∀ l ∈ trace, l.pre.running.sections ≠ []) :
    Same core next := by
  induction hRun with
  | nil => exact .refl core
  | snoc hBefore hTaken ih =>
    have hSame := ih fun l hl => hOpen l (List.mem_append_left _ hl)
    exact hSame.trans ((h.run hBefore).alone hTaken (hOpen _ (by simp)))

end Core

/-- In every run of tasks and handlers, interrupts are disabled exactly while the code that runs
has a section open, and no other code has one; and until the outermost section is left no
exception is taken and none returns, so that only this code goes on. -/
theorem critical_sections_run_alone {current : Nat} {core : Core}
    {trace : List (Label Core Instruction Unit)}
    (hRun : Run Core.step (Core.initial current) trace core) :
    (core.primask = true ↔ core.running.sections ≠ []) ∧
      (∀ masking ∈ core.handlers.tail, masking.sections = []) ∧
      (∀ t, core.handlers ≠ [] ∨ t ≠ core.current → (core.tasks t).sections = []) ∧
      ∀ {later : List (Label Core Instruction Unit)} {next : Core}, Run Core.step core later next →
        (∀ l ∈ later, l.pre.running.sections ≠ []) → core.Same next := by
  have hMasked := (Core.initial_masked current).run hRun
  refine ⟨hMasked.running.nested.eq_true_iff, ?_, ?_, fun h => hMasked.alone_run h⟩
  · exact fun masking hMem => (hMasked.handlers masking hMem).closed
  · exact fun t hOther => (hMasked.tasks t hOther).closed

def Core.execute (instructions : List Instruction) (core : Core) : Option Core :=
  instructions.foldlM (fun core i => (core.step i).map Prod.fst) core

theorem Core.exists_run {start core next : Core} {trace : List (Label Core Instruction Unit)}
    (instructions : List Instruction) (hRun : Run Core.step start trace core)
    (hExecute : core.execute instructions = some next) :
    ∃ trace, Run Core.step start trace next := by
  induction instructions generalizing core trace with
  | nil =>
    obtain ⟨⟩ := hExecute
    exact ⟨trace, hRun⟩
  | cons i instructions ih =>
    rw [execute, List.foldlM_cons] at hExecute
    obtain ⟨middle, hMiddle, hRest⟩ := Option.bind_eq_some_iff.mp hExecute
    obtain ⟨⟨_, out⟩, hStep, rfl⟩ := Option.map_eq_some_iff.mp hMiddle
    exact ih (.snoc (l := ⟨core, i, out, _⟩) hRun hStep) hRest

/-- An interrupt comes between the instructions of `port_enter_critical`, and a second section is
opened within the first. -/
theorem critical_sections_run_alone_nested : ∃ core : Core,
    core.running.sections = [true, false] ∧
      (core.primask = true ↔ core.running.sections ≠ []) := by
  obtain ⟨trace, hRun⟩ := Core.exists_run
    [.getPrimask, .exceptionEntry, .getPrimask, .disableInterrupts, .setPrimask,
      .exceptionReturn 0, .disableInterrupts, .getPrimask, .disableInterrupts]
    (Run.nil : Run Core.step (Core.initial 0) [] _) rfl
  exact ⟨_, rfl, (critical_sections_run_alone hRun).1⟩

end KoRTOS.Port
