import KoRTOS.Hal.Exti

/-!
# Pending lines

Acknowledging one line writes back all that was read as pending, and each one
that is written clears its line.
-/

namespace KoRTOS.Hal

open RegisterBits Transition

namespace Exti

/-- The transition is the write of a call for the pin. -/
def Acknowledges (l : Label Exti ExtiEvent Unit) (pinNum : U8) (temp : U32) : Prop :=
  ∃ slot, l.event = .access slot ∧ l.pre.calls slot = .writing pinNum temp

theorem pr_cases {l : Label Exti ExtiEvent Unit} (h : Taken step l) :
    (∃ line < 16, l.event = .edge line ∧ l.post.pr = l.pre.pr ||| bit line) ∨
    (∃ pinNum temp, Acknowledges l pinNum temp ∧ l.post.pr = writeOneToClear l.pre.pr temp) ∨
    l.post.pr = l.pre.pr := by
  obtain ⟨pre, e, o, post⟩ := l
  unfold Taken at h
  dsimp only at h ⊢
  cases e with
  | edge line =>
    unfold step at h
    dsimp only at h
    split_ifs at h with hLine
    cases h
    exact .inl ⟨line, hLine, rfl, rfl⟩
  | call slot pinNum =>
    unfold step at h
    dsimp only at h
    split_ifs at h
    cases h
    exact .inr (.inr rfl)
  | access slot =>
    unfold step gpioIrqHandler at h
    dsimp only at h
    cases hCall : pre.calls slot with
    | idle => simp [hCall] at h
    | testing pinNum =>
      rw [hCall] at h
      dsimp only at h
      split_ifs at h <;> cases h <;> exact .inr (.inr rfl)
    | reading pinNum =>
      rw [hCall] at h
      cases h
      exact .inr (.inr rfl)
    | writing pinNum temp =>
      rw [hCall] at h
      cases h
      exact .inr (.inl ⟨pinNum, temp, ⟨slot, rfl, hCall⟩, rfl⟩)

/-- A call for one pin clears no other pin's pending bit. -/
def KeepsOthers (l : Label Exti ExtiEvent Unit) : Prop :=
  ∀ pinNum temp, Acknowledges l pinNum temp → ∀ line < 16, line ≠ pinNum.toNat →
    l.pre.pr.getLsbD line = true → l.post.pr.getLsbD line = true

/-- No other line that was read as pending is still pending when it is written back. -/
def WritesOwn (l : Label Exti ExtiEvent Unit) : Prop :=
  ∀ pinNum temp, Acknowledges l pinNum temp → ∀ line < 16, line ≠ pinNum.toNat →
    l.pre.pr.getLsbD line = true → temp.getLsbD line = false

/-- A line that had an edge is pending until a call for its pin clears it. -/
def EdgesPending (trace : List (Label Exti ExtiEvent Unit)) (exti : Exti) : Prop :=
  ∀ before l after, trace = before ++ l :: after → ∀ line, l.event = .edge line →
    (∃ m ∈ after, ∃ pinNum temp, Acknowledges m pinNum temp ∧ pinNum.toNat = line) ∨
      exti.pr.getLsbD line = true

variable {l : Label Exti ExtiEvent Unit} {start exti : Exti}
  {trace : List (Label Exti ExtiEvent Unit)}

theorem pr_acknowledges {pinNum : U8} {temp : U32} (hTaken : Taken step l)
    (h : Acknowledges l pinNum temp) : l.post.pr = writeOneToClear l.pre.pr temp := by
  obtain ⟨slot, hEvent, hCall⟩ := h
  obtain ⟨pre, e, o, post⟩ := l
  dsimp only at hEvent hCall ⊢
  subst hEvent
  unfold Taken step gpioIrqHandler at hTaken
  dsimp only at hTaken
  rw [hCall] at hTaken
  cases hTaken
  rfl

theorem keepsOthers_iff (hTaken : Taken step l) : KeepsOthers l ↔ WritesOwn l := by
  refine forall₃_congr fun pinNum temp hWrite => forall₃_congr fun line hLine hOther =>
    forall_congr' fun hPending => ?_
  rw [pr_acknowledges hTaken hWrite, getLsbD_writeOneToClear (hLine.trans (by decide)), hPending,
    Bool.true_and, Bool.not_eq_true']

/-- A pending line stays pending in a transition unless a call for its pin is what takes it. -/
theorem pending_step (hTaken : Taken step l) (hOwn : WritesOwn l) {line : Nat} (hLine : line < 16)
    (hPending : l.pre.pr.getLsbD line = true) :
    (∃ pinNum temp, Acknowledges l pinNum temp ∧ pinNum.toNat = line) ∨
      l.post.pr.getLsbD line = true := by
  obtain ⟨other, _, _, hPr⟩ | ⟨pinNum, temp, hWrite, hPr⟩ | hPr := pr_cases hTaken
  · right
    rw [hPr, getLsbD_or_bit (hLine.trans (by decide)), hPending, Bool.true_or]
  · obtain hSame | hOther := eq_or_ne pinNum.toNat line
    · exact .inl ⟨pinNum, temp, hWrite, hSame⟩
    · exact .inr ((keepsOthers_iff hTaken).mpr hOwn pinNum temp hWrite line hLine hOther.symm
        hPending)
  · right
    rw [hPr, hPending]

theorem pending_edge (hTaken : Taken step l) {line : Nat} (hEdge : l.event = .edge line) :
    line < 16 ∧ l.post.pr.getLsbD line = true := by
  obtain ⟨pre, e, o, post⟩ := l
  dsimp only at hEdge ⊢
  subst hEdge
  unfold Taken step at hTaken
  dsimp only at hTaken
  split_ifs at hTaken with hLine
  cases hTaken
  exact ⟨hLine, getLsbD_or_bit_self (hLine.trans (by decide))⟩

theorem edgesPending_of_own (h : Run step start trace exti) (hOwn : ∀ l ∈ trace, WritesOwn l) :
    EdgesPending trace exti := by
  induction h with
  | nil =>
    intro before l after hEq
    simp at hEq
  | @snoc trace last hRun hTaken ih =>
    have hBefore := ih fun l hl => hOwn l (List.mem_append_left _ hl)
    intro before l after hEq line hEdge
    obtain rfl | ⟨init, m, rfl⟩ := List.eq_nil_or_concat after
    · -- the edge itself
      obtain ⟨rfl, hLast⟩ := List.append_inj' hEq rfl
      obtain rfl := List.head_eq_of_cons_eq hLast
      exact .inr (pending_edge hTaken hEdge).2
    · rw [List.concat_eq_append, ← List.cons_append, ← List.append_assoc] at hEq
      obtain ⟨hTrace, hLast⟩ := List.append_inj' hEq rfl
      obtain rfl := List.head_eq_of_cons_eq hLast
      have hMem : l ∈ trace := by
        rw [hTrace]
        exact List.mem_append_right _ List.mem_cons_self
      have hLine := (pending_edge (hRun.split hMem).1 hEdge).1
      obtain ⟨m, hm, hWrite⟩ | hPending := hBefore before l init hTrace line hEdge
      · exact .inl ⟨m, by simp [hm], hWrite⟩
      · have hOwnLast := hOwn last (List.mem_append_right _ List.mem_cons_self)
        obtain hWrite | hStill := pending_step hTaken hOwnLast hLine hPending
        · exact .inl ⟨last, by simp, hWrite⟩
        · exact .inr hStill

/-- In every run, the lines are kept pending as they should be just if no call ever writes back
a line of another pin that is pending. -/
theorem pending_kept_iff (h : Run step start trace exti) :
    (∀ l ∈ trace, KeepsOthers l) ∧ EdgesPending trace exti ↔ ∀ l ∈ trace, WritesOwn l := by
  constructor
  · rintro ⟨hKeeps, _⟩ l hl
    exact (keepsOthers_iff (h.split hl).1).mp (hKeeps l hl)
  · intro hOwn
    constructor
    · intro l hl
      exact (keepsOthers_iff (h.split hl).1).mpr (hOwn l hl)
    · exact edgesPending_of_own h hOwn

def quiet : Exti := ⟨0, fun _ => .idle⟩

def acknowledge (edges : List ExtiEvent) : List ExtiEvent :=
  edges ++ [.call 0 0, .access 0, .access 0, .access 0]

/-- Line 1 becomes pending between the read and the write that acknowledge line 0. -/
theorem pending_kept_between : ∃ trace exti, Run step quiet trace exti ∧
    ((∀ l ∈ trace, KeepsOthers l) ∧ EdgesPending trace exti) ∧ exti.pr = 2 := by
  have hRun := run_of_execute
    (show execute step quiet [.edge 0, .call 0 0, .access 0, .access 0, .edge 1, .access 0] =
      some (_, _) from rfl)
  refine ⟨_, _, hRun, (pending_kept_iff hRun).mpr ?_, by decide⟩
  simp only [List.forall_mem_cons, List.not_mem_nil, false_implies, implies_true, and_true]
  refine ⟨?_, ?_, ?_, ?_, ?_, ?_⟩
  · rintro pinNum temp ⟨slot, hEvent, _⟩
    cases hEvent
  · rintro pinNum temp ⟨slot, hEvent, _⟩
    cases hEvent
  · rintro pinNum temp ⟨slot, hEvent, hCall⟩
    cases hEvent
    cases hCall
  · rintro pinNum temp ⟨slot, hEvent, hCall⟩
    cases hEvent
    cases hCall
  · rintro pinNum temp ⟨slot, hEvent, _⟩
    cases hEvent
  · rintro pinNum temp ⟨slot, hEvent, hCall⟩
    cases hEvent
    cases hCall
    decide

/-- Line 1 is not pending any more, and there was no call for it. -/
theorem pending_lost : ¬ ∀ start exti trace, Run step start trace exti →
    (∀ l ∈ trace, KeepsOthers l) ∧ EdgesPending trace exti := by
  intro h
  have hRun := run_of_execute
    (show execute step quiet (acknowledge [.edge 0, .edge 1]) = some (_, _) from rfl)
  have hKeeps := (h _ _ _ hRun).1
  simp only [List.forall_mem_cons] at hKeeps
  obtain ⟨_, _, _, _, _, hLast, _⟩ := hKeeps
  have hStill := hLast 0 3 ⟨0, rfl, rfl⟩ 1 (by decide) (by decide) (by decide)
  revert hStill
  decide

end Exti
end KoRTOS.Hal
