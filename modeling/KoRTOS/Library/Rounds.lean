import Mathlib.Data.Sum.Basic

/-!
# Rounds

A machine that takes one input a round, and has an input for every round: a loop
that reads a register again and again, or a handler that is invoked again and
again. What is repeated without end is the input; that the machine reaches a
goal follows from a measure which decreases at every input of some kind, if
inputs of this kind come infinitely often.
-/

namespace Rounds

variable {ι σ ρ : Type*}

def after (step : ι → σ → σ) (input : Nat → ι) (s : σ) : Nat → σ
  | 0 => s
  | n + 1 => step (input n) (after step input s n)

def Often (p : ι → Prop) (input : Nat → ι) : Prop := ∀ n, ∃ m, n ≤ m ∧ p (input m)

variable {step : ι → σ → σ} {input : Nat → ι} {s : σ} {I done : σ → Prop}

theorem after_invariant (hStart : I s) (hStep : ∀ i s, I s → I (step i s)) (n : Nat) :
    I (after step input s n) := by
  induction n with
  | zero => exact hStart
  | succ n ih => exact hStep _ _ ih

theorem after_kept (hStep : ∀ i s, I s → I (step i s)) {n m : Nat} (hnm : n ≤ m)
    (hn : I (after step input s n)) : I (after step input s m) := by
  induction hnm with
  | refl => exact hn
  | step _ ih => exact hStep _ _ ih

theorem exists_after_eq_foldl (i : ι) (inputs : List ι) : ∃ input : Nat → ι,
    after step input s inputs.length = inputs.foldl (fun s i => step i s) s := by
  refine ⟨fun n => inputs.getD n i, ?_⟩
  have hTake : ∀ n ≤ inputs.length, after step (fun n => inputs.getD n i) s n =
      (inputs.take n).foldl (fun s i => step i s) s := by
    intro n hn
    induction n with
    | zero => rfl
    | succ n ih =>
      rw [after, ih (Nat.le_of_succ_le hn), List.take_succ_eq_append_getElem hn, List.foldl_append,
        List.getD_eq_getElem?_getD, List.getElem?_eq_getElem hn, Option.getD_some]
      rfl
  rw [hTake _ (Nat.le_refl _), List.take_length]

/-- Until the goal is reached, a round that makes no progress leaves open which inputs help, and
its input was none of them. -/
structure Progress (step : ι → σ → σ) (I done : σ → Prop) (helps : σ → ι → Prop)
    (measure : σ → Nat) : Prop where
  round : ∀ i s, I s → ¬ done s → done (step i s) ∨ I (step i s) ∧
    (measure (step i s) < measure s ∨
      measure (step i s) = measure s ∧ helps (step i s) = helps s ∧ ¬ helps s i)

namespace Progress

variable {helps : σ → ι → Prop} {measure : σ → Nat}

theorem wait (h : Progress step I done helps measure) {n : Nat}
    (hn : I (after step input s n)) (d : Nat) :
    (∃ m, n ≤ m ∧ done (after step input s m)) ∨
      (∃ m, n ≤ m ∧ I (after step input s m) ∧
        measure (after step input s m) < measure (after step input s n)) ∨
      I (after step input s (n + d)) ∧
        measure (after step input s (n + d)) = measure (after step input s n) ∧
        helps (after step input s (n + d)) = helps (after step input s n) := by
  induction d with
  | zero => exact .inr (.inr ⟨hn, rfl, rfl⟩)
  | succ d ih =>
    obtain hDone | hLess | ⟨hI, hMeasure, hHelps⟩ := ih
    · exact .inl hDone
    · exact .inr (.inl hLess)
    · by_cases hNow : done (after step input s (n + d))
      · exact .inl ⟨n + d, Nat.le_add_right _ _, hNow⟩
      · obtain hNext | ⟨hNext, hLt | ⟨hEq, hSame, _⟩⟩ := h.round (input (n + d)) _ hI hNow
        · exact .inl ⟨n + d + 1, by omega, hNext⟩
        · exact .inr (.inl ⟨n + d + 1, by omega, hNext, Nat.lt_of_lt_of_eq hLt hMeasure⟩)
        · exact .inr (.inr ⟨hNext, hEq.trans hMeasure, hSame.trans hHelps⟩)

/-- The goal is reached from every round in which the invariant holds. -/
theorem eventually (h : Progress step I done helps measure)
    (hOften : ∀ s, I s → ¬ done s → Often (helps s) input) {n : Nat}
    (hn : I (after step input s n)) : ∃ m, n ≤ m ∧ done (after step input s m) := by
  induction hk : measure (after step input s n) using Nat.strongRecOn generalizing n with
  | ind k ih =>
    -- a later round that is nearer to the goal suffices
    have hNearer : ∀ m, n ≤ m → I (after step input s m) →
        measure (after step input s m) < measure (after step input s n) →
        ∃ m, n ≤ m ∧ done (after step input s m) := by
      intro m hm hI hLt
      obtain ⟨last, hLast, hDone⟩ := ih _ (Nat.lt_of_lt_of_eq hLt hk) hI rfl
      exact ⟨last, by omega, hDone⟩
    by_cases hNow : done (after step input s n)
    · exact ⟨n, Nat.le_refl n, hNow⟩
    · obtain ⟨m, hm, hHelp⟩ := hOften _ hn hNow n
      obtain ⟨d, rfl⟩ := Nat.exists_eq_add_of_le hm
      obtain hDone | ⟨m, hLater, hI, hLt⟩ | ⟨hI, hMeasure, hHelps⟩ := h.wait hn d
      · exact hDone
      · exact hNearer m hLater hI hLt
      · by_cases hThen : done (after step input s (n + d))
        · exact ⟨n + d, hm, hThen⟩
        · obtain hNext | ⟨hNext, hLt | ⟨_, _, hNot⟩⟩ := h.round (input (n + d)) _ hI hThen
          · exact ⟨n + d + 1, by omega, hNext⟩
          · exact hNearer (n + d + 1) (by omega) hNext (Nat.lt_of_lt_of_eq hLt hMeasure)
          · exact absurd (hHelps ▸ hHelp) hNot

end Progress

def LeadsTo (step : ι → σ → σ) (input : Nat → ι) (s : σ) (P Q : σ → Prop) : Prop :=
  ∀ n, P (after step input s n) → ∃ m, n ≤ m ∧ Q (after step input s m)

namespace LeadsTo

variable {P Q R : σ → Prop}

theorem of_imp (h : ∀ s, P s → Q s) : LeadsTo step input s P Q :=
  fun n hn => ⟨n, Nat.le_refl n, h _ hn⟩

theorem trans (h : LeadsTo step input s P Q) (h' : LeadsTo step input s Q R) :
    LeadsTo step input s P R := by
  intro n hn
  obtain ⟨m, hm, hQ⟩ := h n hn
  obtain ⟨k, hk, hR⟩ := h' m hQ
  exact ⟨k, Nat.le_trans hm hk, hR⟩

/-- `P` holds until `Q` does, and some input that comes infinitely often brings `Q`. -/
theorem ensures {helps : ι → Prop} (hOften : Often helps input)
    (hStep : ∀ i s, P s → P (step i s) ∨ Q (step i s))
    (hHelps : ∀ i s, helps i → P s → Q (step i s)) : LeadsTo step input s P Q := by
  intro n hn
  obtain ⟨m, hm, hHelp⟩ := hOften n
  obtain ⟨k, rfl⟩ := Nat.exists_eq_add_of_le hm
  induction k generalizing n with
  | zero => exact ⟨n + 1, Nat.le_succ n, hHelps _ _ hHelp hn⟩
  | succ k ih =>
    obtain hP | hQ := hStep (input n) _ hn
    · obtain ⟨m, hm, hQ⟩ := ih (n + 1) hP (by omega) (by rwa [Nat.succ_add_eq_add_succ])
      exact ⟨m, Nat.le_of_succ_le hm, hQ⟩
    · exact ⟨n + 1, Nat.le_succ n, hQ⟩

/-- The goal is reached, or the measure decreases. -/
theorem of_measure (measure : σ → Nat)
    (h : ∀ k, LeadsTo step input s (fun s => P s ∧ measure s = k)
      fun s => Q s ∨ P s ∧ measure s < k) : LeadsTo step input s P Q := by
  intro n hn
  induction hk : measure (after step input s n) using Nat.strongRecOn generalizing n with
  | ind k ih =>
    obtain ⟨m, hm, hQ | ⟨hP, hLt⟩⟩ := h k n ⟨hn, hk⟩
    · exact ⟨m, hm, hQ⟩
    · obtain ⟨last, hLast, hQ⟩ := ih _ hLt m hP rfl
      exact ⟨last, Nat.le_trans hm hLast, hQ⟩

end LeadsTo

/-- A loop that was left stays left. -/
def unlessLeft (round : ι → σ → σ ⊕ ρ) (i : ι) : σ ⊕ ρ → σ ⊕ ρ := Sum.elim (round i) Sum.inr

/-- What a loop returns if it is left within `fuel` rounds. -/
def loop (round : ι → σ → σ ⊕ ρ) (input : Nat → ι) (s : σ) (fuel : Nat) : Option ρ :=
  (after (unlessLeft round) input (Sum.inl s) fuel).getRight?

variable {round : ι → σ → σ ⊕ ρ}

theorem loop_eq_some {fuel : Nat} {r : ρ} : loop round input s fuel = some r ↔
    after (unlessLeft round) input (Sum.inl s) fuel = Sum.inr r :=
  Sum.getRight?_eq_some_iff

theorem unlessLeft_invariant {Q : ρ → Prop} (hStart : I s)
    (hStep : ∀ i s, I s → Sum.elim I Q (round i s)) (input : Nat → ι) (n : Nat) :
    Sum.elim I Q (after (unlessLeft round) input (Sum.inl s) n) := by
  refine after_invariant (show Sum.elim I Q (Sum.inl s) from hStart) ?_ n
  rintro i (s | r) hx
  · exact hStep i s hx
  · exact hx

theorem loop_invariant {Q : ρ → Prop} (hStart : I s)
    (hStep : ∀ i s, I s → Sum.elim I Q (round i s)) {fuel : Nat} {r : ρ}
    (h : loop round input s fuel = some r) : Q r := by
  have hAfter := unlessLeft_invariant hStart hStep input fuel
  rw [loop_eq_some.mp h] at hAfter
  exact hAfter

/-- A loop in which every round that does not leave it makes progress, or waits for an input that
comes infinitely often, is left. -/
theorem loop_ends (helps : σ → ι → Prop) (measure : σ → Nat) (hStart : I s)
    (hRound : ∀ i s, I s → Sum.elim (fun s' => I s' ∧ (measure s' < measure s ∨
      measure s' = measure s ∧ helps s' = helps s ∧ ¬ helps s i)) (fun _ => True) (round i s))
    (hOften : ∀ s, I s → Often (helps s) input) : ∃ fuel r, loop round input s fuel = some r := by
  let left : σ ⊕ ρ → Prop := fun x => x.isRight = true
  let I' : σ ⊕ ρ → Prop := Sum.elim I fun _ => True
  let helps' : σ ⊕ ρ → ι → Prop := Sum.elim helps fun _ _ => True
  have hProgress : Progress (unlessLeft round) I' left helps' (Sum.elim measure fun _ => 0) := by
    constructor
    rintro i (s | r) hI hNot
    · have hNext := hRound i s hI
      cases hEq : round i s with
      | inl s' =>
        rw [hEq] at hNext
        rw [unlessLeft, Sum.elim_inl, hEq]
        exact .inr hNext
      | inr r =>
        rw [unlessLeft, Sum.elim_inl, hEq]
        exact .inl rfl
    · exact absurd rfl hNot
  have hHelp : ∀ x, I' x → ¬ left x → Often (helps' x) input := by
    rintro (s | r) hI hNot
    · exact hOften s hI
    · exact absurd rfl hNot
  have hFirst : I' (after (unlessLeft round) input (Sum.inl s) 0) := hStart
  obtain ⟨fuel, _, hDone⟩ := hProgress.eventually hHelp hFirst
  obtain ⟨r, hr⟩ := Sum.isRight_iff.mp hDone
  exact ⟨fuel, r, loop_eq_some.mpr hr⟩

end Rounds
