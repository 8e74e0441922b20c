import Mathlib.Logic.Basic

/-!
# Polling with a budget

`while (notYet(read()) && budget > 0) budget--;` and then a test whether the budget is used
up. The loop reads once more than its budget, and the test does not look at what the last
read returned: a flag that first shows there is reported as if it had never been seen.
-/

namespace Polling

variable {σ ρ : Type*}

/-- One round of the loop and, when it ends, the test after it. -/
def poll (notYet : Bool) (budget : Nat) (head : Nat → σ) (expired passed : σ) : σ :=
  if notYet = true ∧ 0 < budget then head (budget - 1)
  else if budget = 0 then expired
  else passed

/-- From the read `s` on, the flag first shows at the poll `e`. -/
def Seen (notYet : ρ → Bool) (reads : Nat → ρ) (s e : Nat) : Prop :=
  (∀ i < e, notYet (reads (s + i)) = true) ∧ notYet (reads (s + e)) = false

theorem seen_or_notYet (notYet : ρ → Bool) (reads : Nat → ρ) (budget s : Nat) :
    (∃ e < budget, Seen notYet reads s e) ∨ ∀ i < budget, notYet (reads (s + i)) = true := by
  induction budget with
  | zero => exact Or.inr fun i hi => absurd hi (Nat.not_lt_zero i)
  | succ n ih =>
    obtain ⟨e, he, hSeen⟩ | hNone := ih
    · exact Or.inl ⟨e, by omega, hSeen⟩
    · cases hLast : notYet (reads (s + n)) with
      | false => exact Or.inl ⟨n, Nat.lt_succ_self n, hNone, hLast⟩
      | true =>
        right
        intro i hi
        obtain hLt | rfl := Nat.lt_succ_iff_lt_or_eq.mp hi
        · exact hNone i hLt
        · exact hLast

/-- A loop of a program: its states at the head, by the budget left, and after the test. -/
structure Loop (σ ρ : Type*) where
  head : Nat → σ
  notYet : ρ → Bool
  expired : σ
  passed : σ
  head_ne_expired : ∀ n, head n ≠ expired
  head_ne_passed : ∀ n, head n ≠ passed
  passed_ne_expired : passed ≠ expired

namespace Loop

/-- The program, whose states and reads are given, runs the loop whenever it is at its head. -/
def Follows (l : Loop σ ρ) (states : Nat → σ) (reads : Nat → ρ) : Prop :=
  ∀ i n, states i = l.head n →
    states (i + 1) = poll (l.notYet (reads i)) n l.head l.expired l.passed

/-- The loop that is entered at `s` gives up only if none of its polls saw the flag, and goes
on after the poll that saw it first. -/
structure Reports (l : Loop σ ρ) (states : Nat → σ) (reads : Nat → ρ) (budget s : Nat) :
    Prop where
  expired : ∀ e, (∀ i ≤ e, ∃ n, states (s + i) = l.head n) → states (s + e + 1) = l.expired →
    ∀ i ≤ e, l.notYet (reads (s + i)) = true
  passed : ∀ e ≤ budget, Seen l.notYet reads s e → states (s + e + 1) = l.passed

section Runs

variable {l : Loop σ ρ} {states : Nat → σ} {reads : Nat → ρ} {budget s e : Nat}

variable (hFollows : l.Follows states reads) (hStart : states s = l.head budget)

include hFollows hStart

theorem head_at (hNotYet : ∀ i < e, l.notYet (reads (s + i)) = true) (he : e ≤ budget) :
    states (s + e) = l.head (budget - e) := by
  induction e with
  | zero => exact hStart
  | succ e ih =>
    have hHead := ih (fun i hi => hNotYet i (by omega)) (by omega)
    have hPos : 0 < budget - e := by omega
    rw [← Nat.add_assoc, hFollows _ _ hHead, poll, hNotYet e (Nat.lt_succ_self e),
      if_pos ⟨rfl, hPos⟩, Nat.sub_sub]

theorem passed_of_seen (h : Seen l.notYet reads s e) (he : e < budget) :
    states (s + e + 1) = l.passed := by
  have hHead := head_at hFollows hStart h.1 (Nat.le_of_lt he)
  have hPos : budget - e ≠ 0 := by omega
  rw [hFollows _ _ hHead, poll, h.2, if_neg (by simp), if_neg hPos]

theorem expired_of_notYet (h : ∀ i < budget, l.notYet (reads (s + i)) = true) :
    states (s + budget + 1) = l.expired := by
  have hHead := head_at hFollows hStart h (Nat.le_refl budget)
  rw [hFollows _ _ hHead, poll, Nat.sub_self, if_neg (by simp), if_pos rfl]

theorem expired_after (hIn : ∀ i ≤ e, ∃ n, states (s + i) = l.head n)
    (hExpired : states (s + e + 1) = l.expired) :
    e = budget ∧ ∀ i < budget, l.notYet (reads (s + i)) = true := by
  obtain ⟨seen, hBudget, hSeen⟩ | hNone := seen_or_notYet l.notYet reads budget s
  · have hPassed := passed_of_seen hFollows hStart hSeen hBudget
    exfalso
    obtain hLt | rfl | hGt := Nat.lt_trichotomy e seen
    · have hHead := head_at hFollows hStart (e := e + 1) (fun i hi => hSeen.1 i (by omega))
        (by omega)
      exact l.head_ne_expired _ (hHead.symm.trans hExpired)
    · exact l.passed_ne_expired (hPassed.symm.trans hExpired)
    · obtain ⟨n, hHead⟩ := hIn (seen + 1) hGt
      exact l.head_ne_passed n (hHead.symm.trans hPassed)
  · refine ⟨?_, hNone⟩
    have hGivenUp := expired_of_notYet hFollows hStart hNone
    obtain hLt | hEq | hGt := Nat.lt_trichotomy e budget
    · have hHead := head_at hFollows hStart (e := e + 1) (fun i hi => hNone i (by omega))
        (by omega)
      exact absurd (hHead.symm.trans hExpired) (l.head_ne_expired _)
    · exact hEq
    · obtain ⟨n, hHead⟩ := hIn (budget + 1) hGt
      exact absurd (hHead.symm.trans hGivenUp) (l.head_ne_expired n)

theorem reports_iff : l.Reports states reads budget s ↔ ¬ Seen l.notYet reads s budget := by
  constructor
  · intro h hLast
    have hPassed := h.passed budget (Nat.le_refl budget) hLast
    rw [expired_of_notYet hFollows hStart hLast.1] at hPassed
    exact l.passed_ne_expired hPassed.symm
  · intro hLast
    constructor
    · intro e hIn hExpired i hi
      obtain ⟨rfl, hNone⟩ := expired_after hFollows hStart hIn hExpired
      obtain hLt | rfl := Nat.lt_or_eq_of_le hi
      · exact hNone i hLt
      · cases hSaw : l.notYet (reads (s + i)) with
        | true => rfl
        | false => exact absurd ⟨hNone, hSaw⟩ hLast
    · intro e he hSeen
      obtain hLt | rfl := Nat.lt_or_eq_of_le he
      · exact passed_of_seen hFollows hStart hSeen hLt
      · exact absurd hSeen hLast

end Runs
end Loop
end Polling
