import Mathlib.Data.List.Basic
import Mathlib.Order.Bounds.Basic
import Mathlib.Order.MinMax

/-!
# Scanning a list for its first minimum

A scan keeps the least key seen so far and where it was seen, and only a
strictly smaller key replaces it. Elements without a key are skipped.
-/

namespace Scan

variable {ι : Type*}

def step (key : ι → Option Nat) (best : Nat × Option ι) (i : ι) : Nat × Option ι :=
  match key i with
  | some p => if p < best.1 then (p, some i) else best
  | none => best

/-- `i` is the first of the elements of `l` with the least key, and its key is `p`. -/
def FirstMin (key : ι → Option Nat) (l : List ι) (i : ι) (p : Nat) : Prop :=
  key i = some p ∧ ∃ before after, l = before ++ i :: after ∧
    (∀ j ∈ before, ∀ q, key j = some q → p < q) ∧ ∀ j ∈ after, ∀ q, key j = some q → p ≤ q

theorem FirstMin.mem {key : ι → Option Nat} {l : List ι} {i : ι} {p : Nat}
    (h : FirstMin key l i p) : i ∈ l := by
  obtain ⟨_, before, after, rfl, _⟩ := h
  simp

theorem FirstMin.le {key : ι → Option Nat} {l : List ι} {i j : ι} {p q : Nat}
    (h : FirstMin key l i p) (hj : j ∈ l) (hq : key j = some q) : p ≤ q := by
  obtain ⟨hp, before, after, rfl, hBefore, hAfter⟩ := h
  rcases List.mem_append.mp hj with hj | hj
  · exact (hBefore j hj q hq).le
  · rcases List.mem_cons.mp hj with rfl | hj
    · rw [hp] at hq
      exact (Option.some.inj hq).le
    · exact hAfter j hj q hq

theorem FirstMin.first {key : ι → Option Nat} {l : List ι} {i j : ι} {p q : Nat}
    {R : ι → ι → Prop} (h : FirstMin key l i p) (hl : l.Pairwise R) (hj : j ∈ l)
    (hq : key j = some q) (hle : q ≤ p) : j = i ∨ R i j := by
  obtain ⟨_, before, after, rfl, hBefore, _⟩ := h
  obtain ⟨_, hTail, _⟩ := List.pairwise_append.mp hl
  obtain hj | hj := List.mem_append.mp hj
  · exact absurd (hBefore j hj q hq) (Nat.not_lt.mpr hle)
  · obtain rfl | hj := List.mem_cons.mp hj
    · exact .inl rfl
    · exact .inr (List.rel_of_pairwise_cons hTail hj)

/-- Either no key is below the bound and the scan ends as it started, or it ends at the
first minimum. -/
theorem foldl_cases (key : ι → Option Nat) (l : List ι) (bound : Nat) (start : Option ι) :
    (l.foldl (step key) (bound, start) = (bound, start) ∧
      ∀ i ∈ l, ∀ p, key i = some p → bound ≤ p) ∨
    ∃ i p, l.foldl (step key) (bound, start) = (p, some i) ∧ p < bound ∧ FirstMin key l i p := by
  induction l generalizing bound start with
  | nil => exact .inl ⟨rfl, by simp⟩
  | cons i l ih =>
    rw [List.foldl_cons]
    by_cases hBetter : ∃ p, key i = some p ∧ p < bound
    · obtain ⟨p, hp, hLt⟩ := hBetter
      have hStep : step key (bound, start) i = (p, some i) := by simp [step, hp, hLt]
      rw [hStep]
      rcases ih p (some i) with ⟨hFold, hAll⟩ | ⟨j, q, hFold, hq, hKey, before, after, rfl, hb, ha⟩
      · exact .inr ⟨i, p, hFold, hLt, hp, [], l, rfl, by simp, hAll⟩
      · refine .inr ⟨j, q, hFold, hq.trans hLt, hKey, i :: before, after, rfl, ?_, ha⟩
        intro x hx r hr
        rcases List.mem_cons.mp hx with rfl | hx
        · rw [hp] at hr
          exact Option.some.inj hr ▸ hq
        · exact hb x hx r hr
    · have hSkip : ∀ p, key i = some p → bound ≤ p := fun p hp =>
        Nat.le_of_not_lt fun hLt => hBetter ⟨p, hp, hLt⟩
      have hStep : step key (bound, start) i = (bound, start) := by
        unfold step
        split
        · rename_i p hp
          exact if_neg (Nat.not_lt.mpr (hSkip p hp))
        · rfl
      rw [hStep]
      rcases ih bound start with ⟨hFold, hAll⟩ | ⟨j, q, hFold, hq, hKey, before, after, rfl, hb, ha⟩
      · refine .inl ⟨hFold, ?_⟩
        intro x hx p hp
        rcases List.mem_cons.mp hx with rfl | hx
        · exact hSkip p hp
        · exact hAll x hx p hp
      · refine .inr ⟨j, q, hFold, hq, hKey, i :: before, after, rfl, ?_, ha⟩
        intro x hx r hr
        rcases List.mem_cons.mp hx with rfl | hx
        · exact hq.trans_le (hSkip r hr)
        · exact hb x hx r hr

theorem foldl_min_isLeast (key : ι → Nat) (l : List ι) (start : Nat) :
    IsLeast (insert start {p | ∃ i ∈ l, p = key i})
      (l.foldl (fun best i => min (key i) best) start) := by
  induction l generalizing start with
  | nil =>
    refine ⟨.inl rfl, ?_⟩
    rintro p (rfl | ⟨i, hi, _⟩)
    · exact le_rfl
    · simp at hi
  | cons i l ih =>
    obtain ⟨hMem, hLower⟩ := ih (min (key i) start)
    have hStart := hLower (.inl rfl)
    refine ⟨?_, ?_⟩
    · rcases hMem with h | ⟨j, hj, h⟩
      · rw [List.foldl_cons, h]
        rcases min_choice (key i) start with hm | hm
        · exact .inr ⟨i, by simp, hm⟩
        · exact .inl hm
      · exact .inr ⟨j, List.mem_cons_of_mem _ hj, h⟩
    · rintro p (rfl | ⟨j, hj, rfl⟩)
      · exact hStart.trans (min_le_right _ _)
      · rcases List.mem_cons.mp hj with rfl | hj
        · exact hStart.trans (min_le_left _ _)
        · exact hLower (.inr ⟨j, hj, rfl⟩)

end Scan
