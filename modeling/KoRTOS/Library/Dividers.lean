import Mathlib.Algebra.Order.Field.Basic
import Mathlib.Data.Rat.Cast.Order
import Mathlib.Tactic.FieldSimp
import Mathlib.Tactic.Linarith
import Mathlib.Tactic.Ring

/-!
# Dividers

Quotients that are programmed into a divider: rounded down; or as a whole part
and a fraction of `k` parts, of which the fraction is computed from a quotient in
units of `1 / c` and rounded to the nearest part. Rounding may give `k` parts. If
they are reduced modulo `k`, the carry is lost.
-/

namespace Dividers

variable {c k f d r s u : Nat}

theorem div_mul_div_le_iff (hu : 0 < u) (hf : 0 < f) :
    1 ≤ f / (u * s) ∧ (f : ℚ) / (u * (f / (u * s)) : ℕ) ≤ s ↔ u * s ∣ f := by
  have hSame : f / (u * s) * (u * s) = s * (u * (f / (u * s))) := by ring
  rw [Nat.dvd_iff_le_div_mul, hSame]
  constructor
  · rintro ⟨hOne, hLe⟩
    have hPos : (0 : ℚ) < (u * (f / (u * s)) : ℕ) := by exact_mod_cast Nat.mul_pos hu hOne
    rw [div_le_iff₀ hPos] at hLe
    exact_mod_cast hLe
  · intro hLe
    have hOne : 1 ≤ f / (u * s) := by
      refine Nat.one_le_iff_ne_zero.mpr fun hZero => ?_
      rw [hZero, Nat.mul_zero, Nat.mul_zero] at hLe
      omega
    have hPos : (0 : ℚ) < (u * (f / (u * s)) : ℕ) := by exact_mod_cast Nat.mul_pos hu hOne
    refine ⟨hOne, ?_⟩
    rw [div_le_iff₀ hPos]
    exact_mod_cast hLe

/-- `r / c` in `k`-ths, rounded to the nearest. -/
def roundTo (k c r : Nat) : Nat := (r * k + c / 2) / c

theorem roundTo_le (hr : r < c) : roundTo k c r ≤ k := by
  have hProduct : r * k ≤ (c - 1) * k := Nat.mul_le_mul_right k (by omega)
  have hSplit : (c - 1) * k + k = k * c := by
    rw [← Nat.succ_mul, Nat.succ_eq_add_one, Nat.sub_add_cancel (by omega), Nat.mul_comm]
  refine Nat.lt_succ_iff.mp ((Nat.div_lt_iff_lt_mul (by omega)).mpr ?_)
  rw [Nat.succ_mul]
  omega

theorem roundTo_lt_iff (hc : 0 < c) : roundTo k c r < k ↔ r * k + c / 2 < k * c :=
  Nat.div_lt_iff_lt_mul hc

theorem abs_roundTo_sub_le (hc : 0 < c) : |(roundTo k c r : ℚ) - r * k / c| ≤ 1 / 2 := by
  have hcq : (0 : ℚ) < c := by exact_mod_cast hc
  have hLow : roundTo k c r * c ≤ r * k + c / 2 := Nat.div_mul_le_self _ _
  have hHigh : r * k + c / 2 < roundTo k c r * c + c := Nat.lt_div_mul_add hc
  have hHalf : 2 * (c / 2) ≤ c ∧ c ≤ 2 * (c / 2) + 1 := by omega
  have hUp : 2 * (roundTo k c r * c) ≤ 2 * (r * k) + c := by omega
  have hDown : 2 * (r * k) ≤ 2 * (roundTo k c r * c) + c := by omega
  have hUp' : 2 * ((roundTo k c r : ℚ) * c) ≤ 2 * (r * k) + c := by exact_mod_cast hUp
  have hDown' : 2 * ((r : ℚ) * k) ≤ 2 * (roundTo k c r * c) + c := by exact_mod_cast hDown
  rw [abs_le]
  constructor
  · rw [neg_le_sub_iff_le_add, div_le_iff₀ hcq]
    linarith
  · rw [sub_le_iff_le_add, ← sub_le_iff_le_add', le_div_iff₀ hcq]
    linarith

def scaled (c f d : Nat) : Nat := c * f / d

theorem scaled_eq (hd : 0 < d) : scaled c f d = c * (f / d) + c * (f % d) / d := by
  have hSplit : c * f = c * (f % d) + d * (c * (f / d)) := by
    conv_lhs => rw [← Nat.div_add_mod f d]
    ring
  rw [scaled, hSplit, Nat.add_mul_div_left _ _ hd, Nat.add_comm]

theorem scaled_rest_lt (hc : 0 < c) (hd : 0 < d) : c * (f % d) / d < c := by
  rw [Nat.div_lt_iff_lt_mul hd]
  exact Nat.mul_lt_mul_of_pos_left (Nat.mod_lt f hd) hc

theorem scaled_div (hc : 0 < c) (hd : 0 < d) : scaled c f d / c = f / d := by
  rw [scaled_eq hd, Nat.mul_add_div hc, Nat.div_eq_of_lt (scaled_rest_lt hc hd), Nat.add_zero]

theorem scaled_mod (hc : 0 < c) (hd : 0 < d) : scaled c f d % c = c * (f % d) / d := by
  rw [scaled_eq hd, Nat.mul_add_mod, Nat.mod_eq_of_lt (scaled_rest_lt hc hd)]

def fraction (k c f d : Nat) : Nat := roundTo k c (scaled c f d % c)

theorem fraction_le (hc : 0 < c) : fraction k c f d ≤ k := roundTo_le (Nat.mod_lt _ hc)

theorem fraction_lt_iff (hc : 0 < c) (hd : 0 < d) :
    fraction k c f d < k ↔ c * (f % d) / d * k + c / 2 < k * c := by
  rw [fraction, roundTo_lt_iff hc, scaled_mod hc hd]

section Error

variable (hc : 0 < c) (hd : 0 < d)

include hc hd

theorem scaled_mod_bounds :
    ((scaled c f d % c : ℕ) : ℚ) / c ≤ f / d - (f / d : ℕ) ∧
      (f : ℚ) / d - (f / d : ℕ) < ((scaled c f d % c : ℕ) : ℚ) / c + 1 / c := by
  have hcq : (0 : ℚ) < c := by exact_mod_cast hc
  have hdq : (0 : ℚ) < d := by exact_mod_cast hd
  have hRest : (f : ℚ) / d - (f / d : ℕ) = (f % d : ℕ) / d := by
    rw [sub_eq_iff_eq_add, div_add' _ _ _ hdq.ne']
    congr 1
    exact_mod_cast (Nat.mod_add_div' f d).symm
  have hLow : scaled c f d % c * d ≤ c * (f % d) := by
    rw [scaled_mod hc hd]
    exact Nat.div_mul_le_self _ _
  have hHigh : c * (f % d) < (scaled c f d % c + 1) * d := by
    rw [scaled_mod hc hd, Nat.succ_mul]
    exact Nat.lt_div_mul_add hd
  rw [hRest, ← add_div]
  constructor
  · rw [div_le_div_iff₀ hcq hdq, mul_comm ((f % d : ℕ) : ℚ)]
    exact_mod_cast hLow
  · rw [div_lt_div_iff₀ hdq hcq, mul_comm ((f % d : ℕ) : ℚ)]
    exact_mod_cast hHigh

theorem abs_sub_le (hk : 0 < k) :
    |((f / d : ℕ) : ℚ) + (fraction k c f d : ℚ) / k - f / d| ≤ 1 / (2 * k) + 1 / c := by
  have hkq : (0 : ℚ) < k := by exact_mod_cast hk
  obtain ⟨hLow, hHigh⟩ := scaled_mod_bounds hc hd (f := f)
  have hRound : |(fraction k c f d : ℚ) / k - (scaled c f d % c : ℕ) / c| ≤ 1 / (2 * k) := by
    have hParts := abs_roundTo_sub_le hc (k := k) (r := scaled c f d % c)
    have hSame : (fraction k c f d : ℚ) / k - (scaled c f d % c : ℕ) / c =
        ((fraction k c f d : ℚ) - (scaled c f d % c : ℕ) * k / c) / k := by
      field_simp
    rw [hSame, abs_div, abs_of_pos hkq, div_le_iff₀ hkq]
    exact hParts.trans_eq (by field_simp)
  have hFloor : |(f : ℚ) / d - (f / d : ℕ) - (scaled c f d % c : ℕ) / c| ≤ 1 / c := by
    rw [abs_of_nonneg (by linarith)]
    linarith
  calc |((f / d : ℕ) : ℚ) + (fraction k c f d : ℚ) / k - f / d|
      = |((fraction k c f d : ℚ) / k - (scaled c f d % c : ℕ) / c) -
          ((f : ℚ) / d - (f / d : ℕ) - (scaled c f d % c : ℕ) / c)| := by congr 1; ring
    _ ≤ 1 / (2 * k) + 1 / c := (abs_sub _ _).trans (add_le_add hRound hFloor)

theorem lt_abs_sub (hk : 0 < k) (hSmall : (1 : ℚ) / k + 1 / c < 1)
    (hCarry : fraction k c f d = k) :
    1 / (2 * k) + 1 / c < |((f / d : ℕ) : ℚ) - f / d| := by
  have hcq : (0 : ℚ) < c := by exact_mod_cast hc
  have hkq : (0 : ℚ) < k := by exact_mod_cast hk
  have hReached : k * c ≤ scaled c f d % c * k + c / 2 :=
    Nat.not_lt.mp (mt (roundTo_lt_iff hc).mpr (Nat.not_lt_of_le hCarry.ge))
  have hTwice : 2 * (k * c) ≤ 2 * (scaled c f d % c * k) + c := by omega
  have hRest : 1 - 1 / (2 * k) ≤ ((scaled c f d % c : ℕ) : ℚ) / c := by
    have hTwice' : 2 * ((k : ℚ) * c) ≤ 2 * ((scaled c f d % c : ℕ) * k) + c := by
      exact_mod_cast hTwice
    rw [le_div_iff₀ hcq]
    have hSame : (1 - 1 / (2 * k : ℚ)) * c = (2 * (k * c) - c) / (2 * k) := by
      field_simp
    rw [hSame, div_le_iff₀ (by linarith)]
    linarith
  obtain ⟨hLow, _⟩ := scaled_mod_bounds hc hd (f := f)
  have hHalf : (1 : ℚ) / k = 1 / (2 * k) + 1 / (2 * k) := by
    field_simp
    norm_num
  rw [abs_sub_comm]
  exact lt_of_lt_of_le (by linarith) (le_abs_self _)

/-- The fraction that is programmed modulo `k` is as good as the roundings allow just if it was
smaller than `k`. -/
theorem abs_mod_sub_le_iff (hk : 0 < k) (hSmall : (1 : ℚ) / k + 1 / c < 1) :
    |((f / d : ℕ) : ℚ) + ((fraction k c f d % k : ℕ) : ℚ) / k - f / d| ≤ 1 / (2 * k) + 1 / c ↔
      fraction k c f d < k := by
  obtain hLt | hEq := Nat.lt_or_eq_of_le (fraction_le hc (k := k) (f := f) (d := d))
  · rw [Nat.mod_eq_of_lt hLt]
    exact iff_of_true (abs_sub_le hc hd hk) hLt
  · have hShort := lt_abs_sub hc hd hk hSmall hEq
    rw [hEq, Nat.mod_self, Nat.cast_zero, zero_div, add_zero]
    exact iff_of_false (not_le_of_gt hShort) (Nat.lt_irrefl k)

end Error

end Dividers
