import Mathlib.Data.BitVec

/-!
# Bits of device registers

Tests and updates of single bits, and registers in which a one that is written
does not stay: it sets or clears the bit it is written to. Such a register is
updated by writing the one alone; reading it first and writing the sum changes
every bit that was read as one.
-/

namespace RegisterBits

variable {w : Nat} {x y : BitVec w} {i j : Nat}

def bit (i : Nat) : BitVec w := 1#w <<< i

theorem getLsbD_bit : (bit i : BitVec w).getLsbD j = (decide (j = i) && decide (j < w)) := by
  rw [bit, BitVec.getLsbD_shiftLeft]
  by_cases hEq : j = i
  · subst hEq
    simp only [Nat.lt_irrefl, Nat.sub_self, BitVec.getLsbD_one]
    cases w <;> simp
  · by_cases hLt : j < i
    · simp [hLt, hEq]
    · have hPos : j - i ≠ 0 := by omega
      simp [hEq, hPos]

theorem getLsbD_or_bit (hj : j < w) :
    (x ||| bit i).getLsbD j = (x.getLsbD j || decide (j = i)) := by
  rw [BitVec.getLsbD_or, getLsbD_bit, decide_eq_true hj, Bool.and_true]

theorem getLsbD_and_not_bit (hj : j < w) :
    (x &&& ~~~bit i).getLsbD j = (x.getLsbD j && !decide (j = i)) := by
  rw [BitVec.getLsbD_and, BitVec.getLsbD_not, getLsbD_bit, decide_eq_true hj, Bool.and_true,
    Bool.true_and]

theorem getLsbD_and_not_bit_of_ne (hj : j < w) (h : j ≠ i) :
    (x &&& ~~~bit i).getLsbD j = x.getLsbD j := by
  rw [getLsbD_and_not_bit hj, decide_eq_false h, Bool.not_false, Bool.and_true]

theorem getLsbD_or_bit_self (hi : i < w) : (x ||| bit i).getLsbD i = true := by
  rw [getLsbD_or_bit hi, decide_eq_true rfl, Bool.or_true]

theorem getLsbD_or_bit_of_ne (hj : j < w) (h : j ≠ i) :
    (x ||| bit i).getLsbD j = x.getLsbD j := by
  rw [getLsbD_or_bit hj, decide_eq_false h, Bool.or_false]

theorem getLsbD_and_not_bit_self (hi : i < w) : (x &&& ~~~bit i).getLsbD i = false := by
  rw [getLsbD_and_not_bit hi, decide_eq_true rfl, Bool.not_true, Bool.and_false]

def withBit (i : Nat) (b : Bool) (x : BitVec w) : BitVec w :=
  if b then x ||| bit i else x &&& ~~~bit i

theorem getLsbD_withBit_self {b : Bool} (hi : i < w) : (withBit i b x).getLsbD i = b := by
  cases b
  · exact getLsbD_and_not_bit_self hi
  · exact getLsbD_or_bit_self hi

theorem getLsbD_withBit_of_ne {b : Bool} (hj : j < w) (h : j ≠ i) :
    (withBit i b x).getLsbD j = x.getLsbD j := by
  cases b
  · exact getLsbD_and_not_bit_of_ne hj h
  · exact getLsbD_or_bit_of_ne hj h

theorem and_bit_ne_zero (hi : i < w) : x &&& bit i ≠ 0#w ↔ x.getLsbD i = true := by
  constructor
  · intro hNe
    by_contra hClear
    refine hNe (BitVec.eq_of_getLsbD_eq fun j _ => ?_)
    rw [BitVec.getLsbD_and, getLsbD_bit, BitVec.getLsbD_zero]
    by_cases hEq : j = i
    · subst hEq
      simp [hClear]
    · simp [hEq]
  · intro hSet hZero
    have hBit : (x &&& bit i).getLsbD i = false := by
      rw [hZero]
      exact BitVec.getLsbD_zero
    rw [BitVec.getLsbD_and, getLsbD_bit, hSet, decide_eq_true hi, decide_eq_true rfl] at hBit
    cases hBit

theorem and_bit_eq_zero (hi : i < w) : x &&& bit i = 0#w ↔ x.getLsbD i = false := by
  rw [← not_iff_not, Bool.not_eq_false]
  exact and_bit_ne_zero hi

section Fields

variable {m low : BitVec w} {p k n : Nat}

theorem getLsbD_of_toNat_lt (h : m.toNat < 2 ^ n) (hj : n ≤ j) : m.getLsbD j = false :=
  Nat.testBit_lt_two_pow (h.trans_le (Nat.pow_le_pow_right (by decide) hj))

theorem toNat_and_le : (x &&& y).toNat ≤ y.toNat := by
  rw [BitVec.toNat_and]
  exact Nat.and_le_right

theorem field_eq : (x &&& m <<< p) >>> p = x >>> p &&& m := by
  apply BitVec.eq_of_getLsbD_eq
  intro i _
  simp only [BitVec.getLsbD_ushiftRight, BitVec.getLsbD_and, BitVec.getLsbD_shiftLeft]
  have hNot : ¬ p + i < p := Nat.not_lt.mpr (Nat.le_add_right p i)
  by_cases hIn : p + i < w
  · simp [hIn, hNot]
  · simp [BitVec.getLsbD_of_ge _ _ (Nat.le_of_not_lt hIn)]

theorem shiftLeft_field (h : m.toNat < 2 ^ (w - p)) : (x <<< p) >>> p &&& m = x &&& m := by
  apply BitVec.eq_of_getLsbD_eq
  intro i _
  simp only [BitVec.getLsbD_ushiftRight, BitVec.getLsbD_and, BitVec.getLsbD_shiftLeft]
  have hNot : ¬ p + i < p := Nat.not_lt.mpr (Nat.le_add_right p i)
  by_cases hIn : p + i < w
  · simp [hIn, hNot]
  · rw [getLsbD_of_toNat_lt h (by omega), Bool.and_false, Bool.and_false]

theorem shiftLeft_above (h : m.toNat < 2 ^ (k - p)) : (x <<< k) >>> p &&& m = 0#w := by
  apply BitVec.eq_of_getLsbD_eq
  intro i _
  simp only [BitVec.getLsbD_ushiftRight, BitVec.getLsbD_and, BitVec.getLsbD_shiftLeft,
    BitVec.getLsbD_zero]
  by_cases hIn : p + i < k
  · simp [hIn]
  · rw [getLsbD_of_toNat_lt h (by omega), Bool.and_false]

theorem and_of_toNat_lt (hm : m.toNat = 2 ^ n - 1) (h : x.toNat < 2 ^ n) : x &&& m = x := by
  apply BitVec.eq_of_toNat_eq
  rw [BitVec.toNat_and, hm]
  exact Nat.and_two_pow_sub_one_of_lt_two_pow h

theorem getLsbD_mask (hm : m.toNat = 2 ^ n - 1) : m.getLsbD j = decide (j < n) := by
  rw [BitVec.getLsbD, hm, Nat.testBit_two_pow_sub_one]

theorem extract_and_mask (hm : m.toNat = 2 ^ n - 1) :
    (x &&& m).extractLsb' 0 n = x.extractLsb' 0 n := by
  apply BitVec.eq_of_getLsbD_eq
  intro i hi
  simp [getLsbD_mask hm, hi]

/-- The bits of `x` under `m << p` are cleared, then those of `v << p` are set. -/
def replace (m : BitVec w) (p : Nat) (v x : BitVec w) : BitVec w := x &&& ~~~(m <<< p) ||| v <<< p

section Replace

variable {v : BitVec w} (hm : m.toNat = 2 ^ n - 1)

include hm

theorem getLsbD_replace (hj : j < w) : (replace m p v x).getLsbD j =
    (x.getLsbD j && !(decide (p ≤ j) && decide (j < p + n)) ||
      decide (p ≤ j) && v.getLsbD (j - p)) := by
  simp only [replace, BitVec.getLsbD_or, BitVec.getLsbD_and, BitVec.getLsbD_not,
    BitVec.getLsbD_shiftLeft, getLsbD_mask hm, decide_eq_true hj, Bool.true_and]
  obtain hLt | hLe := Nat.lt_or_ge j p
  · simp [hLt, Nat.not_le.mpr hLt]
  · have hIn : j - p < n ↔ j < p + n := by omega
    simp [hLe, Nat.not_lt.mpr hLe, hIn]

theorem extract_replace (hp : p + n ≤ w) :
    (replace m p v x).extractLsb' p n = v.setWidth n := by
  apply BitVec.eq_of_getLsbD_eq
  intro i hi
  rw [BitVec.getLsbD_extractLsb', BitVec.getLsbD_setWidth, getLsbD_replace hm (by omega)]
  have hIn : p + i < p + n := by omega
  simp [hIn, hi]

theorem getLsbD_replace_of_outside (hv : v.toNat < 2 ^ n) (hj : j < w) (h : j < p ∨ p + n ≤ j) :
    (replace m p v x).getLsbD j = x.getLsbD j := by
  rw [getLsbD_replace hm hj]
  obtain hBefore | hAfter := h
  · simp [Nat.not_le.mpr hBefore]
  · rw [getLsbD_of_toNat_lt hv (by omega)]
    simp [Nat.not_lt.mpr hAfter]

theorem extract_replace_of_disjoint {q l : Nat} (hv : v.toNat < 2 ^ n) (hq : q + l ≤ w)
    (h : q + l ≤ p ∨ p + n ≤ q) : (replace m p v x).extractLsb' q l = x.extractLsb' q l := by
  apply BitVec.eq_of_getLsbD_eq
  intro i hi
  rw [BitVec.getLsbD_extractLsb', BitVec.getLsbD_extractLsb',
    getLsbD_replace_of_outside hm hv (by omega) (by omega)]

theorem extract_replace_of_ne (hv : v.toNat < 2 ^ n) (hj : n * j + n ≤ w) (h : i ≠ j) :
    (replace m (n * i) v x).extractLsb' (n * j) n = x.extractLsb' (n * j) n := by
  apply extract_replace_of_disjoint hm hv hj
  obtain hLt | hGt := Nat.lt_or_gt_of_ne h
  · exact .inr (Nat.mul_le_mul_left n hLt)
  · exact .inl (Nat.mul_le_mul_left n hGt)

end Replace

theorem and_not_eq_replace : x &&& ~~~(m <<< p) = replace m p 0#w x := by
  rw [replace, BitVec.zero_shiftLeft, BitVec.or_zero]

section SetOnly

variable {v : BitVec w}

theorem extract_or_shiftLeft (hp : p + n ≤ w) :
    (x ||| v <<< p).extractLsb' p n = x.extractLsb' p n ||| v.setWidth n := by
  apply BitVec.eq_of_getLsbD_eq
  intro i hi
  have hNot : ¬ p + i < p := Nat.not_lt.mpr (Nat.le_add_right p i)
  rw [BitVec.getLsbD_extractLsb', BitVec.getLsbD_or, BitVec.getLsbD_or, BitVec.getLsbD_extractLsb',
    BitVec.getLsbD_shiftLeft, BitVec.getLsbD_setWidth, decide_eq_true (show p + i < w by omega),
    decide_eq_false hNot, Nat.add_sub_cancel_left, ← Bool.and_or_distrib_left]
  simp [hi]

theorem extract_or_shiftLeft_of_ne (hv : v.toNat < 2 ^ n) (h : i ≠ j) :
    (x ||| v <<< (n * i)).extractLsb' (n * j) n = x.extractLsb' (n * j) n := by
  apply BitVec.eq_of_getLsbD_eq
  intro k hk
  have hOut : n * j + k < n * i ∨ n ≤ n * j + k - n * i := by
    obtain hLt | hGt := Nat.lt_or_gt_of_ne h
    · have hAfter : n * (i + 1) ≤ n * j := Nat.mul_le_mul_left n hLt
      rw [Nat.mul_succ] at hAfter
      omega
    · have hBefore : n * (j + 1) ≤ n * i := Nat.mul_le_mul_left n hGt
      rw [Nat.mul_succ] at hBefore
      omega
  rw [BitVec.getLsbD_extractLsb', BitVec.getLsbD_extractLsb', BitVec.getLsbD_or,
    BitVec.getLsbD_shiftLeft]
  obtain hBefore | hAfter := hOut
  · simp [hBefore]
  · rw [getLsbD_of_toNat_lt hv hAfter, Bool.and_false, Bool.or_false]

end SetOnly

end Fields

/-- A register in which ones that are written set bits. -/
def writeOneToSet (register value : BitVec w) : BitVec w := register ||| value

/-- A register in which ones that are written clear bits. -/
def writeOneToClear (register value : BitVec w) : BitVec w := register &&& ~~~value

theorem getLsbD_writeOneToClear (hj : j < w) :
    (writeOneToClear x y).getLsbD j = (x.getLsbD j && !y.getLsbD j) := by
  rw [writeOneToClear, BitVec.getLsbD_and, BitVec.getLsbD_not, decide_eq_true hj, Bool.true_and]

theorem getLsbD_writeOneToSet_readback (hj : j < w) :
    (writeOneToSet x (x ||| bit i)).getLsbD j = (x.getLsbD j || decide (j = i)) := by
  rw [writeOneToSet, BitVec.getLsbD_or, getLsbD_or_bit hj, ← Bool.or_assoc, Bool.or_self]

/-- Clearing a bit through what was read clears the whole register. -/
theorem writeOneToClear_readback : writeOneToClear x (x ||| y) = 0#w := by
  apply BitVec.eq_of_getLsbD_eq
  intro j hj
  rw [getLsbD_writeOneToClear hj, BitVec.getLsbD_or, BitVec.getLsbD_zero]
  cases x.getLsbD j <;> simp

end RegisterBits
