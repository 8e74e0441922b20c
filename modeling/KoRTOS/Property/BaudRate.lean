import KoRTOS.Hal.UsartInit
import KoRTOS.Library.Dividers

/-!
# The baud rate divider

`BRR` holds a clock divided by a baud rate, with a fraction in sixteenths or
eighths. It is computed in hundredths and nothing wraps. But a fraction that is
rounded up to a whole is dropped.
-/

namespace KoRTOS.Hal

open RegisterBits Dividers

def oversampling (over8 : Bool) : Nat := if over8 then 8 else 16

/-- What `BRR` divides the clock by, as the hardware reads it. -/
def brrValue (over8 : Bool) (brr : U32) : ℚ :=
  (brr.extractLsb' 4 12).toNat + ((brr.extractLsb' 0 4).toNat : ℚ) / oversampling over8

/-- No operation of the computation wraps. -/
structure NoWrap (over8 : Bool) (pclkx baud : U32) : Prop where
  scaled : (100 * pclkx).toNat = 100 * pclkx.toNat
  divisor : (if over8 then 8 * baud else 16 * baud).toNat = oversampling over8 * baud.toNat
  mantissa : (brrMantissa (usartdiv over8 pclkx baud) <<< 4).toNat =
    (brrMantissa (usartdiv over8 pclkx baud)).toNat * 2 ^ 4
  fraction : (if over8 then usartdiv over8 pclkx baud % 100 * 8 + 50
      else usartdiv over8 pclkx baud % 100 * 16 + 50).toNat =
    (usartdiv over8 pclkx baud % 100).toNat * oversampling over8 + 50

section Divider

variable {over8 : Bool} {pclkx baud : U32}

theorem toNat_scale (hClock : pclkx.toNat ≤ 16000000) :
    (100 * pclkx).toNat = 100 * pclkx.toNat := by
  rw [BitVec.toNat_mul]
  exact Nat.mod_eq_of_lt (by change 100 * _ < _; omega)

theorem toNat_divisor (hBaud : oversampling over8 * baud.toNat < 2 ^ 32) :
    (if over8 then 8 * baud else 16 * baud).toNat = oversampling over8 * baud.toNat := by
  cases over8 with
  | false =>
    rw [if_neg Bool.false_ne_true, BitVec.toNat_mul]
    exact Nat.mod_eq_of_lt hBaud
  | true =>
    rw [if_pos rfl, BitVec.toNat_mul]
    exact Nat.mod_eq_of_lt hBaud

theorem toNat_usartdiv (hClock : pclkx.toNat ≤ 16000000)
    (hBaud : oversampling over8 * baud.toNat < 2 ^ 32) :
    (usartdiv over8 pclkx baud).toNat = scaled 100 pclkx.toNat (oversampling over8 * baud.toNat) := by
  have hSplit : usartdiv over8 pclkx baud =
      100 * pclkx / (if over8 then 8 * baud else 16 * baud) := by
    cases over8 <;> rfl
  rw [hSplit, BitVec.toNat_udiv, toNat_scale hClock, toNat_divisor hBaud]
  rfl

theorem toNat_parts (u k : U32) (hk : k.toNat ≤ 16) :
    (u % 100 * k + 50).toNat = u.toNat % 100 * k.toNat + 50 := by
  have hRest : u.toNat % 100 ≤ 99 := Nat.le_of_lt_succ (Nat.mod_lt _ (by decide))
  have hProduct : u.toNat % 100 * k.toNat ≤ 99 * 16 := Nat.mul_le_mul hRest hk
  have hMod : (u % 100).toNat = u.toNat % 100 := BitVec.toNat_umod
  have hMul : (u % 100 * k).toNat = u.toNat % 100 * k.toNat := by
    rw [BitVec.toNat_mul, hMod, Nat.mod_eq_of_lt (by omega)]
  rw [BitVec.toNat_add, hMul]
  exact Nat.mod_eq_of_lt (by change _ + 50 < _; omega)

theorem toNat_brrFraction (u : U32) : (brrFraction over8 u).toNat =
    roundTo (oversampling over8) 100 (u.toNat % 100) % oversampling over8 := by
  cases over8 with
  | false =>
    change ((u % 100 * 16 + 50) / 100 &&& 0x0F).toNat = _
    rw [BitVec.toNat_and, BitVec.toNat_udiv, toNat_parts u 16 (by decide)]
    exact Nat.and_two_pow_sub_one_eq_mod _ 4
  | true =>
    change ((u % 100 * 8 + 50) / 100 &&& 0x07).toNat = _
    rw [BitVec.toNat_and, BitVec.toNat_udiv, toNat_parts u 8 (by decide)]
    exact Nat.and_two_pow_sub_one_eq_mod _ 3

theorem brrValue_eq {m f : U32} (hm : m.toNat < 2 ^ 12) (hf : f.toNat < 2 ^ 4) :
    brrValue over8 (m <<< 4 ||| f) = m.toNat + (f.toNat : ℚ) / oversampling over8 := by
  have hSum : (m <<< 4 ||| f).toNat = m.toNat * 2 ^ 4 + f.toNat := by
    rw [BitVec.toNat_or, BitVec.toNat_shiftLeft, Nat.mod_eq_of_lt (by rw [Nat.shiftLeft_eq]; omega),
      ← Nat.shiftLeft_add_eq_or_of_lt hf, Nat.shiftLeft_eq]
  have hMantissa : ((m <<< 4 ||| f).extractLsb' 4 12).toNat = m.toNat := by
    rw [BitVec.extractLsb'_toNat, hSum, Nat.shiftRight_eq_div_pow]
    omega
  have hFraction : ((m <<< 4 ||| f).extractLsb' 0 4).toNat = f.toNat := by
    rw [BitVec.extractLsb'_toNat, hSum, Nat.shiftRight_zero]
    omega
  rw [brrValue, hMantissa, hFraction]

end Divider

theorem fraction_lt_oversampling_iff {over8 : Bool} {pclkx baud : U32}
    (hPos : 0 < oversampling over8 * baud.toNat) :
    fraction (oversampling over8) 100 pclkx.toNat (oversampling over8 * baud.toNat) <
        oversampling over8 ↔
      100 * (pclkx.toNat % (oversampling over8 * baud.toNat)) <
        (if over8 then 94 else 97) * (oversampling over8 * baud.toNat) := by
  refine (fraction_lt_iff (by decide) hPos).trans (Iff.trans ?_ (Nat.div_lt_iff_lt_mul hPos))
  cases over8 with
  | false =>
    change _ * 16 + 50 < 16 * 100 ↔ _ < 97
    omega
  | true =>
    change _ * 8 + 50 < 8 * 100 ↔ _ < 94
    omega

section Accuracy

variable {over8 : Bool} {pclkx baud : U32} (hClock : pclkx.toNat ≤ 16000000)
  (hLow : oversampling over8 * baud.toNat ≤ pclkx.toNat)
  (hHigh : pclkx.toNat < 4096 * (oversampling over8 * baud.toNat))

include hClock hLow hHigh

theorem toNat_mantissa : (brrMantissa (usartdiv over8 pclkx baud)).toNat =
    pclkx.toNat / (oversampling over8 * baud.toNat) := by
  rw [brrMantissa, BitVec.toNat_udiv, toNat_usartdiv hClock (by omega)]
  exact scaled_div (by decide) (by omega)

theorem mantissa_lt : (brrMantissa (usartdiv over8 pclkx baud)).toNat < 2 ^ 12 := by
  rw [toNat_mantissa hClock hLow hHigh]
  exact Nat.div_lt_of_lt_mul (by rw [Nat.mul_comm]; exact hHigh)

theorem noWrap : NoWrap over8 pclkx baud := by
  have hMantissa := mantissa_lt hClock hLow hHigh
  constructor
  · exact toNat_scale hClock
  · exact toNat_divisor (by omega)
  · rw [BitVec.toNat_shiftLeft, Nat.shiftLeft_eq]
    exact Nat.mod_eq_of_lt (by omega)
  · have hMod : (usartdiv over8 pclkx baud % 100).toNat =
        (usartdiv over8 pclkx baud).toNat % 100 := BitVec.toNat_umod
    rw [hMod]
    cases over8 with
    | false => exact toNat_parts _ 16 (by decide)
    | true => exact toNat_parts _ 8 (by decide)

theorem brrValue_brrVal : brrValue over8 (brrVal over8 pclkx baud) =
    (pclkx.toNat / (oversampling over8 * baud.toNat) : ℕ) +
      ((fraction (oversampling over8) 100 pclkx.toNat (oversampling over8 * baud.toNat) %
        oversampling over8 : ℕ) : ℚ) / oversampling over8 := by
  have hFraction : (brrFraction over8 (usartdiv over8 pclkx baud)).toNat =
      fraction (oversampling over8) 100 pclkx.toNat (oversampling over8 * baud.toNat) %
        oversampling over8 := by
    rw [toNat_brrFraction, toNat_usartdiv hClock (by omega), fraction]
  rw [← toNat_mantissa hClock hLow hHigh, ← hFraction]
  apply brrValue_eq (mantissa_lt hClock hLow hHigh)
  rw [hFraction]
  refine (Nat.mod_lt _ ?_).trans_le ?_ <;> cases over8 <;> decide

/-- Nothing wraps, and `BRR` is as close to the exact quotient as the two roundings allow. -/
structure BaudAccurate (over8 : Bool) (pclkx baud brr : U32) : Prop where
  noWrap : NoWrap over8 pclkx baud
  error : |brrValue over8 brr - (pclkx.toNat : ℚ) / (oversampling over8 * baud.toNat : ℕ)| ≤
    1 / (2 * oversampling over8) + 1 / 100

theorem brrVal_accurate_iff : BaudAccurate over8 pclkx baud (brrVal over8 pclkx baud) ↔
    100 * (pclkx.toNat % (oversampling over8 * baud.toNat)) <
      (if over8 then 94 else 97) * (oversampling over8 * baud.toNat) := by
  have hUnits : 0 < oversampling over8 := by cases over8 <;> decide
  have hSmall : (1 : ℚ) / oversampling over8 + 1 / (100 : ℕ) < 1 := by
    cases over8 <;> norm_num [oversampling]
  rw [← fraction_lt_oversampling_iff (by omega),
    ← abs_mod_sub_le_iff (by decide) (by omega) hUnits hSmall,
    ← brrValue_brrVal hClock hLow hHigh]
  constructor
  · intro h
    exact h.error
  · intro hError
    exact ⟨noWrap hClock hLow hHigh, hError⟩

end Accuracy

def UsartInitReg.over8 (reg : UsartInitReg) : Bool := reg.cr1.getLsbD usartCr1Over8

theorem usartPclk_eq (usartx : UsartPeripheral) (cfgr : U32) :
    ∃ n ≤ 14, (usartPclk usartx cfgr).toNat = 16000000 / 2 ^ n := by
  cases usartx <;> exact rccGetPclk_eq _ _

theorem usartPclk_le (usartx : UsartPeripheral) (cfgr : U32) :
    (usartPclk usartx cfgr).toNat ≤ 16000000 := by
  obtain ⟨n, _, hClock⟩ := usartPclk_eq usartx cfgr
  rw [hClock]
  exact Nat.div_le_self _ _

theorem over8_usartInit (usartx : UsartPeripheral) (config : UsartInitConfig)
    (reg : UsartInitReg) : (usartInit usartx config reg).over8 = reg.over8 := by
  have hSet : ∀ {x : U32} {i : Nat}, i ≠ usartCr1Over8 →
      (x ||| bit i).getLsbD usartCr1Over8 = x.getLsbD usartCr1Over8 := fun hNe =>
    getLsbD_or_bit_of_ne (by decide) hNe.symm
  have hClear : ∀ {x : U32} {i : Nat}, i ≠ usartCr1Over8 →
      (x &&& ~~~bit i).getLsbD usartCr1Over8 = x.getLsbD usartCr1Over8 := fun hNe =>
    getLsbD_and_not_bit_of_ne (by decide) hNe.symm
  change (config.setParity (config.setWordLen (config.setMode reg.cr1))).getLsbD _ = _
  have hMode : (config.setMode reg.cr1).getLsbD usartCr1Over8 = reg.over8 := by
    unfold UsartInitConfig.setMode
    split_ifs
    · exact hSet (by decide)
    · exact hSet (by decide)
    · rw [← BitVec.or_assoc, hSet (by decide)]
      exact hSet (by decide)
    · rfl
  have hWordLen : ∀ x, (config.setWordLen x).getLsbD usartCr1Over8 =
      x.getLsbD usartCr1Over8 := by
    intro x
    unfold UsartInitConfig.setWordLen
    split_ifs
    · exact hClear (by decide)
    · exact hSet (by decide)
    · rfl
  have hParity : ∀ x, (config.setParity x).getLsbD usartCr1Over8 =
      x.getLsbD usartCr1Over8 := by
    intro x
    unfold UsartInitConfig.setParity
    split_ifs
    · exact hClear (by decide)
    · exact (hClear (by decide)).trans (hSet (by decide))
    · exact (hSet (by decide)).trans (hSet (by decide))
    · exact hSet (by decide)
  rw [hParity, hWordLen, hMode]
theorem baudAccurate_iff (usartx : UsartPeripheral) (config : UsartInitConfig) (reg : UsartInitReg)
    (hLow : oversampling reg.over8 * config.baud.toNat ≤ (usartPclk usartx reg.cfgr).toNat)
    (hHigh : (usartPclk usartx reg.cfgr).toNat <
      4096 * (oversampling reg.over8 * config.baud.toNat)) :
    BaudAccurate reg.over8 (usartPclk usartx reg.cfgr) config.baud
        (usartInit usartx config reg).brr ↔
      100 * ((usartPclk usartx reg.cfgr).toNat % (oversampling reg.over8 * config.baud.toNat)) <
        (if reg.over8 then 94 else 97) * (oversampling reg.over8 * config.baud.toNat) := by
  rw [← over8_usartInit usartx config reg] at hLow hHigh ⊢
  exact brrVal_accurate_iff (usartPclk_le usartx reg.cfgr) hLow hHigh

theorem baudAccurate_reset : BaudAccurate false (usartPclk .usart2 0) 115200
    (usartInit .usart2 (.plain 115200 usartStopBits1) .reset).brr :=
  (baudAccurate_iff .usart2 (.plain 115200 usartStopBits1) .reset (by decide) (by decide)).mpr
    (by decide)

/-- 16 MHz over 16 and 251000 is 3.98, and `BRR` becomes 3. -/
theorem brr_not_accurate : ¬ ∀ (usartx : UsartPeripheral) (config : UsartInitConfig)
    (reg : UsartInitReg),
    oversampling reg.over8 * config.baud.toNat ≤ (usartPclk usartx reg.cfgr).toNat →
    (usartPclk usartx reg.cfgr).toNat < 4096 * (oversampling reg.over8 * config.baud.toNat) →
    BaudAccurate reg.over8 (usartPclk usartx reg.cfgr) config.baud
      (usartInit usartx config reg).brr := by
  intro h
  have hError := (h .usart2 (.plain 251000 usartStopBits1) .reset (by decide) (by decide)).error
  have hOver8 : UsartInitReg.reset.over8 = false := by decide
  have hValue : brrValue false (usartInit .usart2 (.plain 251000 usartStopBits1) .reset).brr =
      3 := by
    have hBrr : (usartInit .usart2 (.plain 251000 usartStopBits1) .reset).brr =
        3#32 <<< 4 ||| 0#32 := by decide
    rw [hBrr, brrValue_eq (by decide) (by decide)]
    norm_num
  have hClock : (usartPclk .usart2 UsartInitReg.reset.cfgr).toNat = 16000000 := by decide
  have hDivisor : oversampling false * (UsartInitConfig.plain 251000 usartStopBits1).baud.toNat =
      4016000 := by decide
  rw [hOver8, hValue, hClock, hDivisor, abs_le] at hError
  norm_num [oversampling] at hError

theorem standard_baud_accurate (usartx : UsartPeripheral) (config : UsartInitConfig)
    (reg : UsartInitReg) (hStd : config.baud ∈ usartStdBauds)
    (hLow : oversampling reg.over8 * config.baud.toNat ≤ (usartPclk usartx reg.cfgr).toNat)
    (hHigh : (usartPclk usartx reg.cfgr).toNat <
      4096 * (oversampling reg.over8 * config.baud.toNat)) :
    BaudAccurate reg.over8 (usartPclk usartx reg.cfgr) config.baud
      (usartInit usartx config reg).brr := by
  have hRates : ∀ over8 : Bool, ∀ b ∈ usartStdBauds.map BitVec.toNat, ∀ n ≤ 14,
      oversampling over8 * b ≤ 16000000 >>> n →
      100 * (16000000 >>> n % (oversampling over8 * b)) <
        (if over8 then 94 else 97) * (oversampling over8 * b) := by decide +kernel
  obtain ⟨n, hn, hClock⟩ := usartPclk_eq usartx reg.cfgr
  rw [← over8_usartInit usartx config reg] at hLow hHigh ⊢
  refine (brrVal_accurate_iff (usartPclk_le usartx reg.cfgr) hLow hHigh).mpr ?_
  rw [hClock, ← Nat.shiftRight_eq_div_pow] at hLow ⊢
  exact hRates _ _ (List.mem_map_of_mem hStd) n hn hLow

end KoRTOS.Hal
