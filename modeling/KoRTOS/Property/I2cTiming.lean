import KoRTOS.Hal.I2cInit
import KoRTOS.Library.Dividers

/-!
# The timing of the I2C bus

The rise time and the divider that `I2C_init` programs, for every clock that RCC
can give the peripheral. The rise time is exact except where its product wraps.
The divider is rounded down, so that the bus is faster than was asked for unless
there is nothing to round.
-/

namespace KoRTOS.Hal

open RegisterBits Dividers

/-- The rise time in cycles of a clock of `f` Hz, plus one: 1000 ns, or 300 ns in fast mode. -/
def exactRiseTime (f s : Nat) : Nat :=
  if s ≤ 100000 then f / 10 ^ 6 + 1 else f * 300 / 10 ^ 9 + 1

def I2cInitReg.riseTimeField (reg : I2cInitReg) : Nat := (reg.trise.extractLsb' 0 6).toNat

theorem clkSpeed_le_sm {s : U32} : s ≤ i2cClkSpeedSm ↔ s.toNat ≤ 100000 := Iff.rfl

namespace I2cConfig

variable {config : I2cConfig} {pclk1 trise : U32}

theorem field_riseTime : (config.riseTime pclk1 trise).extractLsb' 0 6 =
    (if config.clkSpeed ≤ i2cClkSpeedSm then pclk1 / 1000000 + 1
      else pclk1 * 300 / 1000000000 + 1).setWidth 6 := by
  rw [riseTime, extract_and_mask rfl]
  split_ifs <;> exact extract_replace rfl (by decide)

end I2cConfig

theorem riseTimeField_eq (handle : I2cInitHandle) (reg : I2cInitReg) :
    (i2cInit handle reg).riseTimeField =
      if handle.config.clkSpeed.toNat ≤ 100000 then (rccGetPclk1 reg.cfgr).toNat / 10 ^ 6 + 1
      else (rccGetPclk1 reg.cfgr).toNat * 300 % 2 ^ 32 / 10 ^ 9 + 1 := by
  have hClock : (rccGetPclk1 reg.cfgr).toNat ≤ 16000000 := rccGetPclk_le _ _
  rw [I2cInitReg.riseTimeField, i2cInit, I2cConfig.field_riseTime]
  simp only [clkSpeed_le_sm]
  split_ifs
  · simp only [BitVec.toNat_setWidth, BitVec.toNat_add, BitVec.toNat_udiv,
      BitVec.ofNat_eq_ofNat, BitVec.toNat_ofNat, Nat.reducePow, Nat.reduceMod]
    omega
  · simp only [BitVec.toNat_setWidth, BitVec.toNat_add, BitVec.toNat_udiv, BitVec.toNat_mul,
      BitVec.ofNat_eq_ofNat, BitVec.toNat_ofNat, Nat.reducePow, Nat.reduceMod]
    omega

theorem riseTime_exact_iff (handle : I2cInitHandle) (reg : I2cInitReg) :
    (i2cInit handle reg).riseTimeField =
        exactRiseTime (rccGetPclk1 reg.cfgr).toNat handle.config.clkSpeed.toNat ↔
      handle.config.clkSpeed.toNat ≤ 100000 ∨ (rccGetPclk1 reg.cfgr).toNat * 300 < 2 ^ 32 := by
  have hClock : (rccGetPclk1 reg.cfgr).toNat ≤ 16000000 := rccGetPclk_le _ _
  rw [riseTimeField_eq, exactRiseTime]
  split_ifs with hStandard
  · exact iff_of_true rfl (.inl hStandard)
  · constructor
    · intro hEq
      omega
    · rintro (hLe | hFits)
      · exact absurd hLe hStandard
      · rw [Nat.mod_eq_of_lt hFits]

def fastModeHandle : I2cInitHandle := ⟨.i2c1, ⟨i2cClkSpeedFm4k, 0, i2cFmDuty2⟩⟩

def I2cInitReg.reset : I2cInitReg := ⟨0, 0, 0, 2, 0, 0⟩

theorem riseTime_not_exact : ¬ ∀ (handle : I2cInitHandle) (reg : I2cInitReg),
    1 ≤ handle.config.clkSpeed.toNat → 25 * handle.config.clkSpeed.toNat < 2 ^ 32 →
    (i2cInit handle reg).riseTimeField =
      exactRiseTime (rccGetPclk1 reg.cfgr).toNat handle.config.clkSpeed.toNat := by
  intro h
  have hEq := h fastModeHandle .reset (by decide) (by decide)
  revert hEq
  decide

namespace I2cConfig

/-- The duty setting is one of the header's. -/
def ValidDuty (config : I2cConfig) : Prop :=
  config.fmDutyCycle = i2cFmDuty2 ∨ config.fmDutyCycle = i2cFmDuty169

/-- How many cycles of the peripheral clock one unit of the divider adds to a cycle of SCL. -/
def cyclesPerUnit (config : I2cConfig) : Nat :=
  if config.clkSpeed.toNat ≤ 100000 then 2
  else if config.fmDutyCycle = i2cFmDuty169 then 25
  else 3

/-- The bits of `CCR` select the mode that is asked for. `DUTY` only counts in fast mode. -/
structure Selects (config : I2cConfig) (ccr : U32) : Prop where
  fast : ccr.getLsbD i2cCcrFs = decide (100000 < config.clkSpeed.toNat)
  duty : ccr.getLsbD i2cCcrFs = true →
    ccr.getLsbD i2cCcrDuty = decide (config.fmDutyCycle = i2cFmDuty169)

variable {config : I2cConfig} (pclk1 ccr : U32)

theorem clockMode_selects (hDuty : config.ValidDuty) :
    config.Selects (config.clockMode pclk1 ccr).1 := by
  unfold clockMode
  by_cases hLe : config.clkSpeed ≤ i2cClkSpeedSm
  · have hNot : ¬ 100000 < config.clkSpeed.toNat := Nat.not_lt.mpr (clkSpeed_le_sm.mp hLe)
    have hClear : (ccr &&& ~~~bit i2cCcrFs).getLsbD i2cCcrFs = false :=
      getLsbD_and_not_bit_self (by decide)
    rw [if_pos hLe]
    constructor
    · rw [decide_eq_false hNot]
      exact hClear
    · intro hFast
      exact absurd (hClear.symm.trans hFast) Bool.false_ne_true
  · have hFast : 100000 < config.clkSpeed.toNat := Nat.not_le.mp (mt clkSpeed_le_sm.mpr hLe)
    have hSet : (ccr ||| bit i2cCcrFs).getLsbD i2cCcrFs = true := getLsbD_or_bit_self (by decide)
    rw [if_neg hLe]
    obtain hTwo | hNine := hDuty
    · rw [hTwo, if_neg (by decide)]
      constructor
      · rw [getLsbD_and_not_bit_of_ne (by decide) (by decide), hSet, decide_eq_true hFast]
      · intro _
        rw [getLsbD_and_not_bit_self (by decide), hTwo]
        rfl
    · have hBit : (i2cFmDuty169.setWidth 8).setWidth 32 <<< i2cCcrDuty =
          (bit i2cCcrDuty : U32) := rfl
      rw [hNine, if_pos (by decide), hBit]
      constructor
      · rw [getLsbD_or_bit_of_ne (by decide) (by decide), hSet, decide_eq_true hFast]
      · intro _
        rw [getLsbD_or_bit_self (by decide), hNine]
        rfl

theorem clockMode_divider (hDuty : config.ValidDuty) (hMax : config.clkSpeed.toNat ≤ 400000) :
    (config.clockMode pclk1 ccr).2.toNat =
      pclk1.toNat / (config.cyclesPerUnit * config.clkSpeed.toNat) := by
  unfold clockMode cyclesPerUnit
  simp only [clkSpeed_le_sm]
  by_cases hLe : config.clkSpeed.toNat ≤ 100000
  · rw [if_pos hLe, if_pos hLe, BitVec.toNat_udiv, BitVec.toNat_mul]
    congr 1
    exact Nat.mod_eq_of_lt (by change 2 * _ < _; omega)
  · rw [if_neg hLe, if_neg hLe]
    obtain hTwo | hNine := hDuty
    · rw [hTwo, if_neg (by decide), if_neg (by decide), BitVec.toNat_udiv, BitVec.toNat_mul]
      congr 1
      exact Nat.mod_eq_of_lt (by change 3 * _ < _; omega)
    · rw [hNine, if_pos (by decide), if_pos rfl, BitVec.toNat_udiv, BitVec.toNat_mul]
      congr 1
      exact Nat.mod_eq_of_lt (by change 25 * _ < _; omega)

theorem clockControl_selects (hDuty : config.ValidDuty) :
    config.Selects (config.clockControl pclk1 ccr) := by
  have hMode := clockMode_selects pclk1 ccr hDuty
  have hKept : ∀ i < 32, 12 ≤ i → (config.clockControl pclk1 ccr).getLsbD i =
      (config.clockMode pclk1 ccr).1.getLsbD i := by
    intro i hi hAbove
    have hIn : i2cCcrCcr + 12 ≤ i := by rw [i2cCcrCcr]; omega
    exact getLsbD_replace_of_outside rfl (Nat.lt_succ_of_le toNat_and_le) hi (.inr hIn)
  constructor
  · rw [hKept _ (by decide) (by decide), hMode.fast]
  · rw [hKept _ (by decide) (by decide), hKept _ (by decide) (by decide)]
    exact hMode.duty

end I2cConfig

def sclCyclesPerUnit (ccr : U32) : Nat :=
  if ccr.getLsbD i2cCcrFs = false then 2
  else if ccr.getLsbD i2cCcrDuty then 25
  else 3

def ccrDivider (ccr : U32) : Nat := (ccr.extractLsb' i2cCcrCcr 12).toNat

section Divider

variable {config : I2cConfig} {pclk1 ccr : U32}

theorem I2cConfig.Selects.cyclesPerUnit (h : config.Selects ccr) :
    sclCyclesPerUnit ccr = config.cyclesPerUnit := by
  unfold sclCyclesPerUnit I2cConfig.cyclesPerUnit
  rw [h.fast]
  by_cases hLe : config.clkSpeed.toNat ≤ 100000
  · rw [if_pos hLe, if_pos (decide_eq_false (Nat.not_lt.mpr hLe))]
  · have hFast : decide (100000 < config.clkSpeed.toNat) = true :=
      decide_eq_true (Nat.not_le.mp hLe)
    rw [if_neg hLe, hFast, if_neg (by decide), h.duty (h.fast.trans hFast)]
    simp only [decide_eq_true_eq]

theorem ccrDivider_clockControl (ccr : U32) (hDuty : config.ValidDuty)
    (hMax : config.clkSpeed.toNat ≤ 400000)
    (hFits : pclk1.toNat < 4096 * (config.cyclesPerUnit * config.clkSpeed.toNat)) :
    ccrDivider (config.clockControl pclk1 ccr) =
      pclk1.toNat / (config.cyclesPerUnit * config.clkSpeed.toNat) := by
  have hDivider := config.clockMode_divider pclk1 ccr hDuty hMax
  have hLt : (config.clockMode pclk1 ccr).2.toNat < 2 ^ 12 := by
    rw [hDivider]
    exact Nat.div_lt_of_lt_mul (by rw [Nat.mul_comm]; exact hFits)
  rw [ccrDivider, I2cConfig.clockControl, i2cCcrCcr, extract_replace rfl (by decide),
    and_of_toNat_lt rfl hLt, BitVec.toNat_setWidth, Nat.mod_eq_of_lt hLt, hDivider]

end Divider

/-- What `CCR` says of the bus when a speed is asked for and the peripheral has a clock of
`f` Hz. -/
structure ClockedAtMost (config : I2cConfig) (f : Nat) (ccr : U32) : Prop where
  selects : config.Selects ccr
  divider : 1 ≤ ccrDivider ccr
  speed : (f : ℚ) / (sclCyclesPerUnit ccr * ccrDivider ccr : ℕ) ≤ config.clkSpeed.toNat

theorem clockedAtMost_iff (handle : I2cInitHandle) (reg : I2cInitReg)
    (hDuty : handle.config.ValidDuty)
    (hMax : handle.config.clkSpeed.toNat ≤ 400000)
    (hFits : (rccGetPclk1 reg.cfgr).toNat <
      4096 * (handle.config.cyclesPerUnit * handle.config.clkSpeed.toNat)) :
    ClockedAtMost handle.config (rccGetPclk1 reg.cfgr).toNat (i2cInit handle reg).ccr ↔
      handle.config.cyclesPerUnit * handle.config.clkSpeed.toNat ∣
        (rccGetPclk1 reg.cfgr).toNat := by
  have hClock : 0 < (rccGetPclk1 reg.cfgr).toNat := rccGetPclk_pos _ _
  have hSelects : handle.config.Selects (i2cInit handle reg).ccr :=
    I2cConfig.clockControl_selects _ _ hDuty
  have hDivider := ccrDivider_clockControl reg.ccr hDuty hMax hFits
  have hUnits : 0 < handle.config.cyclesPerUnit := by
    unfold I2cConfig.cyclesPerUnit
    split_ifs <;> decide
  change ccrDivider (i2cInit handle reg).ccr = _ at hDivider
  rw [← div_mul_div_le_iff hUnits hClock, ← hDivider, ← hSelects.cyclesPerUnit]
  constructor
  · intro h
    exact ⟨h.divider, h.speed⟩
  · rintro ⟨hOne, hLe⟩
    exact ⟨hSelects, hOne, hLe⟩

def standardModeHandle : I2cInitHandle := ⟨.i2c1, ⟨i2cClkSpeedSm, 0, i2cFmDuty2⟩⟩

theorem clockedAtMost_standard : ClockedAtMost standardModeHandle.config
    (rccGetPclk1 I2cInitReg.reset.cfgr).toNat (i2cInit standardModeHandle .reset).ccr :=
  (clockedAtMost_iff standardModeHandle .reset (.inl rfl) (by decide) (by decide)).mpr (by decide)

/-- The bus runs at more than 410 kHz. -/
theorem clockControl_too_fast : ¬ ∀ (handle : I2cInitHandle) (reg : I2cInitReg),
    handle.config.ValidDuty → 1 ≤ handle.config.clkSpeed.toNat →
    handle.config.clkSpeed.toNat ≤ 400000 →
    (rccGetPclk1 reg.cfgr).toNat <
      4096 * (handle.config.cyclesPerUnit * handle.config.clkSpeed.toNat) →
    ClockedAtMost handle.config (rccGetPclk1 reg.cfgr).toNat (i2cInit handle reg).ccr := by
  intro h
  have hSpeed := (h fastModeHandle .reset (.inl rfl) (by decide) (by decide) (by decide)).speed
  have hCycles : sclCyclesPerUnit (i2cInit fastModeHandle .reset).ccr *
      ccrDivider (i2cInit fastModeHandle .reset).ccr = 39 := by decide
  have hClock : (rccGetPclk1 I2cInitReg.reset.cfgr).toNat = 16000000 := by decide
  have hRequested : fastModeHandle.config.clkSpeed.toNat = 400000 := by decide
  rw [hCycles, hClock, hRequested] at hSpeed
  norm_num at hSpeed

end KoRTOS.Hal
