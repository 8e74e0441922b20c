import Mathlib.Tactic.Positivity
import KoRTOS.Kernel.Types
import KoRTOS.Library.RegisterBits

/-!
# The clock tree

`RCC_get_pclk1` and `RCC_get_pclk2`, which compute the clock of a peripheral bus
from what `CFGR` holds.
-/

namespace KoRTOS.Hal

open RegisterBits

def possiblePscals : List U32 := [2, 4, 8, 16, 64, 128, 256, 512]

def systemClk (cfgr : U32) : U32 :=
  let clkSrc := cfgr >>> 2 &&& 0b11
  if clkSrc = 0 then 16000000
  else if clkSrc = 1 then 8000000
  else 16000000

def ahbPscal (cfgr : U32) : U32 :=
  let hpre := cfgr >>> 4 &&& 0b1111
  if hpre < 8 then 1 else possiblePscals.getD (hpre - 8).toNat 0

/-- `PPRE1` and `PPRE2` differ in their position only. -/
def apbPscal (pos : Nat) (cfgr : U32) : U32 :=
  let ppre := cfgr >>> pos &&& 0b111
  if ppre < 4 then 1 else possiblePscals.getD (ppre - 4).toNat 0

/-- The body the two functions share. -/
def rccGetPclk (pos : Nat) (cfgr : U32) : U32 := systemClk cfgr / ahbPscal cfgr / apbPscal pos cfgr

def rccGetPclk1 (cfgr : U32) : U32 := rccGetPclk 10 cfgr

def rccGetPclk2 (cfgr : U32) : U32 := rccGetPclk 13 cfgr

section Clocks

variable (pos : Nat) (cfgr : U32)

theorem systemClk_eq : systemClk cfgr = 16000000 ∨ systemClk cfgr = 8000000 := by
  unfold systemClk
  dsimp only
  split_ifs
  · exact .inl rfl
  · exact .inr rfl
  · exact .inl rfl

theorem ahbPscal_eq : ∃ a ≤ 9, (ahbPscal cfgr).toNat = 2 ^ a := by
  have hTable : ∀ i < 8, ∃ a ≤ 9, (possiblePscals.getD i 0).toNat = 2 ^ a := by decide
  unfold ahbPscal
  dsimp only
  have hField := toNat_and_le (x := cfgr >>> 4) (y := 0b1111)
  split_ifs with hLt
  · exact ⟨0, by decide, rfl⟩
  · apply hTable
    bv_omega

theorem apbPscal_eq : ∃ a ≤ 4, (apbPscal pos cfgr).toNat = 2 ^ a := by
  have hTable : ∀ i < 4, ∃ a ≤ 4, (possiblePscals.getD i 0).toNat = 2 ^ a := by decide
  unfold apbPscal
  dsimp only
  have hField := toNat_and_le (x := cfgr >>> pos) (y := 0b111)
  split_ifs with hLt
  · exact ⟨0, by decide, rfl⟩
  · apply hTable
    bv_omega

theorem rccGetPclk_eq : ∃ n ≤ 14, (rccGetPclk pos cfgr).toNat = 16000000 / 2 ^ n := by
  obtain ⟨a, ha, hAhb⟩ := ahbPscal_eq cfgr
  obtain ⟨b, hb, hApb⟩ := apbPscal_eq pos cfgr
  have hClock : (rccGetPclk pos cfgr).toNat = (systemClk cfgr).toNat / 2 ^ (a + b) := by
    rw [rccGetPclk, BitVec.toNat_udiv, BitVec.toNat_udiv, hAhb, hApb, Nat.div_div_eq_div_mul,
      ← Nat.pow_add]
  obtain hHsi | hHse := systemClk_eq cfgr
  · refine ⟨a + b, by omega, ?_⟩
    rw [hClock, hHsi]
    rfl
  · refine ⟨a + b + 1, by omega, ?_⟩
    rw [hClock, hHse, Nat.pow_succ', ← Nat.div_div_eq_div_mul]
    rfl

theorem rccGetPclk_pos : 0 < (rccGetPclk pos cfgr).toNat := by
  obtain ⟨n, hn, hClock⟩ := rccGetPclk_eq pos cfgr
  have hPow : 2 ^ n ≤ 2 ^ 14 := Nat.pow_le_pow_right (by decide) hn
  rw [hClock]
  exact Nat.div_pos (by omega) (by positivity)

theorem rccGetPclk_le : (rccGetPclk pos cfgr).toNat ≤ 16000000 := by
  obtain ⟨n, _, hClock⟩ := rccGetPclk_eq pos cfgr
  rw [hClock]
  exact Nat.div_le_self _ _

end Clocks
end KoRTOS.Hal
