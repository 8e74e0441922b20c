import KoRTOS.Kernel.Types
import KoRTOS.Library.RegisterBits

/-!
# Interrupt enables

The functions of the drivers that enable and disable interrupts in the NVIC.
`ISER[k]` and `ICER[k]` both read as the enable bits of interrupts 32k to
32k+31; a one written to `ISER` enables, a one written to `ICER` disables.
-/

namespace KoRTOS.Hal

open RegisterBits

inductive KhalStatus where
  | ok
  | errBusy
  | errTimeout
  | errTx
  | errRx
  | errInvalidParam
  | errNullPtr
  deriving DecidableEq, Repr

def ENABLE : U8 := 1
def DISABLE : U8 := 0

/-- The enable bits, 32 interrupts a register. -/
structure Nvic where
  enables : Nat → U32

namespace Nvic

def readIser (nvic : Nvic) (k : Nat) : U32 := nvic.enables k

def readIcer (nvic : Nvic) (k : Nat) : U32 := nvic.enables k

def writeIser (nvic : Nvic) (k : Nat) (value : U32) : Nvic :=
  ⟨Function.update nvic.enables k (writeOneToSet (nvic.enables k) value)⟩

def writeIcer (nvic : Nvic) (k : Nat) (value : U32) : Nvic :=
  ⟨Function.update nvic.enables k (writeOneToClear (nvic.enables k) value)⟩

def enabled (nvic : Nvic) (irqNum : Nat) : Bool := (nvic.enables (irqNum / 32)).getLsbD (irqNum % 32)

end Nvic

/-- The body the drivers share. -/
def irqConfig (nvic : Nvic) (irqNum enable : U8) : Nvic :=
  let k := irqNum.toNat / 32
  if enable = ENABLE then nvic.writeIser k (nvic.readIser k ||| bit (irqNum.toNat % 32))
  else nvic.writeIcer k (nvic.readIcer k ||| bit (irqNum.toNat % 32))

def gpioIrqConfig (nvic : Nvic) (irqNum enable : U8) : Nvic := irqConfig nvic irqNum enable

def spiIrqConfig (nvic : Nvic) (irqNum enable : U8) : Nvic := irqConfig nvic irqNum enable

def i2cIrqConfig (nvic : Nvic) (irqNum enable : U8) : Nvic := irqConfig nvic irqNum enable

def usartIrqConfig (nvic : Nvic) (irqNum enable : U8) : Nvic := irqConfig nvic irqNum enable

/-- The highest IRQ number that is implemented. -/
def canMaxIrqNum : Nat := 96

def canIrqControl (nvic : Nvic) (irqNum enable : U8) : Nvic × KhalStatus :=
  if canMaxIrqNum < irqNum.toNat then (nvic, .errInvalidParam)
  else (irqConfig nvic irqNum enable, .ok)

section Enabled

variable {nvic : Nvic} {irqNum enable : U8} {n : Nat}

theorem enabled_irqConfig_enable (h : enable = ENABLE) :
    (irqConfig nvic irqNum enable).enabled n = (nvic.enabled n || decide (n = irqNum.toNat)) := by
  rw [irqConfig, if_pos h, Nvic.enabled, Nvic.writeIser]
  dsimp only
  rw [Function.update_apply]
  have hSplit : n = irqNum.toNat ↔
      n / 32 = irqNum.toNat / 32 ∧ n % 32 = irqNum.toNat % 32 := by omega
  by_cases hBank : n / 32 = irqNum.toNat / 32
  · rw [if_pos hBank, Nvic.readIser, getLsbD_writeOneToSet_readback (Nat.mod_lt _ (by decide))]
    simp only [hSplit, hBank, true_and, Nvic.enabled]
  · rw [if_neg hBank]
    simp only [hSplit, hBank, false_and, decide_false, Bool.or_false]
    rfl

theorem enabled_irqConfig_disable (h : enable ≠ ENABLE) :
    (irqConfig nvic irqNum enable).enabled n =
      (nvic.enabled n && decide (n / 32 ≠ irqNum.toNat / 32)) := by
  rw [irqConfig, if_neg h, Nvic.enabled, Nvic.writeIcer]
  dsimp only
  rw [Function.update_apply]
  by_cases hBank : n / 32 = irqNum.toNat / 32
  · rw [if_pos hBank, Nvic.readIcer, writeOneToClear_readback]
    simp [hBank]
  · rw [if_neg hBank]
    simp only [ne_eq, hBank, not_false_eq_true, decide_true, Bool.and_true]
    rfl

end Enabled
end KoRTOS.Hal
