import KoRTOS.Hal.Nvic

/-!
# Which interrupts are enabled

What the drivers are asked for: an interrupt is enabled if the last call that
names it enables it. Enabling does that. Disabling clears the enable bits it
read, those of the other interrupts of the register included.
-/

namespace KoRTOS.Hal

inductive IrqDriver where
  | gpio
  | spi
  | i2c
  | usart
  | can
  deriving DecidableEq, Repr

/-- A call of the function of a driver that configures an interrupt. -/
structure IrqCall where
  driver : IrqDriver
  irqNum : U8
  enable : U8
  deriving DecidableEq, Repr

def IrqCall.run (nvic : Nvic) (c : IrqCall) : Nvic :=
  match c.driver with
  | .gpio => gpioIrqConfig nvic c.irqNum c.enable
  | .spi => spiIrqConfig nvic c.irqNum c.enable
  | .i2c => i2cIrqConfig nvic c.irqNum c.enable
  | .usart => usartIrqConfig nvic c.irqNum c.enable
  | .can => (canIrqControl nvic c.irqNum c.enable).1

def IrqCall.Valid (c : IrqCall) : Prop := c.irqNum.toNat ≤ canMaxIrqNum

def runIrqCalls (nvic : Nvic) (calls : List IrqCall) : Nvic := calls.foldl IrqCall.run nvic

/-- What is asked of interrupt `n`: the last call that names it decides. -/
def requested (start : Nat → Bool) (calls : List IrqCall) (n : Nat) : Bool :=
  match calls.reverse.find? fun c => c.irqNum.toNat == n with
  | some c => c.enable == ENABLE
  | none => start n

/-- After each of the calls every interrupt is enabled or not as it was asked for, and no call
that disables one changes another. -/
structure EnablesAsRequested (start : Nvic) (calls : List IrqCall) : Prop where
  requested : ∀ before after, calls = before ++ after → ∀ n,
    (runIrqCalls start before).enabled n = requested start.enabled before n
  others : ∀ before c after, calls = before ++ c :: after → c.enable ≠ ENABLE →
    ∀ n, n ≠ c.irqNum.toNat →
      (runIrqCalls start (before ++ [c])).enabled n = (runIrqCalls start before).enabled n

/-- No other interrupt of the register of 32 is enabled. -/
def AloneInRegister (nvic : Nvic) (irqNum : Nat) : Prop :=
  ∀ n, n / 32 = irqNum / 32 → n ≠ irqNum → nvic.enabled n = false

section Calls

variable {start nvic : Nvic} {calls : List IrqCall} {c : IrqCall} {n : Nat}

theorem IrqCall.run_eq (h : c.Valid) : c.run nvic = irqConfig nvic c.irqNum c.enable := by
  obtain ⟨driver, irqNum, enable⟩ := c
  cases driver with
  | can => exact congrArg Prod.fst (if_neg (Nat.not_lt.mpr h))
  | _ => rfl

theorem runIrqCalls_snoc : runIrqCalls start (calls ++ [c]) = c.run (runIrqCalls start calls) := by
  rw [runIrqCalls, List.foldl_append]
  rfl

theorem requested_snoc {wanted : Nat → Bool} : requested wanted (calls ++ [c]) n =
    if n = c.irqNum.toNat then c.enable == ENABLE else requested wanted calls n := by
  unfold requested
  rw [List.reverse_append, List.reverse_singleton, List.singleton_append, List.find?_cons]
  by_cases hEq : c.irqNum.toNat = n
  · rw [beq_iff_eq.mpr hEq, if_pos hEq.symm]
  · rw [beq_eq_false_iff_ne.mpr hEq, if_neg (Ne.symm hEq)]

theorem IrqCall.enabled_run (hValid : c.Valid)
    (hAlone : c.enable ≠ ENABLE → AloneInRegister nvic c.irqNum.toNat) :
    (c.run nvic).enabled n = if n = c.irqNum.toNat then c.enable == ENABLE else nvic.enabled n := by
  rw [c.run_eq hValid]
  by_cases hEnable : c.enable = ENABLE
  · rw [enabled_irqConfig_enable hEnable, hEnable]
    split
    · rename_i hEq
      rw [decide_eq_true hEq, Bool.or_true]
      rfl
    · rename_i hNe
      rw [decide_eq_false hNe, Bool.or_false]
  · rw [enabled_irqConfig_disable hEnable, beq_eq_false_iff_ne.mpr hEnable]
    split
    · rename_i hEq
      rw [hEq]
      simp
    · rename_i hNe
      by_cases hBank : n / 32 = c.irqNum.toNat / 32
      · rw [hAlone hEnable n hBank hNe, Bool.false_and]
      · rw [decide_eq_true hBank, Bool.and_true]

theorem IrqCall.alone_of_others (hValid : c.Valid) (hDisable : c.enable ≠ ENABLE)
    (h : ∀ n, n ≠ c.irqNum.toNat → (c.run nvic).enabled n = nvic.enabled n) :
    AloneInRegister nvic c.irqNum.toNat := by
  intro n hBank hNe
  rw [← h n hNe, c.run_eq hValid, enabled_irqConfig_disable hDisable,
    decide_eq_false (not_not.mpr hBank), Bool.and_false]

theorem enabled_runIrqCalls {before : List IrqCall} (hValid : ∀ c ∈ before, c.Valid)
    (hAlone : ∀ past c after, before = past ++ c :: after → c.enable ≠ ENABLE →
      AloneInRegister (runIrqCalls start past) c.irqNum.toNat) :
    (runIrqCalls start before).enabled n = requested start.enabled before n := by
  induction before using List.reverseRecOn with
  | nil => rfl
  | append_singleton init c ih =>
    have hInit := ih (fun d hd => hValid d (List.mem_append_left _ hd)) fun past d after hEq =>
      hAlone past d (after ++ [c]) (by rw [hEq, List.append_assoc, List.cons_append])
    rw [runIrqCalls_snoc, requested_snoc, ← hInit]
    exact c.enabled_run (hValid c (by simp)) (hAlone init c [] rfl)

end Calls

/-- The interrupts are enabled as requested exactly if every call that disables one finds no
other enabled in its register. -/
theorem enables_as_requested_iff {start : Nvic} {calls : List IrqCall}
    (hValid : ∀ c ∈ calls, c.Valid) : EnablesAsRequested start calls ↔
      ∀ before c after, calls = before ++ c :: after → c.enable ≠ ENABLE →
        AloneInRegister (runIrqCalls start before) c.irqNum.toNat := by
  constructor
  · intro h before c after hEq hDisable
    refine c.alone_of_others (hValid c (by simp [hEq])) hDisable fun n hNe => ?_
    rw [← runIrqCalls_snoc]
    exact h.others before c after hEq hDisable n hNe
  · intro hAlone
    refine ⟨?_, ?_⟩
    · rintro before after rfl n
      refine enabled_runIrqCalls (fun c hc => hValid c (List.mem_append_left _ hc)) ?_
      rintro past c rest rfl
      exact hAlone past c (rest ++ after) (by rw [List.append_assoc, List.cons_append])
    · intro before c after hEq hDisable n hNe
      rw [runIrqCalls_snoc, c.enabled_run (hValid c (by simp [hEq])) (hAlone before c after hEq),
        if_neg hNe]

/-- The interrupts of I2C 1 (31) and USART 2 (38) are in different registers. -/
theorem enables_as_requested_iff_apart :
    EnablesAsRequested ⟨fun _ => 0⟩ [⟨.i2c, 31, 1⟩, ⟨.usart, 38, 1⟩, ⟨.usart, 38, 0⟩] := by
  have hValid : ∀ c ∈ [(⟨.i2c, 31, 1⟩ : IrqCall), ⟨.usart, 38, 1⟩, ⟨.usart, 38, 0⟩], c.Valid := by
    intro c hc
    simp only [List.mem_cons, List.not_mem_nil, or_false] at hc
    obtain rfl | rfl | rfl := hc <;> exact Nat.le_of_ble_eq_true rfl
  have hAlone : ∀ n < 64, n / 32 = 1 → n ≠ 38 →
      (runIrqCalls ⟨fun _ => 0⟩ [⟨.i2c, 31, 1⟩, ⟨.usart, 38, 1⟩]).enabled n = false := by
    decide +kernel
  refine (enables_as_requested_iff hValid).mpr fun before c after hEq hDisable => ?_
  match before with
  | [] =>
    cases hEq
    exact absurd rfl hDisable
  | [_] =>
    cases hEq
    exact absurd rfl hDisable
  | [_, _] =>
    cases hEq
    intro n hBank
    change n / 32 = 1 at hBank
    exact hAlone n (by omega) hBank
  | _ :: _ :: _ :: _ => simp at hEq

/-- Disabling EXTI line 0 (6) disables EXTI line 1 (7). -/
theorem disable_clears_register :
    ¬ ∀ start calls, (∀ c ∈ calls, IrqCall.Valid c) → EnablesAsRequested start calls := by
  intro hClaim
  have hValid : ∀ c ∈ [(⟨.gpio, 7, 1⟩ : IrqCall), ⟨.gpio, 6, 0⟩], c.Valid := by
    intro c hc
    simp only [List.mem_cons, List.not_mem_nil, or_false] at hc
    obtain rfl | rfl := hc <;> exact Nat.le_of_ble_eq_true rfl
  have hOthers := (hClaim ⟨fun _ => 0⟩ _ hValid).others [⟨.gpio, 7, 1⟩] ⟨.gpio, 6, 0⟩ [] rfl
    (by decide) 7 (by decide)
  exact absurd hOthers (by decide)

end KoRTOS.Hal
