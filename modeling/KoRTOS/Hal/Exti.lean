import KoRTOS.Hal.Nvic
import KoRTOS.Library.Transition

/-!
# The GPIO driver: pending interrupts

`GPIO_IRQ_handler`, one access to `EXTI->PR` at a time. A line may become pending
between any two accesses, and a call may be interrupted by others. A one that is
written to `PR` clears the bit, a zero leaves it.
-/

namespace KoRTOS.Hal

open RegisterBits

/-- The access that a call makes next: the read that the pending bit is tested in, the read of
`|=`, and its write. -/
inductive ExtiCall where
  | idle
  | testing (pinNum : U8)
  | reading (pinNum : U8)
  | writing (pinNum : U8) (temp : U32)
  deriving DecidableEq, Repr

structure Exti where
  pr : U32
  calls : Nat → ExtiCall

inductive ExtiEvent where
  | edge (line : Nat)
  | call (slot : Nat) (pinNum : U8)
  | access (slot : Nat)
  deriving DecidableEq, Repr

namespace Exti

def setCall (exti : Exti) (slot : Nat) (call : ExtiCall) : Exti :=
  { exti with calls := Function.update exti.calls slot call }

def gpioIrqHandler (exti : Exti) (slot : Nat) : Option Exti :=
  match exti.calls slot with
  | .idle => none
  | .testing pinNum =>
    if exti.pr &&& bit pinNum.toNat ≠ 0 then some (exti.setCall slot (.reading pinNum))
    else some (exti.setCall slot .idle)
  | .reading pinNum => some (exti.setCall slot (.writing pinNum (exti.pr ||| bit pinNum.toNat)))
  | .writing _ temp => some { exti.setCall slot .idle with pr := writeOneToClear exti.pr temp }

def step (exti : Exti) : ExtiEvent → Option (Exti × Unit)
  | .edge line => if line < 16 then some ({ exti with pr := exti.pr ||| bit line }, ()) else none
  | .call slot pinNum =>
    if exti.calls slot = .idle ∧ pinNum.toNat < 16 then
      some (exti.setCall slot (.testing pinNum), ())
    else none
  | .access slot => (exti.gpioIrqHandler slot).map fun exti => (exti, ())

end Exti

end KoRTOS.Hal
