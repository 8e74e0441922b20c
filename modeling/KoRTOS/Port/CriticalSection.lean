import KoRTOS.Library.Transition
import Mathlib.Logic.Function.Basic

/-!
# Critical sections of the Cortex-M4 port

`port_enter_critical` and `port_exit_critical` of `port.c`, one instruction after
the other, in tasks and in handlers that preempt one another. An exception may be
taken between the two instructions of `port_enter_critical`: what was read of
PRIMASK has to be true of it still when the code goes on.
-/

namespace KoRTOS.Port

/-- What a task or a handler knows of PRIMASK: the values that `port_enter_critical` returned to
it for the sections that are open, the innermost first, and one that `get_primask` has read while
`disable_interrupts` is to come. -/
structure Masking where
  sections : List Bool
  read : Option Bool

/-- PRIMASK, and what runs: the innermost of the handlers, or else the current task. -/
structure Core where
  primask : Bool
  handlers : List Masking
  current : Nat
  tasks : Nat → Masking

inductive Instruction where
  | getPrimask
  | disableInterrupts
  | setPrimask
  | other
  | exceptionEntry
  | exceptionReturn (next : Nat)
  deriving DecidableEq, Repr

def Masking.idle : Masking := ⟨[], none⟩

namespace Core

def initial (current : Nat) : Core := ⟨false, [], current, fun _ => .idle⟩

def running (core : Core) : Masking := core.handlers.head?.getD (core.tasks core.current)

def setRunning (masking : Masking) (core : Core) : Core :=
  match core.handlers with
  | [] => { core with tasks := Function.update core.tasks core.current masking }
  | _ :: rest => { core with handlers := masking :: rest }

def setMask (primask : Bool) (core : Core) : Core := { core with primask := primask }

/-- `port_enter_critical` is `get_primask` and `disable_interrupts`, and `port_exit_critical` is
`set_primask`. The last handler to return is that of PendSV, which may have changed the task. -/
def step (core : Core) : Instruction → Option (Core × Unit)
  | .getPrimask =>
    match core.running.read with
    | none => some (core.setRunning ⟨core.running.sections, some core.primask⟩, ())
    | some _ => none
  | .disableInterrupts =>
    match core.running.read with
    | some prev =>
      some ((core.setRunning ⟨prev :: core.running.sections, none⟩).setMask true, ())
    | none => none
  | .setPrimask =>
    match core.running with
    | ⟨prev :: rest, none⟩ => some ((core.setRunning ⟨rest, none⟩).setMask prev, ())
    | _ => none
  | .other => some (core, ())
  | .exceptionEntry =>
    if core.primask then none else some ({ core with handlers := .idle :: core.handlers }, ())
  | .exceptionReturn next =>
    match core.handlers with
    | ⟨[], none⟩ :: [] => some ({ core with handlers := [], current := next }, ())
    | ⟨[], none⟩ :: rest => some ({ core with handlers := rest }, ())
    | _ => none

end Core
end KoRTOS.Port
