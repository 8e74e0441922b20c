import KoRTOS.Hal.CanSending
import KoRTOS.Property.MutualExclusion

/-!
# An application: tasks that share the transmitter

The transmit path of `CAN_loopback_mutex_queue.c`. Tasks lock a mutex, call `CAN_transmit` and
unlock it again, as `control_task_handler` and `telemetry_task_handler` do. The call goes on one
register access at a time, and its task may be preempted between any two of them.
-/

namespace KoRTOS.App

open KoRTOS.Hal

/-- Where a task is in its loop. It sends only after `os_mutex_lock` returned `OS_OK`. -/
inductive Sender where
  | outside
  | inside
  | sending (frame : Option CanFrame) (rest : CanProg KhalStatus)

/-- `returned` holds the calls of `CAN_transmit` that have ended, in this order. -/
structure CanSharing where
  sys : Sys
  device : CanTransmitter
  senders : TaskId → Sender
  returned : List (Option CanFrame × KhalStatus)

/-- `w` stands for what the peripheral leaves open. -/
inductive CanSharingEvent where
  | kernel (event : Event)
  | transmit (frame : Option CanFrame)
  | access (w : U32)
  | complete (change : CanChange)

def ofTask : Event → Bool
  | .call _ => true
  | .resume => true
  | _ => false

namespace Sender

def isSending : Sender → Bool
  | sending _ _ => true
  | _ => false

/-- What a transition of the kernel means to the task that it is about. -/
def afterKernel (i : MutexId) (l : KoRTOS.Label) (sender : Sender) : Sender :=
  if lockGranted i l then .inside else if lockReleased i l then .outside else sender

end Sender

namespace CanSharing

def current (app : CanSharing) : TaskId := app.sys.kernel.currentTask

def runs (app : CanSharing) : Bool :=
  !app.sys.kernel.pendSV && (app.sys.pending app.current).isNone

def setSender (sender : Sender) (app : CanSharing) : CanSharing :=
  { app with senders := Function.update app.senders app.current sender }

/-- The next access of the call that the running task is in, or its return. -/
def stepCall (w : U32) (app : CanSharing) : Option CanSharing :=
  match app.senders app.current with
  | .sending frame (.pure status) =>
    some { app.setSender .inside with returned := app.returned ++ [(frame, status)] }
  | .sending frame rest =>
    let next := canTransmitter.advance w (rest, app.device)
    some { app.setSender (.sending frame next.1) with device := next.2 }
  | _ => none

def step (i : MutexId) (app : CanSharing) : CanSharingEvent → Option (CanSharing × Option Ret)
  | .kernel event =>
    if ofTask event && (app.senders app.current).isSending then none
    else do
      let (sys, out) ← KoRTOS.step app.sys event
      let sender := (app.senders app.current).afterKernel i ⟨app.sys, event, out, sys⟩
      some ({ app.setSender sender with sys := sys }, out)
  | .transmit frame =>
    match app.senders app.current with
    | .inside =>
      if app.runs then some (app.setSender (.sending frame (CanProg.transmit frame)), none)
      else none
    | _ => none
  | .access w => if app.runs then (app.stepCall w).map fun next => (next, none) else none
  | .complete change => some ({ app with device := app.device.occur change }, none)

abbrev Label := Transition.Label CanSharing CanSharingEvent (Option Ret)
abbrev Run (i : MutexId) := Transition.Run (step i)

def kernelLabel (l : Label) : Option KoRTOS.Label :=
  match l.event with
  | .kernel event => some ⟨l.pre.sys, event, l.out, l.post.sys⟩
  | _ => none

def kernelTrace (trace : List Label) : List KoRTOS.Label := trace.filterMap kernelLabel

end CanSharing
end KoRTOS.App
