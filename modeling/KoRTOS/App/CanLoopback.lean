import KoRTOS.Hal.CanRx
import KoRTOS.System

/-!
# An application: CAN frames through a queue

The receive path of `CAN_loopback_mutex_queue.c`. `CAN1_RX0_IRQHandler` takes a frame
from FIFO 0, `CAN_rx_callback` sends it to a queue, and a task receives it there.
-/

namespace KoRTOS.App

open KoRTOS.Hal

/-- `sizeof(CAN_frame_t)`. -/
def canFrameSize : Nat := 20

/-- A frame in memory, with the byte in front of `timestamp` that belongs to no field. -/
def frameBytes (padding : U8) (frame : CanFrame) (i : Nat) : U8 :=
  if i < 4 then (frame.id >>> (8 * i)).setWidth 8
  else if i = 4 then frame.dlc
  else if i = 5 then frame.idType
  else if i = 6 then frame.frameType
  else if h : i - 7 < 8 then frame.data ⟨i - 7, h⟩
  else if i = 15 then padding
  else (frame.timestamp >>> (8 * (i - 16))).setWidth 8

/-- The frame that a task finds in the bytes that it received. -/
def frameOfBytes (item : List U8) : CanFrame where
  id := dataWord (item.getD 3 0) (item.getD 2 0) (item.getD 1 0) (item.getD 0 0)
  dlc := item.getD 4 0
  idType := item.getD 5 0
  frameType := item.getD 6 0
  data i := item.getD (7 + i.val) 0
  timestamp := dataWord (item.getD 19 0) (item.getD 18 0) (item.getD 17 0) (item.getD 16 0)

/-- The handler hands a frame to the callback between its last access and its return. -/
structure CanApp where
  rx : CanRx
  handing : Option CanFrame
  sys : Sys

/-- Frames come in at any time, and the handler is entered with anything in its local variable.
Tasks, SysTick and other handlers may use the kernel in any way but for sending to the queue. -/
inductive CanAppEvent where
  | arrive (fifoNum : Nat) (locked : Bool) (frame : CanFifo)
  | irqHandler (frame : CanFrame)
  | access (unknown : U32)
  | rxCallback (padding : U8)
  | kernel (event : Event)

def sendsToQueue (q : QueueId) : Event → Bool
  | .call (.queueSend (some q') _ _) => q' == q
  | .isrSend (some q') _ => q' == q
  | _ => false

namespace CanApp

/-- What the handler holds once it has released the FIFO. -/
def handed (app : CanApp) : Option CanFrame :=
  match app.rx.calls 0 with
  | .releasing _ _ frame => some frame
  | _ => app.handing

def step (q : QueueId) (app : CanApp) : CanAppEvent → Option (CanApp × Option Ret)
  | .arrive fifoNum locked frame =>
    some ({ app with rx := app.rx.step (.arrive fifoNum locked frame) }, none)
  | .irqHandler frame =>
    if app.handing.isSome then none
    else some ({ app with rx := app.rx.step (.interrupt 0 0 frame) }, none)
  | .access unknown =>
    some ({ app with rx := app.rx.step (.access 0 unknown), handing := app.handed }, none)
  | .rxCallback padding => do
    let frame ← app.handing
    let (sys, out) ← KoRTOS.step app.sys (.isrSend (some q) (some (frameBytes padding frame)))
    some ({ app with handing := none, sys := sys }, out)
  | .kernel event =>
    if sendsToQueue q event then none
    else do
      let (sys, out) ← KoRTOS.step app.sys event
      some ({ app with sys := sys }, out)

abbrev Label := Transition.Label CanApp CanAppEvent (Option Ret)
abbrev Run (q : QueueId) := Transition.Run (step q)

def kernelLabel (q : QueueId) (l : Label) : Option KoRTOS.Label :=
  match l.event with
  | .rxCallback padding => l.pre.handing.map fun frame =>
    ⟨l.pre.sys, .isrSend (some q) (some (frameBytes padding frame)), l.out, l.post.sys⟩
  | .kernel event => some ⟨l.pre.sys, event, l.out, l.post.sys⟩
  | _ => none

def kernelTrace (q : QueueId) (trace : List Label) : List KoRTOS.Label :=
  trace.filterMap (kernelLabel q)

def passedFrame (l : Label) : Option CanFrame :=
  match l.event with
  | .rxCallback _ => l.pre.handing
  | _ => none

def passedFrames (trace : List Label) : List CanFrame := trace.filterMap passedFrame

end CanApp
end KoRTOS.App
