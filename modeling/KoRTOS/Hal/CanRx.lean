import KoRTOS.Hal.Can
import KoRTOS.Library.RegisterBits
import Mathlib.Data.List.Forall2
import Mathlib.Logic.Function.Basic

/-!
# The CAN driver: reception

`CAN_receive` and `CAN_RX_IRQHandler`, one access to a register at a time. The
hardware keeps up to three frames in each FIFO and shows the oldest; the next
frames may come between any two accesses, and several calls may be under way.
-/

namespace KoRTOS.Hal

open RegisterBits

def canRfxrFmpxMsk : U32 := 0x3#32 <<< 0
def canRfxrFullxMsk : U32 := 1#32 <<< 3
def canRfxrFovrxMsk : U32 := 1#32 <<< 4

/-- The frames that wait, oldest first, and the flags FULL and FOVR. -/
structure RxFifo where
  pending : List CanFifo
  full : Bool
  overrun : Bool

namespace RxFifo

def rfr (fifo : RxFifo) : U32 :=
  BitVec.ofNat 32 fifo.pending.length ||| (if fifo.full then canRfxrFullxMsk else 0) |||
    (if fifo.overrun then canRfxrFovrxMsk else 0)

/-- A frame that finds the FIFO full takes the place of the youngest, unless the FIFO is locked. -/
def arrive (locked : Bool) (frame : CanFifo) (fifo : RxFifo) : RxFifo :=
  if fifo.pending.length < 3 then
    { fifo with
      pending := fifo.pending ++ [frame]
      full := fifo.full || decide (fifo.pending.length = 2) }
  else
    { fifo with
      pending := if locked then fifo.pending else fifo.pending.dropLast ++ [frame]
      overrun := true }

/-- RFOM releases the oldest frame; ones that are written to FULL and FOVR clear them. -/
def write (value : U32) (fifo : RxFifo) : RxFifo where
  pending := if value &&& canRfxrRfomxMsk = 0 then fifo.pending else fifo.pending.tail
  full := fifo.full && decide (value &&& canRfxrFullxMsk = 0)
  overrun := fifo.overrun && decide (value &&& canRfxrFovrxMsk = 0)

end RxFifo

def rxRegister (fifo : CanFifo) (n : Nat) : U32 :=
  if n < 2 then fifo.rir
  else if n = 2 then fifo.rdtr
  else if n < 7 then fifo.rdlr
  else if n < 11 then fifo.rdhr
  else fifo.rdtr

/-- What it does with the value: `id_type` is a local variable, the rest goes to `*frame`. -/
def rxStore (n : Nat) (value : U32) : U8 × CanFrame → U8 × CanFrame
  | (idType, frame) =>
    match n with
    | 0 => (((value &&& canRixrIdeMsk) >>> canRixrIdePos).setWidth 8, frame)
    | 1 =>
      (idType, { frame with
        id :=
          if idType = standardId then (value &&& canRixrStidMsk) >>> canRixrStidPos
          else (value &&& canRixrExidMsk) >>> canRixrExidPos })
    | 2 => (idType, { frame with dlc := ((value &&& canRdtxrDlcMsk) >>> canRdtxrDlcPos).setWidth 8 })
    | 11 => (idType, { frame with timestamp := (value &&& canRdtxrTimeMsk) >>> canRdtxrTimePos })
    | n =>
      (idType, { frame with
        data := fun i =>
          if i.val = n - 3 then (value >>> (8 * ((n - 3) % 4)) &&& 0xFF).setWidth 8
          else frame.data i })

/-- What a call does next. The last access writes the value that was read, with RFOM set. -/
inductive RxCall where
  | returned (status : KhalStatus) (frame : Option CanFrame)
  | testing (fifoNum : Nat) (frame : CanFrame)
  | reading (fifoNum n : Nat) (found : U8 × CanFrame)
  | acking (fifoNum : Nat) (frame : CanFrame)
  | releasing (fifoNum : Nat) (value : U32) (frame : CanFrame)

namespace RxCall

/-- `CAN_receive`, which looks at FIFO 0 first. -/
def start : Option CanFrame → RxCall
  | none => .returned .errNullPtr none
  | some frame => .testing 0 frame

def read (answer : U32) : RxCall → RxCall
  | .testing fifoNum frame =>
    if answer &&& canRfxrFmpxMsk ≠ 0 then .reading fifoNum 0 (0, frame)
    else if fifoNum = 0 then .testing 1 frame
    else .returned .errRx (some frame)
  | .reading fifoNum n found =>
    if n < 11 then .reading fifoNum (n + 1) (rxStore n answer found)
    else .acking fifoNum (rxStore n answer found).2
  | .acking fifoNum frame => .releasing fifoNum (answer ||| canRfxrRfomxMsk) frame
  | call => call

end RxCall

/-- The FIFOs and the calls under way, with the frames that each FIFO took in and did not
overwrite, and those that were handed over from it. -/
structure CanRx where
  fifos : Nat → RxFifo
  calls : Nat → RxCall
  stored : Nat → List CanFifo
  delivered : Nat → List CanFrame

inductive RxEvent where
  | arrive (fifoNum : Nat) (locked : Bool) (frame : CanFifo)
  | receive (context : Nat) (frame : Option CanFrame)
  | interrupt (context fifoNum : Nat) (frame : CanFrame)
  | access (context : Nat) (unknown : U32)

namespace CanRx

def setCall (context : Nat) (call : RxCall) (rx : CanRx) : CanRx :=
  { rx with calls := Function.update rx.calls context call }

def store (locked : Bool) (frame : CanFifo) (fifo : RxFifo) (stored : List CanFifo) :
    List CanFifo :=
  if fifo.pending.length < 3 then stored ++ [frame]
  else if locked then stored
  else stored.dropLast ++ [frame]

def shown (rx : CanRx) (fifoNum n : Nat) (unknown : U32) : U32 :=
  match (rx.fifos fifoNum).pending with
  | [] => unknown
  | frame :: _ => rxRegister frame n

def stepCall (context : Nat) (unknown : U32) (rx : CanRx) : CanRx :=
  match rx.calls context with
  | .returned _ _ => rx
  | .testing fifoNum frame =>
    rx.setCall context ((RxCall.testing fifoNum frame).read (rx.fifos fifoNum).rfr)
  | .reading fifoNum n found =>
    rx.setCall context ((RxCall.reading fifoNum n found).read (rx.shown fifoNum n unknown))
  | .acking fifoNum frame =>
    rx.setCall context ((RxCall.acking fifoNum frame).read (rx.fifos fifoNum).rfr)
  | .releasing fifoNum value frame =>
    { rx with
      fifos := Function.update rx.fifos fifoNum ((rx.fifos fifoNum).write value)
      delivered := Function.update rx.delivered fifoNum (rx.delivered fifoNum ++ [frame])
      calls := Function.update rx.calls context (.returned .ok (some frame)) }

/-- The interrupt of a FIFO is raised while a frame waits in it. Its handler hands the frame to
`CAN_rx_callback`. -/
def step (event : RxEvent) (rx : CanRx) : CanRx :=
  match event with
  | .arrive fifoNum locked frame =>
    { rx with
      fifos := Function.update rx.fifos fifoNum ((rx.fifos fifoNum).arrive locked frame)
      stored := Function.update rx.stored fifoNum
        (store locked frame (rx.fifos fifoNum) (rx.stored fifoNum)) }
  | .receive context frame =>
    match rx.calls context with
    | .returned _ _ => rx.setCall context (.start frame)
    | _ => rx
  | .interrupt context fifoNum frame =>
    match rx.calls context, (rx.fifos fifoNum).pending with
    | .returned _ _, _ :: _ => rx.setCall context (.reading fifoNum 0 (0, frame))
    | _, _ => rx
  | .access context unknown => rx.stepCall context unknown

def run (rx : CanRx) (events : List RxEvent) : CanRx := events.foldl (fun rx e => rx.step e) rx

end CanRx
end KoRTOS.Hal
