import KoRTOS.Hal.Nvic

/-!
# The CAN driver: frames and mailboxes

`CAN_load_mailbox` and `CAN_read_rx_frame` with the registers and masks they
use. An enumeration takes one byte, and its range is checked by the driver.
A `NULL` pointer is `none`.
-/

namespace KoRTOS.Hal

def standardId : U8 := 0
def extendedId : U8 := 1
def dataFrame : U8 := 0
def remoteFrame : U8 := 1

structure CanFrame where
  id : U32
  dlc : U8
  idType : U8
  frameType : U8
  data : Fin 8 → U8
  timestamp : U32

structure CanMailbox where
  tir : U32
  tdtr : U32
  tdlr : U32
  tdhr : U32

structure CanFifo where
  rir : U32
  rdtr : U32
  rdlr : U32
  rdhr : U32

structure CanReg where
  tsr : U32
  rf0r : U32
  rf1r : U32
  txMailboxes : Nat → CanMailbox
  rxFifos : Nat → CanFifo

def canTsrRqcpMsk (mailbox : Nat) : U32 := 1#32 <<< (8 * mailbox)
def canTsrTxokMsk (mailbox : Nat) : U32 := 1#32 <<< (8 * mailbox + 1)
def canTsrCodePos : Nat := 24
def canTsrCodeMsk : U32 := 0x3#32 <<< canTsrCodePos
def canTsrTmeMsk (mailbox : Nat) : U32 := 1#32 <<< (26 + mailbox)

def canTixrTxrqMsk : U32 := 1#32 <<< 0
def canTixrRtrPos : Nat := 1
def canTixrIdePos : Nat := 2
def canTixrExidPos : Nat := 3
def canTixrStidPos : Nat := 21
def canTdtxrDlcPos : Nat := 0

def canRixrIdePos : Nat := 2
def canRixrIdeMsk : U32 := 1#32 <<< canRixrIdePos
def canRixrExidPos : Nat := 3
def canRixrExidMsk : U32 := 0x3FFFF#32 <<< canRixrExidPos
def canRixrStidPos : Nat := 21
def canRixrStidMsk : U32 := 0x7FF#32 <<< canRixrStidPos
def canRdtxrDlcPos : Nat := 0
def canRdtxrDlcMsk : U32 := 0xF#32 <<< canRdtxrDlcPos
def canRdtxrTimePos : Nat := 16
def canRdtxrTimeMsk : U32 := 0xFFFF#32 <<< canRdtxrTimePos
def canRfxrRfomxMsk : U32 := 1#32 <<< 5

/-- The test of `CAN_load_mailbox` on the fields of the frame. -/
def CanFrame.outOfRange (frame : CanFrame) : Prop :=
  8 < frame.dlc ∨ extendedId < frame.idType ∨ remoteFrame < frame.frameType ∨
    (frame.idType = standardId ∧ 0x7FF < frame.id) ∨
    (frame.idType = extendedId ∧ 0x1FFFFFFF < frame.id)

instance (frame : CanFrame) : Decidable frame.outOfRange := by
  unfold CanFrame.outOfRange; infer_instance

def dataWord (b3 b2 b1 b0 : U8) : U32 :=
  b3.setWidth 32 <<< 24 ||| b2.setWidth 32 <<< 16 ||| b1.setWidth 32 <<< 8 ||| b0.setWidth 32

/-- What is written to the mailbox, without and then with the request for transmission. -/
def CanFrame.mailbox (frame : CanFrame) : CanMailbox :=
  let tirValue := frame.idType.setWidth 32 <<< canTixrIdePos |||
    frame.frameType.setWidth 32 <<< canTixrRtrPos
  let tirValue :=
    if frame.idType = standardId then tirValue ||| frame.id <<< canTixrStidPos
    else tirValue ||| frame.id <<< canTixrExidPos
  { tir := tirValue ||| canTixrTxrqMsk
    tdtr := frame.dlc.setWidth 32 <<< canTdtxrDlcPos
    tdlr := dataWord (frame.data 3) (frame.data 2) (frame.data 1) (frame.data 0)
    tdhr := dataWord (frame.data 7) (frame.data 6) (frame.data 5) (frame.data 4) }

/-- The mailbox is handed back as a result: the callers pass the address of a local. -/
def canLoadMailbox (canx : Option CanReg) (frame : Option CanFrame) :
    Option CanReg × Option U8 × KhalStatus :=
  match canx, frame with
  | some canx, some frame =>
    if frame.outOfRange then (some canx, none, .errInvalidParam)
    else if canx.tsr &&& (canTsrTmeMsk 0 ||| canTsrTmeMsk 1 ||| canTsrTmeMsk 2) = 0 then
      (some canx, none, .errBusy)
    else
      let mailbox : U8 := ((canx.tsr &&& canTsrCodeMsk) >>> canTsrCodePos).setWidth 8
      let txMailboxes := Function.update canx.txMailboxes mailbox.toNat frame.mailbox
      (some { canx with txMailboxes := txMailboxes }, some mailbox, .ok)
  | canx, _ => (canx, none, .errNullPtr)

/-- The frame in a receive FIFO, over the previous content of `*frame`. -/
def CanFifo.decode (fifo : CanFifo) (frame : CanFrame) : CanFrame :=
  let idType : U8 := ((fifo.rir &&& canRixrIdeMsk) >>> canRixrIdePos).setWidth 8
  { frame with
    id :=
      if idType = standardId then (fifo.rir &&& canRixrStidMsk) >>> canRixrStidPos
      else (fifo.rir &&& canRixrExidMsk) >>> canRixrExidPos
    dlc := ((fifo.rdtr &&& canRdtxrDlcMsk) >>> canRdtxrDlcPos).setWidth 8
    data := fun i =>
      if i.val < 4 then (fifo.rdlr >>> (8 * i.val) &&& 0xFF).setWidth 8
      else (fifo.rdhr >>> (8 * (i.val - 4)) &&& 0xFF).setWidth 8
    timestamp := (fifo.rdtr &&& canRdtxrTimeMsk) >>> canRdtxrTimePos }

def canReadRxFrame (canx : Option CanReg) (fifoNum : U8) (frame : Option CanFrame) :
    Option CanReg × Option CanFrame × KhalStatus :=
  match canx, frame with
  | some canx, some frame =>
    if 1 < fifoNum then (some canx, some frame, .errInvalidParam)
    else
      let frame := (canx.rxFifos fifoNum.toNat).decode frame
      if fifoNum = 0 then
        (some { canx with rf0r := canx.rf0r ||| canRfxrRfomxMsk }, some frame, .ok)
      else (some { canx with rf1r := canx.rf1r ||| canRfxrRfomxMsk }, some frame, .ok)
  | canx, frame => (canx, frame, .errNullPtr)

end KoRTOS.Hal
