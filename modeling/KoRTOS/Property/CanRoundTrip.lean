import KoRTOS.Hal.Can
import Mathlib.Tactic.IntervalCases

/-!
# Frames sent and received

A frame that is loaded into a mailbox comes back in the registers of a receive
FIFO. What the driver reads there is the frame that was sent if the caller knew
beforehand what kind of frame it would be, and an extended identifier fits in
18 bits.
-/

namespace KoRTOS.Hal

open RegisterBits

/-- The registers of the FIFO hold what the mailbox was loaded with. -/
structure Loopback (mailbox : CanMailbox) (fifo : CanFifo) : Prop where
  identifier : fifo.rir &&& ~~~canTixrTxrqMsk = mailbox.tir &&& ~~~canTixrTxrqMsk
  length : fifo.rdtr &&& canRdtxrDlcMsk = mailbox.tdtr &&& canRdtxrDlcMsk
  low : fifo.rdlr = mailbox.tdlr
  high : fifo.rdhr = mailbox.tdhr

/-- All but the timestamp. -/
structure SameFrame (got frame : CanFrame) : Prop where
  id : got.id = frame.id
  idType : got.idType = frame.idType
  frameType : got.frameType = frame.frameType
  dlc : got.dlc = frame.dlc
  data : got.data = frame.data

section Decode

variable {frame old : CanFrame} {fifo : CanFifo}

theorem CanFrame.fields_of_inRange (h : ¬ frame.outOfRange) :
    frame.dlc ≤ 8 ∧ (frame.idType = standardId ∨ frame.idType = extendedId) ∧
      (frame.frameType = dataFrame ∨ frame.frameType = remoteFrame) ∧
      (frame.idType = standardId → frame.id ≤ 0x7FF) := by
  simp only [CanFrame.outOfRange, not_or, not_and, BitVec.not_lt] at h
  obtain ⟨hDlc, hIdType, hFrameType, hStandard, _⟩ := h
  have hTwo : ∀ b : U8, b ≤ 1 → b = 0 ∨ b = 1 := by decide
  exact ⟨hDlc, hTwo _ hIdType, hTwo _ hFrameType, hStandard⟩

theorem Loopback.rir_and (h : Loopback frame.mailbox fifo) {m : U32}
    (hm : ~~~canTixrTxrqMsk &&& m = m) : fifo.rir &&& m = frame.mailbox.tir &&& m := by
  rw [← hm, ← BitVec.and_assoc, h.identifier, BitVec.and_assoc]

/-- The bits of `TIR` below the identifier. -/
def CanFrame.flags (frame : CanFrame) : U32 :=
  frame.idType.setWidth 32 <<< canTixrIdePos ||| frame.frameType.setWidth 32 <<< canTixrRtrPos |||
    canTixrTxrqMsk

/-- Where the identifier is in `TIR`. -/
def CanFrame.idPos (frame : CanFrame) : Nat :=
  if frame.idType = standardId then canTixrStidPos else canTixrExidPos

theorem CanFrame.mailbox_tir : frame.mailbox.tir = frame.flags ||| frame.id <<< frame.idPos := by
  have hSwap : ∀ a b c d : U32, a ||| b ||| c ||| d = a ||| b ||| d ||| c := fun a b c d => by
    rw [BitVec.or_assoc, BitVec.or_comm c d, ← BitVec.or_assoc]
  rw [CanFrame.mailbox, CanFrame.flags, CanFrame.idPos]
  dsimp only
  split
  · exact hSwap _ _ _ _
  · exact hSwap _ _ _ _

theorem Loopback.rir_field (h : Loopback frame.mailbox fifo) {m : U32} {p : Nat}
    (hm : ~~~canTixrTxrqMsk &&& m <<< p = m <<< p) : (fifo.rir &&& m <<< p) >>> p =
      (frame.flags >>> p &&& m) ||| ((frame.id <<< frame.idPos) >>> p &&& m) := by
  rw [h.rir_and hm, CanFrame.mailbox_tir, field_eq, BitVec.ushiftRight_or_distrib,
    BitVec.and_or_distrib_right]

theorem Loopback.idType (h : Loopback frame.mailbox fifo) (hRange : ¬ frame.outOfRange) :
    ((fifo.rir &&& canRixrIdeMsk) >>> canRixrIdePos).setWidth 8 = frame.idType := by
  obtain ⟨_, hIdType, hFrameType, _⟩ := CanFrame.fields_of_inRange hRange
  have hId : (frame.id <<< frame.idPos) >>> canRixrIdePos &&& 1#32 = 0#32 := by
    apply shiftLeft_above
    rw [CanFrame.idPos]
    split <;> decide
  have hFlags : (frame.flags >>> canRixrIdePos &&& 1#32).setWidth 8 = frame.idType := by
    rw [CanFrame.flags]
    obtain hIdType | hIdType := hIdType <;> obtain hFrameType | hFrameType := hFrameType <;>
      rw [hIdType, hFrameType] <;> decide
  have hField := h.rir_field (m := 1#32) (p := canRixrIdePos) (by decide)
  rw [canRixrIdeMsk, hField, hId, BitVec.or_zero, hFlags]

theorem Loopback.id (h : Loopback frame.mailbox fifo) (hRange : ¬ frame.outOfRange) :
    (fifo.decode old).id =
      if frame.idType = standardId then frame.id else frame.id &&& 0x3FFFF#32 := by
  obtain ⟨_, hIdType, hFrameType, hStandard⟩ := CanFrame.fields_of_inRange hRange
  rw [CanFifo.decode]
  dsimp only
  rw [h.idType hRange]
  split
  · rename_i hType
    have hFlags : frame.flags >>> canRixrStidPos &&& 0x7FF#32 = 0#32 := by
      rw [CanFrame.flags, hType]
      obtain hFrameType | hFrameType := hFrameType <;> rw [hFrameType] <;> decide
    have hField := h.rir_field (m := 0x7FF#32) (p := canRixrStidPos) (by decide)
    have hPos : frame.idPos = canRixrStidPos := if_pos hType
    rw [canRixrStidMsk, hField, hFlags, BitVec.zero_or, hPos, shiftLeft_field (by decide)]
    exact and_of_toNat_lt (n := 11) rfl (Nat.lt_succ_of_le (hStandard hType))
  · rename_i hType
    have hFlags : frame.flags >>> canRixrExidPos &&& 0x3FFFF#32 = 0#32 := by
      rw [CanFrame.flags, hIdType.resolve_left hType]
      obtain hFrameType | hFrameType := hFrameType <;> rw [hFrameType] <;> decide
    have hField := h.rir_field (m := 0x3FFFF#32) (p := canRixrExidPos) (by decide)
    have hPos : frame.idPos = canRixrExidPos := if_neg hType
    rw [canRixrExidMsk, hField, hFlags, BitVec.zero_or, hPos, shiftLeft_field (by decide)]

theorem Loopback.dlc (h : Loopback frame.mailbox fifo) (hRange : ¬ frame.outOfRange) :
    (fifo.decode old).dlc = frame.dlc := by
  have hByte : ∀ d : U8, d ≤ 8 →
      ((d.setWidth 32 <<< canTdtxrDlcPos &&& canRdtxrDlcMsk) >>> canRdtxrDlcPos).setWidth 8 = d := by
    decide
  rw [CanFifo.decode]
  dsimp only
  rw [h.length]
  exact hByte frame.dlc (CanFrame.fields_of_inRange hRange).1

theorem dataWord_byte (b : Fin 4 → U8) (i : Fin 4) :
    (dataWord (b 3) (b 2) (b 1) (b 0) >>> (8 * i.val) &&& 0xFF#32).setWidth 8 = b i := by
  apply BitVec.eq_of_getLsbD_eq
  intro j hj
  obtain ⟨i, hi⟩ := i
  have hBits : (dataWord (b 3) (b 2) (b 1) (b 0)).getLsbD (8 * i + j) = (b ⟨i, hi⟩).getLsbD j := by
    simp only [dataWord, BitVec.getLsbD_or, BitVec.getLsbD_shiftLeft, BitVec.getLsbD_setWidth]
    interval_cases i <;> interval_cases j <;> simp
  have hMask : (0xFF#32).getLsbD j = true := by interval_cases j <;> rfl
  rw [BitVec.getLsbD_setWidth, BitVec.getLsbD_and, BitVec.getLsbD_ushiftRight, hBits, hMask,
    decide_eq_true hj, Bool.and_true, Bool.true_and]

theorem Loopback.data (h : Loopback frame.mailbox fifo) : (fifo.decode old).data = frame.data := by
  funext i
  rw [CanFifo.decode]
  dsimp only
  rw [h.low, h.high]
  split
  · rename_i hLow
    exact dataWord_byte (fun j => frame.data ⟨j.val, by omega⟩) ⟨i.val, hLow⟩
  · rename_i hHigh
    have hEq := dataWord_byte (fun j => frame.data ⟨j.val + 4, by omega⟩) ⟨i.val - 4, by omega⟩
    refine hEq.trans (congrArg frame.data (Fin.ext ?_))
    dsimp only
    omega

end Decode

section RoundTrip

variable {canx canx' rx rx' : CanReg} {frame old got : CanFrame} {mailbox fifoNum : U8}

theorem canLoadMailbox_ok
    (h : canLoadMailbox (some canx) (some frame) = (some canx', some mailbox, .ok)) :
    ¬ frame.outOfRange ∧ canx'.txMailboxes mailbox.toNat = frame.mailbox := by
  simp only [canLoadMailbox] at h
  split at h
  · cases h
  · split at h
    · cases h
    · rename_i hRange _
      cases h
      exact ⟨hRange, Function.update_self _ _ _⟩

theorem canReadRxFrame_ok
    (h : canReadRxFrame (some rx) fifoNum (some old) = (some rx', some got, .ok)) :
    got = (rx.rxFifos fifoNum.toNat).decode old := by
  simp only [canReadRxFrame] at h
  split at h
  · cases h
  · split at h <;> cases h <;> rfl

theorem and_mask_eq_iff {id : U32} : id &&& 0x3FFFF#32 = id ↔ id ≤ 0x3FFFF := by
  constructor
  · intro hEq
    rw [← hEq, BitVec.le_def, BitVec.toNat_and]
    exact Nat.and_le_right
  · intro hLe
    exact and_of_toNat_lt (n := 18) rfl (Nat.lt_succ_of_le hLe)

end RoundTrip

/-- A frame that is sent and received is the same frame exactly if the receiver's frame had the
kind of the frame before, and an extended identifier has at most 18 bits. -/
theorem can_round_trip_iff {canx canx' rx rx' : CanReg} {frame old got : CanFrame}
    {mailbox fifoNum : U8}
    (hLoad : canLoadMailbox (some canx) (some frame) = (some canx', some mailbox, .ok))
    (hLoop : Loopback (canx'.txMailboxes mailbox.toNat) (rx.rxFifos fifoNum.toNat))
    (hRead : canReadRxFrame (some rx) fifoNum (some old) = (some rx', some got, .ok)) :
    SameFrame got frame ↔ old.idType = frame.idType ∧ old.frameType = frame.frameType ∧
      (frame.idType = extendedId → frame.id ≤ 0x3FFFF) := by
  obtain ⟨hRange, hMailbox⟩ := canLoadMailbox_ok hLoad
  obtain rfl := canReadRxFrame_ok hRead
  rw [hMailbox] at hLoop
  have hId : ((rx.rxFifos fifoNum.toNat).decode old).id =
      if frame.idType = standardId then frame.id else frame.id &&& 0x3FFFF#32 := hLoop.id hRange
  have hIdType := (CanFrame.fields_of_inRange hRange).2.1
  constructor
  · intro hSame
    refine ⟨hSame.idType, hSame.frameType, fun hExtended => ?_⟩
    rw [hSame.id, hExtended] at hId
    exact and_mask_eq_iff.mp hId.symm
  · rintro ⟨hType, hFrameType, hShort⟩
    refine ⟨?_, hType, hFrameType, hLoop.dlc hRange, hLoop.data⟩
    rw [hId]
    split
    · rfl
    · rename_i hNot
      exact and_mask_eq_iff.mpr (hShort (hIdType.resolve_left hNot))

def sampleCan : CanReg := ⟨canTsrTmeMsk 0, 0, 0, fun _ => ⟨0, 0, 0, 0⟩, fun _ => ⟨0, 0, 0, 0⟩⟩

def looped (mailbox : CanMailbox) : CanReg :=
  { sampleCan with
    rxFifos := fun _ => ⟨mailbox.tir &&& ~~~canTixrTxrqMsk, mailbox.tdtr, mailbox.tdlr, mailbox.tdhr⟩ }

theorem loopback_looped (mailbox : CanMailbox) : Loopback mailbox ((looped mailbox).rxFifos 0) where
  identifier := by
    simp only [looped, BitVec.and_assoc, BitVec.and_self]
  length := rfl
  low := rfl
  high := rfl

def sampleFrame (id : U32) (idType : U8) : CanFrame :=
  ⟨id, 2, idType, dataFrame, fun i => if i.val = 0 then 0xAB else if i.val = 1 then 0xCD else 0, 0⟩

theorem load_sampleFrame {id : U32} {idType : U8} (h : ¬ (sampleFrame id idType).outOfRange) :
    ∃ canx', canLoadMailbox (some sampleCan) (some (sampleFrame id idType)) =
      (some canx', some 0, .ok) ∧ canx'.txMailboxes 0 = (sampleFrame id idType).mailbox :=
  ⟨_, if_neg h, rfl⟩

/-- The frame of the loopback application. -/
theorem can_round_trip_iff_loopback :
    ∃ got rx', canReadRxFrame (some (looped (sampleFrame 0x123 standardId).mailbox)) 0
        (some (sampleFrame 0 standardId)) = (some rx', some got, .ok) ∧
      SameFrame got (sampleFrame 0x123 standardId) := by
  obtain ⟨canx', hLoad, hMailbox⟩ :=
    load_sampleFrame (show ¬ (sampleFrame 0x123 standardId).outOfRange by decide)
  have hLoop : Loopback (canx'.txMailboxes (0 : U8).toNat)
      ((looped (sampleFrame 0x123 standardId).mailbox).rxFifos (0 : U8).toNat) :=
    hMailbox ▸ loopback_looped _
  have hRead : canReadRxFrame (some (looped (sampleFrame 0x123 standardId).mailbox)) 0
      (some (sampleFrame 0 standardId)) = (some _, some _, .ok) := rfl
  exact ⟨_, _, hRead, (can_round_trip_iff hLoad hLoop hRead).mpr ⟨rfl, rfl, nofun⟩⟩

/-- The upper eleven bits of an extended identifier are lost. -/
theorem extended_id_lost :
    ¬ ∀ (canx canx' rx rx' : CanReg) (frame old got : CanFrame) (mailbox fifoNum : U8),
      canLoadMailbox (some canx) (some frame) = (some canx', some mailbox, .ok) →
      Loopback (canx'.txMailboxes mailbox.toNat) (rx.rxFifos fifoNum.toNat) →
      canReadRxFrame (some rx) fifoNum (some old) = (some rx', some got, .ok) →
      SameFrame got frame := by
  intro hClaim
  obtain ⟨canx', hLoad, hMailbox⟩ :=
    load_sampleFrame (show ¬ (sampleFrame 0x40000 extendedId).outOfRange by decide)
  have hLoop : Loopback (canx'.txMailboxes (0 : U8).toNat)
      ((looped (sampleFrame 0x40000 extendedId).mailbox).rxFifos (0 : U8).toNat) :=
    hMailbox ▸ loopback_looped _
  have hSame := hClaim _ _ _ _ _ (sampleFrame 0 extendedId) _ 0 0 hLoad hLoop rfl
  exact absurd hSame.id (by decide)

end KoRTOS.Hal
