import KoRTOS.Hal.Spi

/-!
# The two directions of the SPI

Both directions of the handler are the same machine: a unit is moved whenever
the flag is seen and its interrupt is enabled, and the transfer is closed when
the count comes to zero. What is done for one direction leaves the other as it
is. The polling calls look at the count before the first unit, the handler after
it.
-/

namespace KoRTOS.Hal

open RegisterBits Countdown Rounds

/-- `DFF`: a unit is two bytes of the buffer. -/
def WideFrame (cr1 : U32) : Prop := cr1 &&& bit spiCr1Dff ≠ 0

instance (cr1 : U32) : Decidable (WideFrame cr1) := by unfold WideFrame; infer_instance

def frameSize (cr1 : U32) : Nat := if WideFrame cr1 then 2 else 1

def sendFrame (cr1 : U32) (bus : Bus) : Nat → Sent → Sent :=
  if WideFrame cr1 then bus.sendHalfword 0xFFFF else bus.sendByte 0xFF

def receiveFrame (cr1 : U32) (bus : Bus) : Nat → Received → Received :=
  if WideFrame cr1 then bus.receiveHalfword 0xFFFF else bus.receiveByte 0xFF

theorem frameSize_pos {cr1 : U32} : 0 < frameSize cr1 := by
  rw [frameSize]
  split <;> decide

theorem sendFrame_cases (cr1 : U32) (bus : Bus) {α : Type} (f : Nat → (Nat → Sent → Sent) → α) :
    (if cr1 &&& bit spiCr1Dff ≠ 0 then f 2 (bus.sendHalfword 0xFFFF)
      else f 1 (bus.sendByte 0xFF)) = f (frameSize cr1) (sendFrame cr1 bus) := by
  by_cases hDff : WideFrame cr1
  · rw [if_pos (show cr1 &&& bit spiCr1Dff ≠ 0 from hDff), frameSize, sendFrame, if_pos hDff,
      if_pos hDff]
  · rw [if_neg (show ¬ cr1 &&& bit spiCr1Dff ≠ 0 from hDff), frameSize, sendFrame, if_neg hDff,
      if_neg hDff]

theorem receiveFrame_cases (cr1 : U32) (bus : Bus) {α : Type}
    (f : Nat → (Nat → Received → Received) → α) :
    (if cr1 &&& bit spiCr1Dff ≠ 0 then f 2 (bus.receiveHalfword 0xFFFF)
      else f 1 (bus.receiveByte 0xFF)) = f (frameSize cr1) (receiveFrame cr1 bus) := by
  by_cases hDff : WideFrame cr1
  · rw [if_pos (show cr1 &&& bit spiCr1Dff ≠ 0 from hDff), frameSize, receiveFrame, if_pos hDff,
      if_pos hDff]
  · rw [if_neg (show ¬ cr1 &&& bit spiCr1Dff ≠ 0 from hDff), frameSize, receiveFrame, if_neg hDff,
      if_neg hDff]

section Polling

variable {cr1 : U32} {bus : Bus}

theorem spiGetFlagStatus_eq_zero {sr : U32} {flagBit : Nat} (h : flagBit < 8) :
    spiGetFlagStatus sr flagBit = 0 ↔ ¬ sr.getLsbD flagBit = true := by
  have hBit : (spiGetFlagStatus sr flagBit).getLsbD flagBit = sr.getLsbD flagBit := by
    rw [spiGetFlagStatus, BitVec.getLsbD_setWidth, BitVec.getLsbD_and, getLsbD_bit,
      decide_eq_true h, decide_eq_true rfl, decide_eq_true (by omega), Bool.and_true,
      Bool.and_true, Bool.true_and]
  constructor
  · intro hZero
    rw [← hBit, hZero]
    simp
  · intro hClear
    apply BitVec.eq_of_getLsbD_eq
    intro j hj
    rw [spiGetFlagStatus, BitVec.getLsbD_setWidth, BitVec.getLsbD_and, getLsbD_bit]
    by_cases hEq : j = flagBit
    · subst hEq
      simp [hClear]
    · simp [hEq]

theorem spiSendRound_eq : spiSendRound cr1 bus =
    downRound (sendFrame cr1 bus) (frameSize cr1) (frameSize cr1) (·.getLsbD spiSrTxe)
      fun _ => true := by
  funext sr cursor
  have hTxe : spiGetFlagStatus sr spiSrTxe = 0 ↔ _ := spiGetFlagStatus_eq_zero (by decide)
  have hPos : 0 < cursor.count ↔ cursor.count ≠ 0#32 := BitVec.pos_iff_ne_zero _
  simp only [spiSendRound, downRound, hTxe, hPos, ite_not]
  split
  · rfl
  · split
    · have hFrame := sendFrame_cases cr1 bus fun size move =>
        (Sum.inl (cursor.serve move size size) : Cursor 32 Sent ⊕ Sent)
      rw [ite_not] at hFrame
      exact hFrame
    · rfl

theorem spiReceiveRound_eq : spiReceiveRound cr1 bus =
    downRound (receiveFrame cr1 bus) (frameSize cr1) (frameSize cr1) (·.getLsbD spiSrRxne)
      fun _ => true := by
  funext sr cursor
  have hRxne : spiGetFlagStatus sr spiSrRxne = 0 ↔ _ := spiGetFlagStatus_eq_zero (by decide)
  have hPos : 0 < cursor.count ↔ cursor.count ≠ 0#32 := BitVec.pos_iff_ne_zero _
  simp only [spiReceiveRound, downRound, hRxne, hPos, ite_not]
  split
  · rfl
  · split
    · have hFrame := receiveFrame_cases cr1 bus fun size move =>
        (Sum.inl (cursor.serve move size size) : Cursor 32 Received ⊕ Received)
      rw [ite_not] at hFrame
      exact hFrame
    · rfl

end Polling

/-- What the handler keeps of one direction. -/
structure SpiSide (τ : Type) where
  cr1 : U32
  enabled : Bool
  state : SpiState
  left : U32
  address : Nat
  moved : τ
  reports : Nat

namespace SpiSide

variable {τ : Type} {move : Nat → τ → τ} {size : Nat} {flag : Bool} {side : SpiSide τ}

def serve (move : Nat → τ → τ) (size : Nat) (side : SpiSide τ) : SpiSide τ :=
  { side with
    left := side.left - BitVec.ofNat 32 size
    address := side.address + size
    moved := move side.address side.moved }

def close (side : SpiSide τ) : SpiSide τ :=
  { side with
    enabled := false
    state := .ready
    left := 0
    address := NULL
    reports := side.reports + 1 }

def interrupt (move : Nat → τ → τ) (size : Nat) (flag : Bool) (side : SpiSide τ) : SpiSide τ :=
  if flag && side.enabled then
    if (side.serve move size).left = 0 then (side.serve move size).close
    else side.serve move size
  else side

def view (side : SpiSide τ) : Cursor 32 τ ⊕ τ :=
  if side.enabled then .inl ⟨side.left, side.address, side.moved⟩ else .inr side.moved

/-- The interrupt is enabled as long as the transfer is not closed and reported. -/
structure Consistent (side : SpiSide τ) : Prop where
  busy : side.enabled = true → side.state ≠ .ready ∧ side.reports = 0
  closed : side.enabled = false → side.state = .ready ∧ side.reports = 1 ∧ side.left = 0

theorem view_enabled (h : side.enabled = true) :
    side.view = .inl ⟨side.left, side.address, side.moved⟩ :=
  if_pos h

theorem view_closed (h : side.enabled = false) : side.view = .inr side.moved :=
  if_neg (by rw [h]; decide)

theorem Consistent.interrupt (h : side.Consistent) : (side.interrupt move size flag).Consistent := by
  rw [SpiSide.interrupt]
  split
  · rename_i hFlag
    have hEnabled := (Bool.and_eq_true_iff.mp hFlag).2
    have hBusy := h.busy hEnabled
    split
    · exact ⟨nofun, fun _ => ⟨rfl, congrArg (· + 1) hBusy.2, rfl⟩⟩
    · exact ⟨fun _ => hBusy, fun hOff => Bool.noConfusion (hEnabled.symm.trans hOff)⟩
  · exact h

theorem interrupt_cr1 : (side.interrupt move size flag).cr1 = side.cr1 := by
  rw [interrupt]
  split
  · split <;> rfl
  · rfl

theorem interrupt_view {ι : Type} {ready : ι → Bool} {i : ι} :
    (side.interrupt move size (ready i)).view =
      unlessLeft (serveRound move size size false ready) i side.view := by
  by_cases hEnabled : side.enabled = true
  · have hNext : (side.serve move size).enabled = true := hEnabled
    have hClosed : (side.serve move size).close.enabled = false := rfl
    rw [view_enabled hEnabled, SpiSide.interrupt, hEnabled, Bool.and_true, unlessLeft, Sum.elim_inl,
      serveRound]
    by_cases hReady : ready i = true
    · have hServe : ready i = true ∧ (false = true → side.left ≠ 0#32) := ⟨hReady, (Bool.noConfusion ·)⟩
      rw [if_pos hReady, if_pos hServe, apply_ite SpiSide.view, view_closed hClosed,
        view_enabled hNext]
      rfl
    · rw [if_neg hReady, if_neg fun hServe => hReady hServe.1, view_enabled hEnabled]
  · have hOff := Bool.eq_false_of_not_eq_true hEnabled
    have hSame : side.interrupt move size (ready i) = side := by
      rw [SpiSide.interrupt, hOff, Bool.and_false]
      rfl
    rw [hSame, view_closed hOff]
    rfl

end SpiSide

namespace Spi

def txSide (spi : Spi) : SpiSide Sent where
  cr1 := spi.cr1
  enabled := spi.cr2.getLsbD spiCr2Txeie
  state := spi.txState
  left := spi.txLen
  address := spi.pTxBuffer
  moved := spi.sent
  reports := spi.events.count .txCmplt

def rxSide (spi : Spi) : SpiSide Received where
  cr1 := spi.cr1
  enabled := spi.cr2.getLsbD spiCr2Rxneie
  state := spi.rxState
  left := spi.rxLen
  address := spi.pRxBuffer
  moved := spi.received
  reports := spi.events.count .rxCmplt

variable {bus : Bus} {sr : U32} {spi : Spi} {event : SpiEvent}

theorem eventCallback_txSide (h : event ≠ .txCmplt) :
    (spi.eventCallback event).txSide = spi.txSide := by
  simp [txSide, eventCallback, h]

theorem eventCallback_rxSide (h : event ≠ .rxCmplt) :
    (spi.eventCallback event).rxSide = spi.rxSide := by
  simp [rxSide, eventCallback, h]

theorem closeTransmission_txSide :
    (spi.closeTransmission.eventCallback .txCmplt).txSide = spi.txSide.close := by
  have hTxeie : (spi.cr2 &&& ~~~bit spiCr2Txeie).getLsbD spiCr2Txeie = false := by
    rw [getLsbD_and_not_bit (by decide), decide_eq_true rfl, Bool.not_true, Bool.and_false]
  simp [txSide, closeTransmission, eventCallback, SpiSide.close, hTxeie]

theorem closeReception_rxSide :
    (spi.closeReception.eventCallback .rxCmplt).rxSide = spi.rxSide.close := by
  have hRxneie : (spi.cr2 &&& ~~~bit spiCr2Rxneie).getLsbD spiCr2Rxneie = false := by
    rw [getLsbD_and_not_bit (by decide), decide_eq_true rfl, Bool.not_true, Bool.and_false]
  simp [rxSide, closeReception, eventCallback, SpiSide.close, hRxneie]

theorem closeTransmission_rxSide : spi.closeTransmission.rxSide = spi.rxSide := by
  have hRxneie : spiCr2Rxneie ≠ spiCr2Txeie := by decide
  simp only [rxSide, closeTransmission, getLsbD_and_not_bit_of_ne (w := 32) (by decide) hRxneie]

theorem closeReception_txSide : spi.closeReception.txSide = spi.txSide := by
  have hTxeie : spiCr2Txeie ≠ spiCr2Rxneie := by decide
  simp only [txSide, closeReception, getLsbD_and_not_bit_of_ne (w := 32) (by decide) hTxeie]

def afterSending (spi : Spi) (size : Nat) (move : Nat → Sent → Sent) : Spi :=
  { spi with
    sent := move spi.pTxBuffer spi.sent
    txLen := spi.txLen - BitVec.ofNat 32 size
    pTxBuffer := spi.pTxBuffer + size }

def afterReceiving (spi : Spi) (size : Nat) (move : Nat → Received → Received) : Spi :=
  { spi with
    received := move spi.pRxBuffer spi.received
    rxLen := spi.rxLen - BitVec.ofNat 32 size
    pRxBuffer := spi.pRxBuffer + size }

theorem txeieHandle_eq : spi.txeieHandle bus =
    let next := spi.afterSending (frameSize spi.cr1) (sendFrame spi.cr1 bus)
    if next.txLen = 0 then next.closeTransmission.eventCallback .txCmplt else next := by
  rw [← sendFrame_cases spi.cr1 bus spi.afterSending]
  rfl

theorem rxneieHandle_eq : spi.rxneieHandle bus =
    let next := spi.afterReceiving (frameSize spi.cr1) (receiveFrame spi.cr1 bus)
    if next.rxLen = 0 then next.closeReception.eventCallback .rxCmplt else next := by
  rw [← receiveFrame_cases spi.cr1 bus spi.afterReceiving]
  rfl

theorem txeieHandle_rxSide : (spi.txeieHandle bus).rxSide = spi.rxSide := by
  rw [txeieHandle_eq]
  dsimp only
  split
  · rw [eventCallback_rxSide (by decide), closeTransmission_rxSide]
    rfl
  · rfl

theorem rxneieHandle_txSide : (spi.rxneieHandle bus).txSide = spi.txSide := by
  rw [rxneieHandle_eq]
  dsimp only
  split
  · rw [eventCallback_txSide (by decide), closeReception_txSide]
    rfl
  · rfl

theorem txeieHandle_txSide (flag : Bool) :
    (if flag && spi.cr2.getLsbD spiCr2Txeie then spi.txeieHandle bus else spi).txSide =
      spi.txSide.interrupt (sendFrame spi.txSide.cr1 bus) (frameSize spi.txSide.cr1) flag := by
  rw [apply_ite txSide, txeieHandle_eq]
  dsimp only
  rw [apply_ite txSide, closeTransmission_txSide]
  rfl

theorem rxneieHandle_rxSide (flag : Bool) :
    (if flag && spi.cr2.getLsbD spiCr2Rxneie then spi.rxneieHandle bus else spi).rxSide =
      spi.rxSide.interrupt (receiveFrame spi.rxSide.cr1 bus) (frameSize spi.rxSide.cr1) flag := by
  rw [apply_ite rxSide, rxneieHandle_eq]
  dsimp only
  rw [apply_ite rxSide, closeReception_rxSide]
  rfl

theorem irqHandler_txSide : (irqHandler bus sr spi).txSide = spi.txSide.interrupt
    (sendFrame spi.txSide.cr1 bus) (frameSize spi.txSide.cr1) (sr.getLsbD spiSrTxe) := by
  dsimp only [irqHandler]
  rw [apply_ite txSide, ovrHandle, eventCallback_txSide (by decide), ite_self, apply_ite txSide,
    rxneieHandle_txSide, ite_self, txeieHandle_txSide]

theorem irqHandler_rxSide : (irqHandler bus sr spi).rxSide = spi.rxSide.interrupt
    (receiveFrame spi.rxSide.cr1 bus) (frameSize spi.rxSide.cr1) (sr.getLsbD spiSrRxne) := by
  dsimp only [irqHandler]
  have hBefore : (if sr.getLsbD spiSrTxe && spi.cr2.getLsbD spiCr2Txeie then spi.txeieHandle bus
      else spi).rxSide = spi.rxSide := by
    rw [apply_ite rxSide, txeieHandle_rxSide, ite_self]
  rw [apply_ite rxSide, ovrHandle, eventCallback_rxSide (by decide), ite_self, rxneieHandle_rxSide,
    hBefore]

theorem irqHandler_cr1 : (irqHandler bus sr spi).cr1 = spi.cr1 := by
  have hSide : (irqHandler bus sr spi).txSide.cr1 = spi.txSide.cr1 := by
    rw [irqHandler_txSide, SpiSide.interrupt_cr1]
  exact hSide

end Spi

end KoRTOS.Hal
