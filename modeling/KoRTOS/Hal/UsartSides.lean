import KoRTOS.Hal.Usart

/-!
# The two directions of the USART

The polling calls count up through the buffer, the handler counts down: the
transmitting side ends when TC is seen after the last word, the receiving side
with the word that brings the count to zero. What the handler does for one side
leaves the other as it is.
-/

namespace KoRTOS.Hal

open RegisterBits Countdown Rounds

namespace UsartConfig

variable (config : UsartConfig)

/-- Nine bits of data: a word takes two bytes of the buffer. -/
def Wide : Prop := config.wordLen = usartWordLen9Bits ∧ config.parity = usartParityDisable

instance : Decidable config.Wide := by unfold Wide; infer_instance

def size : Nat := if config.Wide then 2 else 1

/-- With eight bits and parity, seven are data. -/
def mask : U8 :=
  if config.wordLen ≠ usartWordLen9Bits ∧ config.parity ≠ usartParityDisable then 0x7F else 0xFF

def send (bus : Bus) : Nat → Sent → Sent :=
  if config.Wide then bus.sendHalfword 0x01FF else bus.sendByte config.mask

def receive (bus : Bus) : Nat → Received → Received :=
  if config.Wide then bus.receiveHalfword 0x01FF else bus.receiveByte config.mask

theorem size_pos : 0 < config.size := by
  rw [size]
  split <;> decide

theorem send_cases (bus : Bus) {α : Type} (f : Nat → (Nat → Sent → Sent) → α) :
    (if config.wordLen = usartWordLen9Bits then
      if config.parity = usartParityDisable then f 2 (bus.sendHalfword 0x01FF)
      else f 1 (bus.sendByte 0xFF)
    else if config.parity = usartParityDisable then f 1 (bus.sendByte 0xFF)
    else f 1 (bus.sendByte 0x7F)) = f config.size (config.send bus) := by
  by_cases hWord : config.wordLen = usartWordLen9Bits <;>
    by_cases hParity : config.parity = usartParityDisable <;>
    simp [size, send, mask, Wide, hWord, hParity]

theorem receive_cases (bus : Bus) {α : Type} (f : Nat → (Nat → Received → Received) → α) :
    (if config.wordLen = usartWordLen9Bits then
      if config.parity = usartParityDisable then f 2 (bus.receiveHalfword 0x01FF)
      else f 1 (bus.receiveByte 0xFF)
    else if config.parity = usartParityDisable then f 1 (bus.receiveByte 0xFF)
    else f 1 (bus.receiveByte 0x7F)) = f config.size (config.receive bus) := by
  by_cases hWord : config.wordLen = usartWordLen9Bits <;>
    by_cases hParity : config.parity = usartParityDisable <;>
    simp [size, receive, mask, Wide, hWord, hParity]

end UsartConfig

section Polling

variable {config : UsartConfig} {bus : Bus} {len : U32}

theorem usartGetFlagStatus_eq_zero {sr : U32} {flagBit : Nat} :
    usartGetFlagStatus sr flagBit = 0 ↔ ¬ sr.getLsbD flagBit = true := by
  have hOne : usartGetFlagStatus sr flagBit = (BitVec.ofBool (sr.getLsbD flagBit)).setWidth 8 := by
    apply BitVec.eq_of_getLsbD_eq
    intro j hj
    simp only [usartGetFlagStatus, BitVec.getLsbD_setWidth, BitVec.getLsbD_and,
      BitVec.getLsbD_ushiftRight]
    cases j with
    | zero => simp
    | succ j => simp
  rw [hOne]
  cases sr.getLsbD flagBit <;> decide

theorem usartSendRound_eq : usartSendRound config bus len =
    upRound (config.send bus) config.size len (·.getLsbD usartSrTxe) (·.getLsbD usartSrTc) := by
  funext sr cursor
  have hTxe : usartGetFlagStatus sr usartSrTxe = 0 ↔ _ := usartGetFlagStatus_eq_zero
  have hTc : usartGetFlagStatus sr usartSrTc = 0 ↔ _ := usartGetFlagStatus_eq_zero
  simp only [usartSendRound, upRound, hTxe, hTc, ite_not]
  split
  · split
    · let next (size : Nat) (move : Nat → Sent → Sent) : Cursor 32 Sent ⊕ Sent :=
        .inl ⟨cursor.count + 1, cursor.address + size, move cursor.address cursor.moved⟩
      exact config.send_cases bus next
    · rfl
  · rfl

theorem usartReceiveRound_eq : usartReceiveRound config bus len =
    upRound (config.receive bus) config.size len (·.getLsbD usartSrRxne) fun _ => true := by
  funext sr cursor
  have hRxne : usartGetFlagStatus sr usartSrRxne = 0 ↔ _ := usartGetFlagStatus_eq_zero
  simp only [usartReceiveRound, upRound, hRxne, ite_not]
  split
  · split
    · let next (size : Nat) (move : Nat → Received → Received) : Cursor 32 Received ⊕ Received :=
        .inl ⟨cursor.count + 1, cursor.address + size, move cursor.address cursor.moved⟩
      exact config.receive_cases bus next
    · rfl
  · rfl

end Polling

namespace Usart

variable {bus : Bus} {sr : U32} {usart : Usart}

def afterSending (usart : Usart) (size : Nat) (move : Nat → Sent → Sent) : Usart :=
  { usart with
    sent := move usart.pTxBuffer usart.sent
    pTxBuffer := usart.pTxBuffer + size
    txLen := usart.txLen - BitVec.ofNat 32 size }

def afterReceiving (usart : Usart) (size : Nat) (move : Nat → Received → Received) : Usart :=
  { usart with
    received := move usart.pRxBuffer usart.received
    pRxBuffer := usart.pRxBuffer + size
    rxLen := usart.rxLen - BitVec.ofNat 32 size }

theorem sendNext_eq : usart.sendNext bus =
    usart.afterSending usart.config.size (usart.config.send bus) :=
  usart.config.send_cases bus usart.afterSending

theorem receiveNext_eq : usart.receiveNext bus =
    usart.afterReceiving usart.config.size (usart.config.receive bus) :=
  usart.config.receive_cases bus usart.afterReceiving

end Usart

/-- No access that clears a flag takes a word. -/
def UsartVisit.Clean (visit : UsartVisit) : Prop := ∀ event, visit.takes event = false

/-- What the handler keeps of the transmitting side. -/
structure TxSide where
  config : UsartConfig
  state : UsartState
  left : U32
  address : Nat
  sent : Sent
  tcie : Bool
  txeie : Bool
  reported : Prop

def Usart.txSide (usart : Usart) : TxSide where
  config := usart.config
  state := usart.txState
  left := usart.txLen
  address := usart.pTxBuffer
  sent := usart.sent
  tcie := usart.cr1.getLsbD usartCr1Tcie
  txeie := usart.cr1.getLsbD usartCr1Txeie
  reported := .txCmplt ∈ usart.events

namespace Usart

variable {bus : Bus} {sr : U32} {visit : UsartVisit} {usart : Usart} {event : UsartEvent}

theorem checkErrors_side {α : Type} {side : Usart → α} (hSide : ∀ usart event,
    event ≠ .txCmplt → event ≠ .rxCmplt →
      side ((clearFlag visit event usart).eventCallback event) = side usart) :
    side (checkErrors visit usart) = side usart := by
  have hNotify : ∀ usart condition event, event ≠ .txCmplt → event ≠ .rxCmplt →
      side (notifyIf visit usart condition event) = side usart := by
    intro usart condition event hTx hRx
    rw [notifyIf]
    split
    · exact hSide usart event hTx hRx
    · rfl
  dsimp only [checkErrors]
  split
  · split
    · rw [hSide _ .nf (by decide) (by decide), hNotify _ _ .ore (by decide) (by decide),
        hNotify _ _ .idle (by decide) (by decide), hNotify _ _ .cts (by decide) (by decide)]
    · rw [hNotify _ _ .fe (by decide) (by decide), hNotify _ _ .ore (by decide) (by decide),
        hNotify _ _ .idle (by decide) (by decide), hNotify _ _ .cts (by decide) (by decide)]
  · rw [hNotify _ _ .ore (by decide) (by decide), hNotify _ _ .idle (by decide) (by decide),
      hNotify _ _ .cts (by decide) (by decide)]

theorem eventCallback_txSide (h : event ≠ .txCmplt) :
    (usart.eventCallback event).txSide = usart.txSide := by
  simp [txSide, eventCallback, h.symm]

theorem clearFlag_txSide : (usart.clearFlag visit event).txSide = usart.txSide := by
  rw [clearFlag]
  split <;> rfl

theorem closeReception_txSide : usart.closeReception.txSide = usart.txSide := by
  have hTcie : usartCr1Tcie ≠ usartCr1Rxneie := by decide
  have hTxeie : usartCr1Txeie ≠ usartCr1Rxneie := by decide
  simp only [txSide, closeReception, getLsbD_and_not_bit_of_ne (w := 32) (by decide) hTcie,
    getLsbD_and_not_bit_of_ne (w := 32) (by decide) hTxeie]

theorem checkRxne_txSide : (checkRxne bus sr usart).txSide = usart.txSide := by
  have hNext : (usart.receiveNext bus).txSide = usart.txSide := by
    rw [receiveNext_eq]
    rfl
  rw [checkRxne]
  dsimp only
  split
  · split
    · split
      · split
        · rw [eventCallback_txSide (by decide), closeReception_txSide, hNext]
        · exact hNext
      · rfl
    · rfl
  · rfl

theorem irqHandling_txSide : (irqHandling bus visit usart).txSide =
    (checkTxe bus visit.sr (checkTc visit usart)).txSide := by
  have hSide : ∀ (usart : Usart) event, event ≠ .txCmplt → event ≠ .rxCmplt →
      ((usart.clearFlag visit event).eventCallback event).txSide = usart.txSide :=
    fun _ _ hTx _ => (eventCallback_txSide hTx).trans clearFlag_txSide
  rw [irqHandling, checkErrors_side hSide, checkRxne_txSide]

theorem closeTransmission_txSide : (usart.closeTransmission.eventCallback .txCmplt).txSide =
    ⟨usart.config, .ready, 0, NULL, usart.sent, false, usart.txSide.txeie, True⟩ := by
  have hTcie : (usart.cr1 &&& ~~~bit usartCr1Tcie).getLsbD usartCr1Tcie = false := by
    rw [getLsbD_and_not_bit (by decide), decide_eq_true rfl, Bool.not_true, Bool.and_false]
  have hTxeie : usartCr1Txeie ≠ usartCr1Tcie := by decide
  simp only [txSide, closeTransmission, eventCallback, hTcie,
    getLsbD_and_not_bit_of_ne (w := 32) (by decide) hTxeie, List.mem_append, List.mem_singleton,
    or_true]

theorem disableTxeie_txSide : usart.disableTxeie.txSide = { usart.txSide with txeie := false } := by
  have hTxeie : (usart.cr1 &&& ~~~bit usartCr1Txeie).getLsbD usartCr1Txeie = false := by
    rw [getLsbD_and_not_bit (by decide), decide_eq_true rfl, Bool.not_true, Bool.and_false]
  have hTcie : usartCr1Tcie ≠ usartCr1Txeie := by decide
  simp only [txSide, disableTxeie, hTxeie, getLsbD_and_not_bit_of_ne (w := 32) (by decide) hTcie]

end Usart

namespace TxSide

variable {bus : Bus} {sr : U32} {visit : UsartVisit} {usart : Usart} {side : TxSide}

/-- The interrupts that the transfer waits for are enabled, and its end is reported. -/
structure Enabled (side : TxSide) : Prop where
  tcie : side.state = .busyTx → side.tcie = true
  txeie : side.state = .busyTx → side.left ≠ 0 → side.txeie = true
  reported : side.reported ↔ side.state ≠ .busyTx

def view (side : TxSide) : Cursor 32 Sent ⊕ Sent :=
  if side.state = .busyTx then .inl ⟨side.left, side.address, side.sent⟩ else .inr side.sent

theorem view_busy (h : side.state = .busyTx) :
    side.view = .inl ⟨side.left, side.address, side.sent⟩ :=
  if_pos h

theorem view_ready (h : side.state ≠ .busyTx) : side.view = .inr side.sent := if_neg h

/-- One invocation, as a round of counting down. -/
structure Follows (bus : Bus) (sr : U32) (side side' : TxSide) : Prop where
  enabled : side'.Enabled
  config : side'.config = side.config
  view : side'.view = unlessLeft (downRound (side.config.send bus) side.config.size
    side.config.size (·.getLsbD usartSrTxe) (·.getLsbD usartSrTc)) sr side.view

theorem view_round (hBusy : side.state = .busyTx) :
    unlessLeft (downRound (side.config.send bus) side.config.size side.config.size
      (·.getLsbD usartSrTxe) (·.getLsbD usartSrTc)) sr side.view =
      if side.left = 0#32 then
        if sr.getLsbD usartSrTc then .inr side.sent else side.view
      else if sr.getLsbD usartSrTxe then
        .inl ⟨side.left - BitVec.ofNat 32 side.config.size, side.address + side.config.size,
          side.config.send bus side.address side.sent⟩
      else side.view := by
  rw [view_busy hBusy]
  rfl

theorem follows_of_left_eq_zero (h : usart.txSide.Enabled) (hBusy : usart.txState = .busyTx)
    (hLeft : usart.txLen = 0#32) : Follows bus visit.sr usart.txSide
      (Usart.checkTxe bus visit.sr (Usart.checkTc visit usart)).txSide := by
  have hTcie : usart.cr1.getLsbD usartCr1Tcie = true := h.tcie hBusy
  by_cases hTc : visit.sr.getLsbD usartSrTc = true
  · have hClosed : Usart.checkTc visit usart =
        (usart.clearFlag visit .txCmplt).closeTransmission.eventCallback .txCmplt := by
      rw [Usart.checkTc, if_pos (by rw [hTc, hTcie]; rfl), if_pos ⟨hBusy, hLeft⟩]
    have hReady : ∀ usart : Usart, Usart.checkTxe bus visit.sr
        (usart.closeTransmission.eventCallback .txCmplt) =
          usart.closeTransmission.eventCallback .txCmplt := by
      intro usart
      rw [Usart.checkTxe]
      exact ite_self _
    have hSame : (usart.clearFlag visit .txCmplt).txSide = usart.txSide := Usart.clearFlag_txSide
    have hConfig : (usart.clearFlag visit .txCmplt).config = usart.config :=
      congrArg TxSide.config hSame
    have hSent : (usart.clearFlag visit .txCmplt).sent = usart.sent := congrArg TxSide.sent hSame
    rw [hClosed, hReady, Usart.closeTransmission_txSide, hSame, hConfig, hSent]
    refine ⟨⟨nofun, nofun, by simp⟩, rfl, ?_⟩
    have hZero : usart.txSide.left = 0#32 := hLeft
    rw [view_round hBusy, if_pos hZero, if_pos hTc]
    rfl
  · have hOpen : Usart.checkTc visit usart = usart := by
      rw [Usart.checkTc, Bool.eq_false_of_not_eq_true hTc]
      rfl
    have hView : ∀ side : TxSide, side.state = .busyTx → side.left = 0#32 →
        side.view = unlessLeft (downRound (side.config.send bus) side.config.size side.config.size
          (·.getLsbD usartSrTxe) (·.getLsbD usartSrTc)) visit.sr side.view := by
      intro side hBusy hLeft
      rw [view_round hBusy, if_pos hLeft, if_neg hTc]
    rw [hOpen, Usart.checkTxe]
    by_cases hTxe : (visit.sr.getLsbD usartSrTxe && usart.cr1.getLsbD usartCr1Txeie) = true
    · have hNone : ¬ 0 < usart.txLen := by
        rw [hLeft]
        decide
      rw [if_pos hTxe, if_pos hBusy, if_neg hNone]
      dsimp only
      rw [if_pos (show usart.txLen = 0 from hLeft), Usart.disableTxeie_txSide]
      exact ⟨⟨h.tcie, fun _ hNe => absurd hLeft hNe, h.reported⟩, rfl, hView usart.txSide hBusy hLeft⟩
    · rw [if_neg hTxe]
      exact ⟨h, rfl, hView _ hBusy hLeft⟩

def next (side : TxSide) (bus : Bus) : TxSide :=
  { side with
    left := side.left - BitVec.ofNat 32 side.config.size
    address := side.address + side.config.size
    sent := side.config.send bus side.address side.sent }

theorem sendNext_txSide : (usart.sendNext bus).txSide = usart.txSide.next bus := by
  rw [Usart.sendNext_eq]
  rfl

theorem follows_next (h : side.Enabled) (hBusy : side.state = .busyTx) (hLeft : side.left ≠ 0#32)
    (hTxe : sr.getLsbD usartSrTxe = true) {txeie : Bool}
    (hTxeie : (side.next bus).left ≠ 0 → txeie = true) :
    Follows bus sr side { side.next bus with txeie := txeie } := by
  refine ⟨⟨h.tcie, fun _ => hTxeie, h.reported⟩, rfl, ?_⟩
  rw [view_round hBusy, if_neg hLeft, if_pos hTxe]
  exact view_busy hBusy

theorem follows_of_left_ne_zero (h : usart.txSide.Enabled) (hBusy : usart.txState = .busyTx)
    (hLeft : usart.txLen ≠ 0#32) : Follows bus visit.sr usart.txSide
      (Usart.checkTxe bus visit.sr (Usart.checkTc visit usart)).txSide := by
  have hOpen : Usart.checkTc visit usart = usart := by
    rw [Usart.checkTc, if_neg (fun hEnd : _ ∧ usart.txLen = 0 => hLeft hEnd.2), ite_self]
  have hTxeie : usart.cr1.getLsbD usartCr1Txeie = true := h.txeie hBusy hLeft
  rw [hOpen, Usart.checkTxe]
  by_cases hTxe : visit.sr.getLsbD usartSrTxe = true
  · have hPos : 0 < usart.txLen := (BitVec.pos_iff_ne_zero _).mpr hLeft
    rw [if_pos (by rw [hTxe, hTxeie]; rfl), if_pos hBusy, if_pos hPos]
    dsimp only
    split
    · rename_i hLast
      have hZero : (usart.txSide.next bus).left = 0 := by
        rw [← sendNext_txSide]
        exact hLast
      rw [Usart.disableTxeie_txSide, sendNext_txSide]
      exact follows_next h hBusy hLeft hTxe fun hNe => absurd hZero hNe
    · rw [sendNext_txSide]
      exact follows_next h hBusy hLeft hTxe fun _ => hTxeie
  · rw [if_neg (by simp [hTxe])]
    refine ⟨h, rfl, ?_⟩
    rw [view_round hBusy, if_neg (show ¬ usart.txSide.left = 0#32 from hLeft), if_neg hTxe]

theorem irqHandling_follows (h : usart.txSide.Enabled) :
    Follows bus visit.sr usart.txSide (Usart.irqHandling bus visit usart).txSide := by
  rw [Usart.irqHandling_txSide]
  by_cases hBusy : usart.txState = .busyTx
  · by_cases hLeft : usart.txLen = 0#32
    · exact follows_of_left_eq_zero h hBusy hLeft
    · exact follows_of_left_ne_zero h hBusy hLeft
  · have hTc : Usart.checkTc visit usart = usart := by
      rw [Usart.checkTc, if_neg (fun hEnd : _ ∧ _ => hBusy hEnd.1), ite_self]
    have hTxe : Usart.checkTxe bus visit.sr usart = usart := by
      rw [Usart.checkTxe, if_neg hBusy, ite_self]
    rw [hTc, hTxe]
    refine ⟨h, rfl, ?_⟩
    rw [view_ready hBusy]
    rfl

end TxSide

structure RxSide where
  config : UsartConfig
  state : UsartState
  left : U32
  address : Nat
  received : Received
  rxneie : Bool
  reported : Prop

def Usart.rxSide (usart : Usart) : RxSide where
  config := usart.config
  state := usart.rxState
  left := usart.rxLen
  address := usart.pRxBuffer
  received := usart.received
  rxneie := usart.cr1.getLsbD usartCr1Rxneie
  reported := .rxCmplt ∈ usart.events

namespace Usart

variable {bus : Bus} {sr : U32} {visit : UsartVisit} {usart : Usart} {event : UsartEvent}

theorem eventCallback_rxSide (h : event ≠ .rxCmplt) :
    (usart.eventCallback event).rxSide = usart.rxSide := by
  simp [rxSide, eventCallback, h.symm]

theorem clearFlag_clean (h : visit.Clean) : usart.clearFlag visit event = usart := by
  rw [clearFlag, h event]
  rfl

theorem closeTransmission_rxSide : usart.closeTransmission.rxSide = usart.rxSide := by
  have hRxneie : usartCr1Rxneie ≠ usartCr1Tcie := by decide
  simp only [rxSide, closeTransmission, getLsbD_and_not_bit_of_ne (w := 32) (by decide) hRxneie]

theorem disableTxeie_rxSide : usart.disableTxeie.rxSide = usart.rxSide := by
  have hRxneie : usartCr1Rxneie ≠ usartCr1Txeie := by decide
  simp only [rxSide, disableTxeie, getLsbD_and_not_bit_of_ne (w := 32) (by decide) hRxneie]

theorem checkTc_rxSide (h : visit.Clean) : (checkTc visit usart).rxSide = usart.rxSide := by
  rw [checkTc]
  split
  · split
    · rw [clearFlag_clean h, eventCallback_rxSide (by decide), closeTransmission_rxSide]
    · rfl
  · rfl

theorem checkTxe_rxSide : (checkTxe bus sr usart).rxSide = usart.rxSide := by
  have hNext : (if 0 < usart.txLen then usart.sendNext bus else usart).rxSide = usart.rxSide := by
    split
    · rw [sendNext_eq]
      rfl
    · rfl
  have hDisable : ∀ usart : Usart,
      (if usart.txLen = 0 then usart.disableTxeie else usart).rxSide = usart.rxSide := by
    intro usart
    split
    · exact disableTxeie_rxSide
    · rfl
  rw [checkTxe]
  split
  · split
    · exact (hDisable _).trans hNext
    · rfl
  · rfl

theorem closeReception_rxSide : (usart.closeReception.eventCallback .rxCmplt).rxSide =
    ⟨usart.config, .ready, usart.rxLen, usart.pRxBuffer, usart.received, false, True⟩ := by
  have hRxneie : (usart.cr1 &&& ~~~bit usartCr1Rxneie).getLsbD usartCr1Rxneie = false := by
    rw [getLsbD_and_not_bit (by decide), decide_eq_true rfl, Bool.not_true, Bool.and_false]
  simp only [rxSide, closeReception, eventCallback, hRxneie, List.mem_append, List.mem_singleton,
    or_true]

theorem irqHandling_rxSide (h : visit.Clean) : (irqHandling bus visit usart).rxSide =
    (checkRxne bus visit.sr (checkTxe bus visit.sr (checkTc visit usart))).rxSide := by
  have hSide : ∀ (usart : Usart) event, event ≠ .txCmplt → event ≠ .rxCmplt →
      ((usart.clearFlag visit event).eventCallback event).rxSide = usart.rxSide := by
    intro usart event _ hRx
    rw [clearFlag_clean h, eventCallback_rxSide hRx]
  exact checkErrors_side hSide

end Usart

namespace RxSide

variable {bus : Bus} {sr : U32} {visit : UsartVisit} {usart : Usart} {side : RxSide}

structure Enabled (side : RxSide) : Prop where
  rxneie : side.state = .busyRx → side.rxneie = true
  reported : side.reported ↔ side.state ≠ .busyRx

def view (side : RxSide) : Cursor 32 Received ⊕ Received :=
  if side.state = .busyRx then .inl ⟨side.left, side.address, side.received⟩
  else .inr side.received

theorem view_busy (h : side.state = .busyRx) :
    side.view = .inl ⟨side.left, side.address, side.received⟩ :=
  if_pos h

theorem view_ready (h : side.state ≠ .busyRx) : side.view = .inr side.received := if_neg h

structure Follows (bus : Bus) (sr : U32) (side side' : RxSide) : Prop where
  enabled : side'.Enabled
  config : side'.config = side.config
  view : side'.view = unlessLeft (serveRound (side.config.receive bus) side.config.size
    side.config.size true (·.getLsbD usartSrRxne)) sr side.view

def next (side : RxSide) (bus : Bus) : RxSide :=
  { side with
    left := side.left - BitVec.ofNat 32 side.config.size
    address := side.address + side.config.size
    received := side.config.receive bus side.address side.received }

theorem receiveNext_rxSide : (usart.receiveNext bus).rxSide = usart.rxSide.next bus := by
  rw [Usart.receiveNext_eq]
  rfl

theorem view_round (hBusy : side.state = .busyRx) :
    unlessLeft (serveRound (side.config.receive bus) side.config.size
      side.config.size true (·.getLsbD usartSrRxne)) sr side.view =
      if sr.getLsbD usartSrRxne = true ∧ (true = true → side.left ≠ 0#32) then
        if (side.next bus).left = 0#32 then .inr (side.next bus).received else (side.next bus).view
      else side.view := by
  have hNext : (side.next bus).state = .busyRx := hBusy
  rw [view_busy hBusy, view_busy hNext]
  rfl

theorem follows_self (h : side.Enabled)
    (hIdle : ¬ (sr.getLsbD usartSrRxne = true ∧ side.state = .busyRx ∧ side.left ≠ 0#32)) :
    Follows bus sr side side := by
  refine ⟨h, rfl, ?_⟩
  by_cases hBusy : side.state = .busyRx
  · rw [view_round hBusy, if_neg fun hServe => hIdle ⟨hServe.1, hBusy, hServe.2 rfl⟩]
  · rw [view_ready hBusy]
    rfl

theorem checkRxne_follows (h : usart.rxSide.Enabled) :
    Follows bus sr usart.rxSide (Usart.checkRxne bus sr usart).rxSide := by
  by_cases hServe : sr.getLsbD usartSrRxne = true ∧ usart.rxState = .busyRx ∧ usart.rxLen ≠ 0#32
  · obtain ⟨hRxne, hBusy, hLeft⟩ := hServe
    have hRxneie : usart.cr1.getLsbD usartCr1Rxneie = true := h.rxneie hBusy
    have hPos : 0 < usart.rxLen := (BitVec.pos_iff_ne_zero _).mpr hLeft
    have hRound := @view_round bus sr usart.rxSide hBusy
    rw [if_pos ⟨hRxne, fun _ => hLeft⟩, ← receiveNext_rxSide] at hRound
    rw [Usart.checkRxne, if_pos (by rw [hRxne, hRxneie]; rfl), if_pos hBusy, if_pos hPos]
    dsimp only
    split
    · rename_i hLast
      have hLast : (usart.receiveNext bus).rxSide.left = 0#32 := hLast
      have hReceived : (usart.receiveNext bus).received = (usart.rxSide.next bus).received :=
        congrArg RxSide.received receiveNext_rxSide
      have hConfig : (usart.receiveNext bus).config = (usart.rxSide.next bus).config :=
        congrArg RxSide.config receiveNext_rxSide
      rw [if_pos hLast, receiveNext_rxSide, ← hReceived] at hRound
      rw [Usart.closeReception_rxSide]
      exact ⟨⟨nofun, by simp⟩, hConfig, hRound.symm⟩
    · rename_i hNot
      have hNot : ¬ (usart.receiveNext bus).rxSide.left = 0#32 := hNot
      rw [if_neg hNot, receiveNext_rxSide] at hRound
      rw [receiveNext_rxSide]
      exact ⟨⟨fun _ => hRxneie, h.reported⟩, rfl, hRound.symm⟩
  · have hSame : Usart.checkRxne bus sr usart = usart := by
      rw [Usart.checkRxne]
      split
      · rename_i hRxne
        split
        · rename_i hBusy
          have hZero : ¬ 0 < usart.rxLen := fun hPos =>
            hServe ⟨(Bool.and_eq_true_iff.mp hRxne).1, hBusy, (BitVec.pos_iff_ne_zero _).mp hPos⟩
          exact if_neg hZero
        · rfl
      · rfl
    rw [hSame]
    exact follows_self h hServe

theorem irqHandling_follows (h : usart.rxSide.Enabled) (hClean : visit.Clean) :
    Follows bus visit.sr usart.rxSide (Usart.irqHandling bus visit usart).rxSide := by
  have hBefore : (Usart.checkTxe bus visit.sr (Usart.checkTc visit usart)).rxSide =
      usart.rxSide :=
    Usart.checkTxe_rxSide.trans (Usart.checkTc_rxSide hClean)
  rw [Usart.irqHandling_rxSide hClean, ← hBefore]
  exact checkRxne_follows (hBefore ▸ h)

end RxSide

end KoRTOS.Hal
