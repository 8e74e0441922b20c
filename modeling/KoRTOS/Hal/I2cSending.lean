import KoRTOS.Hal.I2c

/-!
# The sending side of the I2C

One invocation of the event handler, as it changes a transfer that sends: BTF
together with TxE ends it, TxE alone moves a byte.
-/

namespace KoRTOS.Hal

open RegisterBits Countdown

/-- What the handler keeps of a transfer that sends. -/
structure I2cSide where
  state : I2cState
  itbufen : Bool
  itevten : Bool
  left : U32
  address : Nat
  sent : Sent
  repeatedStart : U8
  stops : Nat
  reports : Nat

namespace I2cSide

/-- All that is left is given up. -/
def close (side : I2cSide) : I2cSide :=
  { side with
    state := .ready
    itbufen := false
    itevten := false
    left := 0
    address := NULL
    stops :=
      if side.left = 0 ∧ side.repeatedStart = i2cRsDisable then side.stops + 1 else side.stops
    reports := side.reports + 1 }

def serve (bus : Bus) (side : I2cSide) : I2cSide :=
  { side with
    left := side.left - 1
    address := side.address + 1
    sent := bus.sendByte 0xFF side.address side.sent }

/-- One invocation. The flags are looked at in this order. -/
def step (bus : Bus) (sr1 sr2 : U32) (side : I2cSide) : I2cSide :=
  if side.itevten = true ∧ side.state = .busyTx ∧ sr1.getLsbD i2cSr1Btf = true ∧
      sr1.getLsbD i2cSr1Txe = true then side.close
  else if (side.itbufen && side.itevten) = true ∧ side.state = .busyTx ∧
      sr1.getLsbD i2cSr1Txe = true ∧ sr2.getLsbD i2cSr2Msl = true ∧ side.left ≠ 0#32 then
    side.serve bus
  else side

theorem step_state {bus : Bus} {sr1 sr2 : U32} {side : I2cSide} (h : side.state ≠ .busyRx) :
    (side.step bus sr1 sr2).state ≠ .busyRx := by
  rw [step]
  split
  · exact nofun
  · split <;> exact h

end I2cSide

namespace I2c

def txSide (i2c : I2c) : I2cSide where
  state := i2c.txRxState
  itbufen := i2c.cr2.getLsbD i2cCr2Itbufen
  itevten := i2c.cr2.getLsbD i2cCr2Itevten
  left := i2c.txLen
  address := i2c.pTxBuffer
  sent := i2c.sent
  repeatedStart := i2c.repeatedStart
  stops := i2c.stops
  reports := i2c.events.count .txCmplt

variable {bus : Bus} {temp1 temp2 : Bool} {sr1 sr2 : U32} {i2c : I2c} {event : I2cEvent}

theorem eventCallback_txSide (h : event ≠ .txCmplt) :
    (i2c.eventCallback event).txSide = i2c.txSide := by
  simp [txSide, eventCallback, h]

theorem manageAcking_txSide (enable : U8) : (i2c.manageAcking enable).txSide = i2c.txSide := by
  rw [manageAcking]
  split
  · rfl
  · split <;> rfl

theorem checkSb_txSide : (i2c.checkSb temp2 sr1).txSide = i2c.txSide := by
  rw [checkSb]
  split
  · split
    · rfl
    · split <;> rfl
  · rfl

theorem checkAddr_txSide : (i2c.checkAddr temp2 sr1 sr2).txSide = i2c.txSide := by
  rw [checkAddr]
  split
  · split
    · split
      · split <;> rfl
      · rfl
    · rfl
  · rfl

theorem checkStopf_txSide : (i2c.checkStopf temp2 sr1).txSide = i2c.txSide := by
  rw [checkStopf]
  split
  · exact eventCallback_txSide (by decide)
  · rfl

theorem checkRxne_txSide (h : i2c.txRxState ≠ .busyRx) :
    (i2c.checkRxne bus temp1 temp2 sr1 sr2).txSide = i2c.txSide := by
  rw [checkRxne]
  split
  · split
    · rfl
    · split
      · exact eventCallback_txSide (by decide)
      · rfl
  · rfl

theorem closeSend_txSide : i2c.closeSend.txSide =
    { i2c.txSide with
      state := .ready
      itbufen := false
      itevten := false
      left := 0
      address := NULL } := by
  have hItbufen : (i2c.cr2 &&& ~~~bit i2cCr2Itbufen &&& ~~~bit i2cCr2Itevten).getLsbD
      i2cCr2Itbufen = false := by
    rw [getLsbD_and_not_bit (by decide), getLsbD_and_not_bit (by decide), decide_eq_true rfl,
      Bool.not_true, Bool.and_false, Bool.false_and]
  have hItevten : (i2c.cr2 &&& ~~~bit i2cCr2Itbufen &&& ~~~bit i2cCr2Itevten).getLsbD
      i2cCr2Itevten = false := by
    rw [getLsbD_and_not_bit (by decide), decide_eq_true rfl, Bool.not_true, Bool.and_false]
  rw [closeSend]
  dsimp only
  rw [apply_ite txSide, manageAcking_txSide, ite_self]
  simp only [txSide, hItbufen, hItevten]

theorem closed_txSide :
    ((if i2c.txLen = 0 ∧ i2c.repeatedStart = i2cRsDisable then i2c.generateStop
      else i2c).closeSend.eventCallback .txCmplt).txSide = i2c.txSide.close := by
  have hReport : ∀ i2c : I2c, (i2c.eventCallback .txCmplt).txSide =
      { i2c.txSide with reports := i2c.txSide.reports + 1 } := by
    intro i2c
    simp [txSide, eventCallback]
  rw [hReport, closeSend_txSide, apply_ite txSide]
  split <;> rename_i hLast
  · have hAll : i2c.txSide.left = 0 ∧ i2c.txSide.repeatedStart = i2cRsDisable := hLast
    rw [I2cSide.close, if_pos hAll]
    rfl
  · have hAll : ¬ (i2c.txSide.left = 0 ∧ i2c.txSide.repeatedStart = i2cRsDisable) := hLast
    rw [I2cSide.close, if_neg hAll]

theorem masterTxeHandler_txSide : (i2c.masterTxeHandler bus).txSide =
    if i2c.txSide.left = 0#32 then i2c.txSide else i2c.txSide.serve bus := by
  rw [masterTxeHandler]
  split <;> rename_i hPos
  · rw [if_neg (show ¬ i2c.txSide.left = 0#32 from (BitVec.pos_iff_ne_zero _).mp hPos)]
    rfl
  · have hZero : i2c.txSide.left = 0#32 :=
      not_not.mp fun hNe => hPos ((BitVec.pos_iff_ne_zero _).mpr hNe)
    rw [if_pos hZero]

theorem checkBtf_txSide : (i2c.checkBtf temp2 sr1).txSide =
    if temp2 = true ∧ i2c.txSide.state = .busyTx ∧ sr1.getLsbD i2cSr1Btf = true ∧
        sr1.getLsbD i2cSr1Txe = true then i2c.txSide.close
    else i2c.txSide := by
  rw [checkBtf]
  dsimp only
  by_cases hFlag : (temp2 && sr1.getLsbD i2cSr1Btf) = true
  · obtain ⟨hTemp, hBtf⟩ := Bool.and_eq_true_iff.mp hFlag
    rw [if_pos hFlag]
    by_cases hBusy : i2c.txRxState = .busyTx
    · rw [if_pos hBusy]
      by_cases hTxe : sr1.getLsbD i2cSr1Txe = true
      · rw [if_pos hTxe, closed_txSide, if_pos ⟨hTemp, hBusy, hBtf, hTxe⟩]
      · rw [if_neg hTxe, if_neg fun hAll => hTxe hAll.2.2.2]
    · rw [if_neg hBusy, if_neg fun hAll => hBusy hAll.2.1]
  · rw [if_neg hFlag, if_neg fun hAll => hFlag (Bool.and_eq_true_iff.mpr ⟨hAll.1, hAll.2.2.1⟩)]

theorem checkTxe_txSide : (i2c.checkTxe bus temp1 temp2 sr1 sr2).txSide =
    if (temp1 && temp2) = true ∧ i2c.txSide.state = .busyTx ∧ sr1.getLsbD i2cSr1Txe = true ∧
        sr2.getLsbD i2cSr2Msl = true ∧ i2c.txSide.left ≠ 0#32 then i2c.txSide.serve bus
    else i2c.txSide := by
  rw [checkTxe]
  by_cases hFlag : (temp1 && temp2 && sr1.getLsbD i2cSr1Txe) = true
  · obtain ⟨hTemp, hTxe⟩ := Bool.and_eq_true_iff.mp hFlag
    rw [if_pos hFlag]
    by_cases hMsl : sr2.getLsbD i2cSr2Msl = true
    · rw [if_pos hMsl]
      by_cases hBusy : i2c.txRxState = .busyTx
      · rw [if_pos hBusy, masterTxeHandler_txSide]
        by_cases hLeft : i2c.txSide.left = 0#32
        · rw [if_pos hLeft, if_neg fun hAll => hAll.2.2.2.2 hLeft]
        · rw [if_neg hLeft, if_pos ⟨hTemp, hBusy, hTxe, hMsl, hLeft⟩]
      · rw [if_neg hBusy, if_neg fun hAll => hBusy hAll.2.1]
    · rw [if_neg hMsl, apply_ite txSide, eventCallback_txSide (by decide), ite_self,
        if_neg fun hAll => hMsl hAll.2.2.2.1]
  · rw [if_neg hFlag, if_neg fun hAll => hFlag (Bool.and_eq_true_iff.mpr ⟨hAll.1, hAll.2.2.1⟩)]

theorem evIrqHandling_txSide (h : i2c.txRxState ≠ .busyRx) :
    (evIrqHandling bus sr1 sr2 i2c).txSide = i2c.txSide.step bus sr1 sr2 := by
  let temp1 := i2c.cr2.getLsbD i2cCr2Itbufen
  let temp2 := i2c.cr2.getLsbD i2cCr2Itevten
  let entered := (i2c.checkSb temp2 sr1).checkAddr temp2 sr1 sr2
  let ended := (entered.checkBtf temp2 sr1).checkStopf temp2 sr1
  have hEntered : entered.txSide = i2c.txSide := checkAddr_txSide.trans checkSb_txSide
  have hEnded : ended.txSide = if i2c.txSide.itevten = true ∧ i2c.txSide.state = .busyTx ∧
      sr1.getLsbD i2cSr1Btf = true ∧ sr1.getLsbD i2cSr1Txe = true then i2c.txSide.close
      else i2c.txSide := by
    have hBtf : ended.txSide = _ := checkStopf_txSide.trans checkBtf_txSide
    rw [hEntered] at hBtf
    exact hBtf
  have hServed : (ended.checkTxe bus temp1 temp2 sr1 sr2).txSide = i2c.txSide.step bus sr1 sr2 := by
    rw [checkTxe_txSide, hEnded, I2cSide.step]
    split
    · exact if_neg fun hServe => I2cState.noConfusion hServe.2.1
    · rfl
  rw [← hServed]
  refine checkRxne_txSide ?_
  change (ended.checkTxe bus temp1 temp2 sr1 sr2).txSide.state ≠ .busyRx
  rw [hServed]
  exact I2cSide.step_state h

end I2c

end KoRTOS.Hal
