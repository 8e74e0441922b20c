import KoRTOS.Property.UsartAgreement

/-!
# The interrupt enables of the USART driver

Between the calls the enables match the states of the transfers, from one call
to the next: except when a transfer of length zero is requested, which leaves a
reception that nothing finishes, or TXEIE enabled after the transmission is
closed.
-/

namespace KoRTOS.Hal

open RegisterBits

/-- A transmission and only that is served by TC; TXE only serves a transmission. -/
structure TxSide.Matches (side : TxSide) : Prop where
  ready : side.state = .ready → side.txeie = false ∧ side.tcie = false
  busy : side.state ≠ .ready → side.tcie = true

/-- A reception and only that is served, and something is left of it. -/
structure RxSide.Matches (side : RxSide) : Prop where
  ready : side.state = .ready → side.rxneie = false
  busy : side.state ≠ .ready → side.rxneie = true ∧ 0 < side.left

namespace Usart

variable {bus : Bus} {sr : U32} {visit : UsartVisit} {usart : Usart} {buffer : Nat} {len : U32}

theorem checkTxe_of_ne (h : usart.txState ≠ .busyTx) : checkTxe bus sr usart = usart := by
  rw [checkTxe, if_neg h, ite_self]

theorem checkTxe_keeps : (checkTxe bus sr usart).txSide.state = usart.txSide.state ∧
    (checkTxe bus sr usart).txSide.tcie = usart.txSide.tcie := by
  have hNext : (usart.sendNext bus).txSide.state = usart.txSide.state ∧
      (usart.sendNext bus).txSide.tcie = usart.txSide.tcie := by
    rw [sendNext_eq]
    exact ⟨rfl, rfl⟩
  rw [checkTxe]
  dsimp only
  split
  · split
    · split <;> split
      · rw [disableTxeie_txSide]
        exact hNext
      · exact hNext
      · rw [disableTxeie_txSide]
        exact ⟨rfl, rfl⟩
      · exact ⟨rfl, rfl⟩
    · exact ⟨rfl, rfl⟩
  · exact ⟨rfl, rfl⟩

theorem checkTxe_matches (h : usart.txSide.Matches) : (checkTxe bus sr usart).txSide.Matches := by
  obtain ⟨hState, hTcie⟩ := @checkTxe_keeps bus sr usart
  constructor
  · intro hReady
    rw [hState] at hReady
    have hNe : usart.txState ≠ .busyTx := fun hBusy => by
      cases hBusy.symm.trans hReady
    rw [checkTxe_of_ne hNe]
    exact h.ready hReady
  · intro hBusy
    rw [hState] at hBusy
    rw [hTcie]
    exact h.busy hBusy

/-- The handler closes a transmission whose TXEIE is still enabled. -/
def ClosesEarly (usart : Usart) (sr : U32) : Prop :=
  sr.getLsbD usartSrTc = true ∧ usart.txState = .busyTx ∧ usart.txLen = 0 ∧
    usart.cr1.getLsbD usartCr1Txeie = true

theorem irqHandling_txMatches (h : usart.txSide.Matches) :
    (irqHandling bus visit usart).txSide.Matches ↔ ¬ usart.ClosesEarly visit.sr := by
  rw [irqHandling_txSide, checkTc]
  split
  · split
    · next hTc hClosed =>
      obtain ⟨hFlag, -⟩ := Bool.and_eq_true_iff.mp hTc
      have hReady : ((usart.clearFlag visit .txCmplt).closeTransmission.eventCallback
          .txCmplt).txState ≠ .busyTx := UsartState.noConfusion
      rw [checkTxe_of_ne hReady, closeTransmission_txSide, clearFlag_txSide]
      constructor
      · rintro hMatches ⟨-, -, -, hTxeie⟩
        exact Bool.false_ne_true ((hMatches.ready rfl).1.symm.trans hTxeie)
      · intro hClean
        have hTxeie : usart.cr1.getLsbD usartCr1Txeie = false :=
          Bool.eq_false_iff.mpr fun hTxeie => hClean ⟨hFlag, hClosed.1, hClosed.2, hTxeie⟩
        exact ⟨fun _ => ⟨hTxeie, rfl⟩, fun hBusy => absurd rfl hBusy⟩
    · next hOpen =>
      refine iff_of_true (checkTxe_matches h) ?_
      rintro ⟨-, hBusy, hLeft, -⟩
      exact hOpen ⟨hBusy, hLeft⟩
  · next hTc =>
    refine iff_of_true (checkTxe_matches h) ?_
    rintro ⟨hFlag, hBusy, -, -⟩
    have hTcie : usart.cr1.getLsbD usartCr1Tcie = true :=
      h.busy fun hReady => UsartState.noConfusion (hReady.symm.trans hBusy)
    exact hTc (Bool.and_eq_true_iff.mpr ⟨hFlag, hTcie⟩)

theorem checkRxne_matches (h : usart.rxSide.Matches) :
    (checkRxne bus sr usart).rxSide.Matches := by
  rw [checkRxne]
  split
  · split
    · next hBusy =>
      split
      · have hNext : (usart.receiveNext bus).rxSide.state = usart.rxSide.state ∧
            (usart.receiveNext bus).rxSide.rxneie = usart.rxSide.rxneie := by
          rw [receiveNext_eq]
          exact ⟨rfl, rfl⟩
        dsimp only
        split
        · rw [closeReception_rxSide]
          exact ⟨fun _ => rfl, fun hBusy => absurd rfl hBusy⟩
        · next hLeft =>
          have hNotReady : usart.rxSide.state ≠ .ready := fun hReady =>
            UsartState.noConfusion (hReady.symm.trans hBusy)
          constructor
          · intro hReady
            exact absurd (hNext.1.symm.trans hReady) hNotReady
          · intro _
            refine ⟨hNext.2.trans (h.busy hNotReady).1, ?_⟩
            change 0 < (usart.receiveNext bus).rxLen
            bv_omega
      · exact h
    · exact h
  · exact h

theorem clearFlag_rxMatches {event : UsartEvent} :
    (usart.clearFlag visit event).rxSide.Matches ↔ usart.rxSide.Matches := by
  rw [clearFlag]
  split
  · exact ⟨fun h => ⟨h.ready, h.busy⟩, fun h => ⟨h.ready, h.busy⟩⟩
  · rfl

theorem checkTc_rxMatches (h : usart.rxSide.Matches) : (checkTc visit usart).rxSide.Matches := by
  rw [checkTc]
  split
  · split
    · rw [eventCallback_rxSide (by decide), closeTransmission_rxSide]
      exact clearFlag_rxMatches.mpr h
    · exact h
  · exact h

theorem irqHandling_rxMatches (h : usart.rxSide.Matches) :
    (irqHandling bus visit usart).rxSide.Matches := by
  have hSide : ∀ (usart : Usart) event, event ≠ .txCmplt → event ≠ .rxCmplt →
      ((usart.clearFlag visit event).eventCallback event).rxSide.Matches =
        usart.rxSide.Matches := by
    intro usart event _ hRx
    rw [eventCallback_rxSide hRx]
    exact propext clearFlag_rxMatches
  have hErrors : ∀ usart : Usart,
      (checkErrors visit usart).rxSide.Matches = usart.rxSide.Matches :=
    fun usart => @checkErrors_side visit usart Prop (fun usart => usart.rxSide.Matches) hSide
  rw [irqHandling, hErrors]
  apply checkRxne_matches
  rw [checkTxe_rxSide]
  exact checkTc_rxMatches h

theorem sendIt_txMatches (h : usart.txSide.Matches) :
    (usart.sendIt buffer len).1.txSide.Matches := by
  rw [sendIt]
  split
  · refine ⟨fun hReady => UsartState.noConfusion hReady, fun _ => ?_⟩
    change (usart.cr1 ||| bit usartCr1Txeie ||| bit usartCr1Tcie).getLsbD usartCr1Tcie = true
    rw [getLsbD_or_bit (by decide), decide_eq_true rfl, Bool.or_true]
  · exact h

theorem sendIt_rxSide : (usart.sendIt buffer len).1.rxSide = usart.rxSide := by
  rw [sendIt]
  split
  · have hRxneie : (usart.cr1 ||| bit usartCr1Txeie ||| bit usartCr1Tcie).getLsbD usartCr1Rxneie =
        usart.cr1.getLsbD usartCr1Rxneie := by
      have hTxeie : usartCr1Rxneie ≠ usartCr1Txeie := by decide
      have hTcie : usartCr1Rxneie ≠ usartCr1Tcie := by decide
      rw [getLsbD_or_bit (by decide), getLsbD_or_bit (by decide), decide_eq_false hTxeie,
        decide_eq_false hTcie, Bool.or_false, Bool.or_false]
    simp only [rxSide, hRxneie]
  · rfl

theorem receiveIt_txSide : (usart.receiveIt buffer len).1.txSide = usart.txSide := by
  rw [receiveIt]
  split
  · have hTxeie : usartCr1Txeie ≠ usartCr1Rxneie := by decide
    have hTcie : usartCr1Tcie ≠ usartCr1Rxneie := by decide
    simp only [txSide, getLsbD_or_bit (w := 32) (show usartCr1Txeie < 32 by decide),
      getLsbD_or_bit (w := 32) (show usartCr1Tcie < 32 by decide), decide_eq_false hTxeie,
      decide_eq_false hTcie, Bool.or_false]
  · rfl

theorem receiveIt_rxMatches (h : usart.rxSide.Matches) :
    (usart.receiveIt buffer len).1.rxSide.Matches ↔ (usart.rxState = .ready → len ≠ 0) := by
  rw [receiveIt]
  split
  · next hReady =>
    constructor
    · intro hMatches _ hZero
      have hLeft : 0 < len := (hMatches.busy UsartState.noConfusion).2
      bv_omega
    · intro hLen
      have hNe := hLen hReady
      refine ⟨fun hReady => UsartState.noConfusion hReady, fun _ => ⟨?_, ?_⟩⟩
      · change (usart.cr1 ||| bit usartCr1Rxneie).getLsbD usartCr1Rxneie = true
        rw [getLsbD_or_bit (by decide), decide_eq_true rfl, Bool.or_true]
      · change 0 < len
        bv_omega
  · next hBusy => exact iff_of_true h fun hReady => absurd hReady hBusy

end Usart

/-- The calls of the application and the invocations of the handler, with what it finds; none of
them begins inside another. -/
inductive UsartCall where
  | send (buffer : Nat) (len : U32)
  | receive (buffer : Nat) (len : U32)
  | irq (bus : Bus) (visit : UsartVisit)

namespace Usart

def step (usart : Usart) : UsartCall → Usart
  | .send buffer len => (usart.sendIt buffer len).1
  | .receive buffer len => (usart.receiveIt buffer len).1
  | .irq bus visit => usart.irqHandling bus visit

def run (usart : Usart) (calls : List UsartCall) : Usart := calls.foldl step usart

/-- The enables match the states. -/
structure EnablesMatch (usart : Usart) : Prop where
  txReady : usart.txState = .ready → usart.cr1.getLsbD usartCr1Txeie = false ∧
    usart.cr1.getLsbD usartCr1Tcie = false
  rxReady : usart.rxState = .ready → usart.cr1.getLsbD usartCr1Rxneie = false
  txBusy : usart.txState ≠ .ready → usart.cr1.getLsbD usartCr1Tcie = true
  rxBusy : usart.rxState ≠ .ready → usart.cr1.getLsbD usartCr1Rxneie = true ∧ 0 < usart.rxLen

/-- The call does not start a reception of length zero, and does not close a transmission
before its TXE interrupt. -/
def Serves (usart : Usart) : UsartCall → Prop
  | .send _ _ => True
  | .receive _ len => usart.rxState = .ready → len ≠ 0
  | .irq _ visit => ¬ usart.ClosesEarly visit.sr

variable {usart : Usart}

theorem enablesMatch_iff : usart.EnablesMatch ↔ usart.txSide.Matches ∧ usart.rxSide.Matches := by
  constructor
  · intro h
    exact ⟨⟨h.txReady, h.txBusy⟩, ⟨h.rxReady, h.rxBusy⟩⟩
  · rintro ⟨hTx, hRx⟩
    exact ⟨hTx.ready, hRx.ready, hTx.busy, hRx.busy⟩

theorem step_enablesMatch (h : usart.EnablesMatch) (call : UsartCall) :
    (usart.step call).EnablesMatch ↔ usart.Serves call := by
  obtain ⟨hTx, hRx⟩ := enablesMatch_iff.mp h
  rw [enablesMatch_iff]
  cases call with
  | send buffer len =>
    refine iff_of_true ⟨sendIt_txMatches hTx, ?_⟩ trivial
    rw [step, sendIt_rxSide]
    exact hRx
  | receive buffer len =>
    rw [step, receiveIt_txSide, receiveIt_rxMatches hRx]
    exact and_iff_right hTx
  | irq bus visit =>
    rw [step, irqHandling_txMatches hTx]
    exact and_iff_left (irqHandling_rxMatches hRx)

theorem run_append (calls : List UsartCall) (call : UsartCall) :
    usart.run (calls ++ [call]) = (usart.run calls).step call := by
  rw [run, List.foldl_append]
  rfl

/-- The enables match in all states of a run just if all of its calls serve. -/
theorem run_enablesMatch (h : usart.EnablesMatch) (calls : List UsartCall) :
    (∀ before after, calls = before ++ after → (usart.run before).EnablesMatch) ↔
      ∀ before call after, calls = before ++ call :: after → (usart.run before).Serves call := by
  constructor
  · intro hAll before call after hCalls
    have hNext := hAll (before ++ [call]) after (by simp [hCalls])
    rw [run_append] at hNext
    exact (step_enablesMatch (hAll before _ hCalls) call).mp hNext
  · intro hServes before
    induction before using List.reverseRecOn with
    | nil => exact fun _ _ => h
    | append_singleton before call ih =>
      intro after hCalls
      rw [List.append_assoc] at hCalls
      rw [run_append]
      exact (step_enablesMatch (ih _ hCalls) call).mpr (hServes before call after hCalls)

structure Idle (usart : Usart) : Prop where
  txState : usart.txState = .ready
  rxState : usart.rxState = .ready
  txeie : usart.cr1.getLsbD usartCr1Txeie = false
  tcie : usart.cr1.getLsbD usartCr1Tcie = false
  rxneie : usart.cr1.getLsbD usartCr1Rxneie = false

theorem Idle.enablesMatch (h : usart.Idle) : usart.EnablesMatch where
  txReady _ := ⟨h.txeie, h.tcie⟩
  rxReady _ := h.rxneie
  txBusy hBusy := absurd h.txState hBusy
  rxBusy hBusy := absurd h.rxState hBusy

/-- From an idle driver on, the enables match between all calls just if no reception of length
zero is started and no transmission is closed before its TXE interrupt. -/
theorem enables_match_iff (h : usart.Idle) (calls : List UsartCall) :
    (∀ before after, calls = before ++ after → (usart.run before).EnablesMatch) ↔
      ∀ before call after, calls = before ++ call :: after → (usart.run before).Serves call :=
  run_enablesMatch h.enablesMatch calls

theorem idle_sampleUsart : (sampleUsart 0 0).Idle := by
  constructor <;> decide

/-- A byte is sent and another one is received while the handler is invoked five times. -/
def bytesServed : List UsartCall :=
  [.send 16 1, .receive 32 1, .irq .numbered ⟨0, fun _ => false⟩,
    .irq .numbered ⟨0x80#32, fun _ => false⟩, .irq .numbered ⟨0xA0#32, fun _ => false⟩,
    .irq .numbered ⟨0xC0#32, fun _ => false⟩, .irq .numbered ⟨0xE0#32, fun _ => false⟩]

instance (usart : Usart) : (call : UsartCall) → Decidable (usart.Serves call)
  | .send _ _ => inferInstanceAs (Decidable True)
  | .receive _ len => inferInstanceAs (Decidable (usart.rxState = .ready → len ≠ 0))
  | .irq _ _ => inferInstanceAs (Decidable (¬ (_ ∧ _ ∧ _ ∧ _)))

theorem serves_of_index {calls : List UsartCall} {usart : Usart}
    (h : ∀ n, (hn : n < calls.length) → (usart.run (calls.take n)).Serves (calls.get ⟨n, hn⟩))
    (before : List UsartCall) (call : UsartCall) (after : List UsartCall)
    (hCalls : calls = before ++ call :: after) : (usart.run before).Serves call := by
  subst hCalls
  have hAt := h before.length (by simp)
  simpa using hAt

theorem enables_match_iff_bytes :
    (sampleUsart 0 0).Idle ∧ ((sampleUsart 0 0).run bytesServed).events = [.rxCmplt, .txCmplt] ∧
      ∀ before after, bytesServed = before ++ after →
        ((sampleUsart 0 0).run before).EnablesMatch := by
  have hServes : ∀ n, (hn : n < bytesServed.length) →
      ((sampleUsart 0 0).run (bytesServed.take n)).Serves (bytesServed.get ⟨n, hn⟩) := by
    decide
  exact ⟨idle_sampleUsart, by decide,
    (enables_match_iff idle_sampleUsart _).mpr (serves_of_index hServes)⟩

/-- Nothing is sent, and TC and TXE are set: TXEIE stays enabled. -/
theorem enables_left_on : ¬ ∀ (usart : Usart), usart.Idle →
    ∀ calls before after, calls = before ++ after → (usart.run before).EnablesMatch := by
  intro h
  let calls : List UsartCall := [.send 16 0, .irq .numbered ⟨0xC0#32, fun _ => false⟩]
  have hMatch := h (sampleUsart 0 0) idle_sampleUsart calls calls [] rfl
  have hTxeie := (hMatch.txReady (by decide)).1
  exact absurd hTxeie (by decide)

end Usart

end KoRTOS.Hal
