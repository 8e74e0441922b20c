import KoRTOS.Hal.UsartSides

/-!
# Polling and interrupts on the USART

The polling calls take the length as a number of words, the interrupt calls as a
number of bytes of the buffer. The two mean the same unless a word takes two
bytes, that is with nine bits of data; and a reception of nothing, which the
polling call returns from at once, is never reported by the handler.
-/

namespace KoRTOS.Hal

open RegisterBits Countdown Rounds

/-- The flags of the transmitter are set again and again. -/
structure UsartSends (sr : Nat → U32) : Prop where
  txe : Often (fun sr : U32 => sr.getLsbD usartSrTxe = true) sr
  tc : Often (fun sr : U32 => sr.getLsbD usartSrTc = true) sr

def UsartReceives (sr : Nat → U32) : Prop := Often (fun sr : U32 => sr.getLsbD usartSrRxne = true) sr

def flagsSeen (irq : Nat → UsartVisit) (n : Nat) : U32 := (irq n).sr

structure Usart.Fresh (usart : Usart) : Prop where
  sent : usart.sent = {}
  received : usart.received = {}
  events : usart.events = []

/-- The states of the transfer end, with what the polling call wrote to `DR`. -/
structure SendAgrees (polled : Sent) (states : Nat → Usart) : Prop where
  ends : ∃ n, .txCmplt ∈ (states n).events
  same : ∀ n, .txCmplt ∈ (states n).events → (states n).sent.written = polled.written
  inside : ∀ n, ∀ a ∈ (states n).sent.loads, a ∈ polled.loads

/-- The states of the transfer end, with what the polling call stored. -/
structure ReceiveAgrees (polled : Received) (states : Nat → Usart) : Prop where
  ends : ∃ n, .rxCmplt ∈ (states n).events
  same : ∀ n, .rxCmplt ∈ (states n).events → (states n).received.stores = polled.stores
  inside : ∀ n, ∀ a ∈ (states n).received.stores.map Prod.fst, a ∈ polled.stores.map Prod.fst

section Units

variable {config : UsartConfig} {bus : Bus} {len : U32} {start k : Nat}

theorem UsartConfig.send_written (config : UsartConfig) (bus : Bus) (p : Nat) (sent : Sent) :
    (config.send bus p sent).written.length = sent.written.length + 1 := by
  rw [UsartConfig.send]
  split <;> simp [Bus.sendHalfword, Bus.sendByte]

theorem UsartConfig.mem_send_loads {a : Nat} (p : Nat) (sent : Sent) (h : a ∈ sent.loads) :
    a ∈ (config.send bus p sent).loads := by
  rw [UsartConfig.send]
  split <;> exact List.mem_append_left _ h

theorem UsartConfig.receive_stores (config : UsartConfig) (bus : Bus) (p : Nat) (received : Received) :
    (config.receive bus p received).stores.length = received.stores.length + config.size := by
  rw [UsartConfig.receive, UsartConfig.size]
  split <;> simp [Bus.receiveHalfword, Bus.receiveByte]

theorem UsartConfig.mem_receive_stores {a : Nat} (p : Nat) (received : Received)
    (h : a ∈ received.stores.map Prod.fst) :
    a ∈ (config.receive bus p received).stores.map Prod.fst := by
  rw [UsartConfig.receive]
  split <;> exact List.map_append ▸ List.mem_append_left _ h

theorem UsartConfig.size_mul (h : ¬ config.Wide ∨ len = 0#32) (hk : config.size * k = len.toNat) :
    k = len.toNat := by
  obtain hNarrow | hZero := h
  · rw [UsartConfig.size, if_neg hNarrow, Nat.one_mul] at hk
    exact hk
  · rw [hZero, BitVec.toNat_zero] at hk ⊢
    exact (Nat.mul_eq_zero.mp hk).resolve_left (Nat.pos_iff_ne_zero.mp config.size_pos)

theorem UsartConfig.size_dvd (h : ¬ config.Wide ∨ len = 0#32) : config.size ∣ len.toNat := by
  obtain hNarrow | hZero := h
  · rw [UsartConfig.size, if_neg hNarrow]
    exact Nat.one_dvd _
  · rw [hZero, BitVec.toNat_zero]
    exact Nat.dvd_zero _

theorem UsartConfig.wide_total (hWide : config.Wide)
    (h : (config.size * len.toNat) % 2 ^ 32 = len.toNat) : len = 0#32 := by
  have hLt := len.isLt
  rw [UsartConfig.size, if_pos hWide] at h
  refine BitVec.eq_of_toNat_eq ?_
  rw [BitVec.toNat_zero]
  omega

end Units

section Send

variable {bus : Bus} {usart : Usart} {buffer : Nat} {len : U32} {sr : Nat → U32}
  {irq : Nat → UsartVisit}

def Usart.sending (bus : Bus) (usart : Usart) (buffer : Nat) (len : U32)
    (irq : Nat → UsartVisit) : Nat → Usart :=
  after (Usart.irqHandling bus) irq (usart.sendIt buffer len).1

theorem Usart.Fresh.sendIt (h : usart.Fresh) (hReady : usart.txState = .ready) :
    (usart.sendIt buffer len).1.txSide.Enabled ∧
      (usart.sendIt buffer len).1.config = usart.config ∧
      (usart.sendIt buffer len).1.txSide.view = .inl ⟨len, buffer, {}⟩ := by
  rw [Usart.sendIt, if_pos hReady]
  refine ⟨⟨fun _ => ?_, fun _ _ => ?_, ?_⟩, rfl, ?_⟩
  · change (usart.cr1 ||| bit usartCr1Txeie ||| bit usartCr1Tcie).getLsbD usartCr1Tcie = true
    rw [getLsbD_or_bit (by decide), decide_eq_true rfl, Bool.or_true]
  · change (usart.cr1 ||| bit usartCr1Txeie ||| bit usartCr1Tcie).getLsbD usartCr1Txeie = true
    rw [getLsbD_or_bit (by decide), getLsbD_or_bit (by decide), decide_eq_true rfl, Bool.or_true,
      Bool.true_or]
  · simp [Usart.txSide, h.events]
  · rw [TxSide.view_busy rfl]
    exact congrArg (fun sent => Sum.inl (⟨len, buffer, sent⟩ : Cursor 32 Sent)) h.sent

theorem Usart.Fresh.sending (h : usart.Fresh) (hReady : usart.txState = .ready) (bus : Bus)
    (buffer : Nat) (len : U32) (irq : Nat → UsartVisit) (n : Nat) :
    (usart.sending bus buffer len irq n).txSide.Enabled ∧
      (usart.sending bus buffer len irq n).config = usart.config ∧
      (usart.sending bus buffer len irq n).txSide.view =
        after (unlessLeft (downRound (usart.config.send bus) usart.config.size usart.config.size
          (·.getLsbD usartSrTxe) (·.getLsbD usartSrTc))) (flagsSeen irq)
            (.inl ⟨len, buffer, {}⟩) n := by
  induction n with
  | zero => exact h.sendIt hReady
  | succ n ih =>
    obtain ⟨hEnabled, hConfig, hView⟩ := ih
    have hNext : TxSide.Follows bus (irq n).sr _ _ := TxSide.irqHandling_follows hEnabled
    refine ⟨hNext.enabled, hNext.config.trans hConfig, ?_⟩
    have hRound := hNext.view
    rw [hView, show (usart.sending bus buffer len irq n).txSide.config = usart.config from hConfig]
      at hRound
    exact hRound

structure SendProgress (bus : Bus) (config : UsartConfig) (buffer : Nat) (len : U32) (usart : Usart)
    (k : Nat) : Prop where
  sent : usart.sent = moves (config.send bus) config.size buffer {} k
  within : config.size ∣ len.toNat → config.size * k ≤ len.toNat
  total : .txCmplt ∈ usart.events → (config.size * k) % 2 ^ 32 = len.toNat
  exact : .txCmplt ∈ usart.events → config.size ∣ len.toNat → config.size * k = len.toNat

theorem Usart.Fresh.sendProgress (h : usart.Fresh) (hReady : usart.txState = .ready) (bus : Bus)
    (buffer : Nat) (len : U32) (irq : Nat → UsartVisit) (n : Nat) :
    ∃ k, SendProgress bus usart.config buffer len (usart.sending bus buffer len irq n) k := by
  obtain ⟨hEnabled, _, hView⟩ := h.sending hReady bus buffer len irq n
  let states := usart.sending bus buffer len irq
  let fits := usart.config.size ∣ len.toNat
  have hAfter : Sum.elim
      (fun s => ∃ k, Moved (usart.config.send bus) usart.config.size usart.config.size buffer len {}
        fits s k)
      (fun r => ∃ k, Total (usart.config.send bus) usart.config.size usart.config.size buffer len {}
        fits r k) (states n).txSide.view := by
    rw [hView]
    exact down_after (fun hFits => hFits) n
  by_cases hBusy : (states n).txSide.state = .busyTx
  · rw [TxSide.view_busy hBusy] at hAfter
    obtain ⟨k, hk⟩ := hAfter
    have hNot : ¬ .txCmplt ∈ (states n).events := fun hEvent => hEnabled.reported.mp hEvent hBusy
    exact ⟨k, hk.moved, hk.within, fun hEvent => absurd hEvent hNot,
      fun hEvent => absurd hEvent hNot⟩
  · rw [TxSide.view_ready hBusy] at hAfter
    obtain ⟨k, hk⟩ := hAfter
    exact ⟨k, hk.moved, fun hFits => Nat.le_of_eq (hk.exact hFits), fun _ => hk.total,
      fun _ => hk.exact⟩

theorem Usart.Fresh.sending_ends (h : usart.Fresh) (hReady : usart.txState = .ready)
    (hIrq : UsartSends (flagsSeen irq)) (hDvd : usart.config.size ∣ len.toNat) :
    ∃ n, .txCmplt ∈ (usart.sending bus buffer len irq n).events := by
  obtain ⟨n, sent, hLoop⟩ : ∃ n sent, loop (downRound (usart.config.send bus) usart.config.size
      usart.config.size (·.getLsbD usartSrTxe) (·.getLsbD usartSrTc)) (flagsSeen irq)
        ⟨len, buffer, {}⟩ n = some sent :=
    down_ends usart.config.size_pos hDvd hIrq.txe hIrq.tc
  obtain ⟨hEnabled, _, hView⟩ := h.sending hReady bus buffer len irq n
  rw [loop_eq_some.mp hLoop] at hView
  refine ⟨n, hEnabled.reported.mpr fun hBusy => ?_⟩
  rw [TxSide.view_busy hBusy] at hView
  cases hView

theorem usartSend_ends (config : UsartConfig) (bus : Bus) (buffer : Nat) (len : U32)
    (hSr : UsartSends sr) :
    ∃ fuel, usartSend config bus buffer len sr fuel =
      some (moves (config.send bus) config.size buffer {} len.toNat) := by
  simp only [usartSend, usartSendRound_eq]
  exact up_ends hSr.txe hSr.tc

theorem usartSend_result {config : UsartConfig} {fuel : Nat} {sent : Sent}
    (h : usartSend config bus buffer len sr fuel = some sent) :
    sent = moves (config.send bus) config.size buffer {} len.toNat := by
  rw [usartSend, usartSendRound_eq] at h
  exact up_result h

theorem moves_written {config : UsartConfig} {k : Nat} :
    (moves (config.send bus) config.size buffer {} k).written.length = k := by
  have hTotal : (moves (config.send bus) config.size buffer {} k).written.length = 0 + 1 * k :=
    moves_total (f := fun sent : Sent => sent.written.length) (config.send_written bus)
  omega

theorem send_agrees_iff (h : usart.Fresh) (hReady : usart.txState = .ready) (hSr : UsartSends sr)
    (hIrq : UsartSends (flagsSeen irq)) :
    (∃ fuel sent, usartSend usart.config bus buffer len sr fuel = some sent ∧
      SendAgrees sent (usart.sending bus buffer len irq)) ↔ ¬ usart.config.Wide ∨ len = 0#32 := by
  constructor
  · rintro ⟨fuel, sent, hPolled, hAgrees⟩
    by_contra hNot
    obtain ⟨hWide, hLen⟩ := not_or.mp hNot
    obtain rfl := usartSend_result hPolled
    obtain ⟨n, hEvent⟩ := hAgrees.ends
    obtain ⟨k, hk⟩ := h.sendProgress hReady bus buffer len irq n
    have hWritten := congrArg List.length (hAgrees.same n hEvent)
    rw [hk.sent, moves_written, moves_written] at hWritten
    have hTotal := hk.total hEvent
    rw [hWritten] at hTotal
    exact hLen (UsartConfig.wide_total (not_not.mp hWide) hTotal)
  · intro hCase
    have hDvd := UsartConfig.size_dvd hCase
    obtain ⟨fuel, hPolled⟩ := usartSend_ends usart.config bus buffer len hSr
    refine ⟨fuel, _, hPolled, h.sending_ends hReady hIrq hDvd, ?_, ?_⟩
    · intro n hEvent
      obtain ⟨k, hk⟩ := h.sendProgress hReady bus buffer len irq n
      rw [hk.sent, UsartConfig.size_mul hCase (hk.exact hEvent hDvd)]
    · intro n a ha
      obtain ⟨k, hk⟩ := h.sendProgress hReady bus buffer len irq n
      have hLe : k ≤ len.toNat :=
        (Nat.le_mul_of_pos_left k usart.config.size_pos).trans (hk.within hDvd)
      rw [hk.sent] at ha
      exact moves_mono (P := fun sent : Sent => a ∈ sent.loads) UsartConfig.mem_send_loads hLe ha

end Send

section Receive

variable {bus : Bus} {usart : Usart} {buffer : Nat} {len : U32} {sr : Nat → U32}
  {irq : Nat → UsartVisit}

def Usart.receiving (bus : Bus) (usart : Usart) (buffer : Nat) (len : U32)
    (irq : Nat → UsartVisit) : Nat → Usart :=
  after (Usart.irqHandling bus) irq (usart.receiveIt buffer len).1

theorem Usart.Fresh.receiveIt (h : usart.Fresh) (hReady : usart.rxState = .ready) :
    (usart.receiveIt buffer len).1.rxSide.Enabled ∧
      (usart.receiveIt buffer len).1.config = usart.config ∧
      (usart.receiveIt buffer len).1.rxSide.view = .inl ⟨len, buffer, {}⟩ := by
  rw [Usart.receiveIt, if_pos hReady]
  refine ⟨⟨fun _ => ?_, ?_⟩, rfl, ?_⟩
  · change (usart.cr1 ||| bit usartCr1Rxneie).getLsbD usartCr1Rxneie = true
    rw [getLsbD_or_bit (by decide), decide_eq_true rfl, Bool.or_true]
  · simp [Usart.rxSide, h.events]
  · rw [RxSide.view_busy rfl]
    exact congrArg (fun received => Sum.inl (⟨len, buffer, received⟩ : Cursor 32 Received))
      h.received

theorem Usart.Fresh.receiving (h : usart.Fresh) (hReady : usart.rxState = .ready) (bus : Bus)
    (buffer : Nat) (len : U32) (hClean : ∀ n, (irq n).Clean) (n : Nat) :
    (usart.receiving bus buffer len irq n).rxSide.Enabled ∧
      (usart.receiving bus buffer len irq n).config = usart.config ∧
      (usart.receiving bus buffer len irq n).rxSide.view =
        after (unlessLeft (serveRound (usart.config.receive bus) usart.config.size
          usart.config.size true (·.getLsbD usartSrRxne))) (flagsSeen irq)
            (.inl ⟨len, buffer, {}⟩) n := by
  induction n with
  | zero => exact h.receiveIt hReady
  | succ n ih =>
    obtain ⟨hEnabled, hConfig, hView⟩ := ih
    have hNext : RxSide.Follows bus (irq n).sr _ _ :=
      RxSide.irqHandling_follows hEnabled (hClean n)
    refine ⟨hNext.enabled, hNext.config.trans hConfig, ?_⟩
    have hRound := hNext.view
    rw [hView, show (usart.receiving bus buffer len irq n).rxSide.config = usart.config
      from hConfig] at hRound
    exact hRound

structure ReceiveProgress (bus : Bus) (config : UsartConfig) (buffer : Nat) (len : U32)
    (usart : Usart) (k : Nat) : Prop where
  received : usart.received = moves (config.receive bus) config.size buffer {} k
  within : len ≠ 0#32 ∧ config.size ∣ len.toNat → config.size * k ≤ len.toNat
  pos : .rxCmplt ∈ usart.events → 0 < k
  total : .rxCmplt ∈ usart.events → (config.size * k) % 2 ^ 32 = len.toNat
  exact : .rxCmplt ∈ usart.events → len ≠ 0#32 ∧ config.size ∣ len.toNat →
    config.size * k = len.toNat

theorem Usart.Fresh.receiveProgress (h : usart.Fresh) (hReady : usart.rxState = .ready) (bus : Bus)
    (buffer : Nat) (len : U32) (hClean : ∀ n, (irq n).Clean) (n : Nat) :
    ∃ k, ReceiveProgress bus usart.config buffer len (usart.receiving bus buffer len irq n) k := by
  obtain ⟨hEnabled, _, hView⟩ := h.receiving hReady bus buffer len hClean n
  let states := usart.receiving bus buffer len irq
  let fits := len ≠ 0#32 ∧ usart.config.size ∣ len.toNat
  have hAfter : Sum.elim
      (fun s => (∃ k, Moved (usart.config.receive bus) usart.config.size usart.config.size buffer
        len {} fits s k) ∧ (s.count = 0#32 → len = 0#32))
      (fun r => ∃ k, 0 < k ∧ Total (usart.config.receive bus) usart.config.size usart.config.size
        buffer len {} fits r k) (states n).rxSide.view := by
    rw [hView]
    exact serve_after (fun hFits => hFits) n
  by_cases hBusy : (states n).rxSide.state = .busyRx
  · rw [RxSide.view_busy hBusy] at hAfter
    obtain ⟨⟨k, hk⟩, _⟩ := hAfter
    have hNot : ¬ .rxCmplt ∈ (states n).events := fun hEvent => hEnabled.reported.mp hEvent hBusy
    exact ⟨k, hk.moved, hk.within, fun hEvent => absurd hEvent hNot,
      fun hEvent => absurd hEvent hNot, fun hEvent => absurd hEvent hNot⟩
  · rw [RxSide.view_ready hBusy] at hAfter
    obtain ⟨k, hPos, hk⟩ := hAfter
    exact ⟨k, hk.moved, fun hFits => Nat.le_of_eq (hk.exact hFits), fun _ => hPos,
      fun _ => hk.total, fun _ => hk.exact⟩

theorem Usart.Fresh.receiving_ends (h : usart.Fresh) (hReady : usart.rxState = .ready)
    (hIrq : UsartReceives (flagsSeen irq)) (hClean : ∀ n, (irq n).Clean) (hLen : len ≠ 0#32)
    (hDvd : usart.config.size ∣ len.toNat) :
    ∃ n, .rxCmplt ∈ (usart.receiving bus buffer len irq n).events := by
  obtain ⟨n, received, hLoop⟩ : ∃ n received, loop (serveRound (usart.config.receive bus)
      usart.config.size usart.config.size true (·.getLsbD usartSrRxne)) (flagsSeen irq)
        ⟨len, buffer, {}⟩ n = some received :=
    serve_ends usart.config.size_pos hLen hDvd hIrq
  obtain ⟨hEnabled, _, hView⟩ := h.receiving hReady bus buffer len hClean n
  rw [loop_eq_some.mp hLoop] at hView
  refine ⟨n, hEnabled.reported.mpr fun hBusy => ?_⟩
  rw [RxSide.view_busy hBusy] at hView
  cases hView

theorem usartReceive_ends (config : UsartConfig) (bus : Bus) (buffer : Nat) (len : U32)
    (hSr : UsartReceives sr) :
    ∃ fuel, usartReceive config bus buffer len sr fuel =
      some (moves (config.receive bus) config.size buffer {} len.toNat) := by
  simp only [usartReceive, usartReceiveRound_eq]
  exact up_ends hSr fun n => ⟨n, Nat.le_refl n, rfl⟩

theorem usartReceive_result {config : UsartConfig} {fuel : Nat} {received : Received}
    (h : usartReceive config bus buffer len sr fuel = some received) :
    received = moves (config.receive bus) config.size buffer {} len.toNat := by
  rw [usartReceive, usartReceiveRound_eq] at h
  exact up_result h

theorem moves_stores {config : UsartConfig} {k : Nat} :
    (moves (config.receive bus) config.size buffer {} k).stores.length = config.size * k := by
  have hTotal : (moves (config.receive bus) config.size buffer {} k).stores.length =
      0 + config.size * k :=
    moves_total (f := fun received : Received => received.stores.length)
      (config.receive_stores bus)
  omega

theorem receive_agrees_iff (h : usart.Fresh) (hReady : usart.rxState = .ready)
    (hSr : UsartReceives sr) (hIrq : UsartReceives (flagsSeen irq))
    (hClean : ∀ n, (irq n).Clean) :
    (∃ fuel received, usartReceive usart.config bus buffer len sr fuel = some received ∧
      ReceiveAgrees received (usart.receiving bus buffer len irq)) ↔
      ¬ usart.config.Wide ∧ len ≠ 0#32 := by
  constructor
  · rintro ⟨fuel, received, hPolled, hAgrees⟩
    obtain rfl := usartReceive_result hPolled
    obtain ⟨n, hEvent⟩ := hAgrees.ends
    obtain ⟨k, hk⟩ := h.receiveProgress hReady bus buffer len hClean n
    have hStores := congrArg List.length (hAgrees.same n hEvent)
    rw [hk.received, moves_stores, moves_stores] at hStores
    have hEq : k = len.toNat := Nat.eq_of_mul_eq_mul_left usart.config.size_pos hStores
    have hLen : len ≠ 0#32 := by
      rintro rfl
      exact Nat.ne_of_gt (hk.pos hEvent) hEq
    refine ⟨fun hWide => hLen (UsartConfig.wide_total hWide ?_), hLen⟩
    rw [← hEq]
    exact hEq ▸ hk.total hEvent
  · rintro ⟨hNarrow, hLen⟩
    have hDvd : usart.config.size ∣ len.toNat := UsartConfig.size_dvd (.inl hNarrow)
    obtain ⟨fuel, hPolled⟩ := usartReceive_ends usart.config bus buffer len hSr
    refine ⟨fuel, _, hPolled, h.receiving_ends hReady hIrq hClean hLen hDvd, ?_, ?_⟩
    · intro n hEvent
      obtain ⟨k, hk⟩ := h.receiveProgress hReady bus buffer len hClean n
      rw [hk.received, UsartConfig.size_mul (.inl hNarrow) (hk.exact hEvent ⟨hLen, hDvd⟩)]
    · intro n a ha
      obtain ⟨k, hk⟩ := h.receiveProgress hReady bus buffer len hClean n
      have hLe : k ≤ len.toNat :=
        (Nat.le_mul_of_pos_left k usart.config.size_pos).trans (hk.within ⟨hLen, hDvd⟩)
      rw [hk.received] at ha
      exact moves_mono (P := fun received : Received => a ∈ received.stores.map Prod.fst)
        UsartConfig.mem_receive_stores hLe ha

end Receive

/-- The interrupt transfers do what the polling calls do exactly if a word takes one byte, or
there is nothing to send; and never if there is nothing to receive. No word of a reception is to
come in where the handler clears another flag. -/
theorem usart_transfers_agree_iff {bus : Bus} {usart : Usart} {buffer : Nat} {len : U32}
    {sr : Nat → U32} {irq : Nat → UsartVisit} (h : usart.Fresh) :
    (usart.txState = .ready → UsartSends sr → UsartSends (flagsSeen irq) →
      ((∃ fuel sent, usartSend usart.config bus buffer len sr fuel = some sent ∧
        SendAgrees sent (usart.sending bus buffer len irq)) ↔
          ¬ usart.config.Wide ∨ len = 0#32)) ∧
    (usart.rxState = .ready → UsartReceives sr → UsartReceives (flagsSeen irq) →
      (∀ n, (irq n).Clean) →
      ((∃ fuel received, usartReceive usart.config bus buffer len sr fuel = some received ∧
        ReceiveAgrees received (usart.receiving bus buffer len irq)) ↔
          ¬ usart.config.Wide ∧ len ≠ 0#32)) :=
  ⟨fun hReady hSr hIrq => send_agrees_iff h hReady hSr hIrq,
    fun hReady hSr hIrq hClean => receive_agrees_iff h hReady hSr hIrq hClean⟩

def sampleUsart (wordLen parity : U8) : Usart :=
  ⟨⟨wordLen, parity⟩, 0, 0, NULL, NULL, 0, 0, .ready, .ready, {}, {}, []⟩

theorem sampleUsart_fresh (wordLen parity : U8) : (sampleUsart wordLen parity).Fresh :=
  ⟨rfl, rfl, rfl⟩

def txFlagsSet (_ : Nat) : U32 := 0xC0#32

def rxFlagSet (_ : Nat) : U32 := 0x20#32

theorem txFlagsSet_sends : UsartSends txFlagsSet where
  txe n := ⟨n, Nat.le_refl n, show (0xC0#32).getLsbD usartSrTxe = true by decide⟩
  tc n := ⟨n, Nat.le_refl n, show (0xC0#32).getLsbD usartSrTc = true by decide⟩

theorem rxFlagSet_receives : UsartReceives rxFlagSet :=
  fun n => ⟨n, Nat.le_refl n, show (0x20#32).getLsbD usartSrRxne = true by decide⟩

/-- Invocations that find these flags, and whose accesses take no word. -/
def cleanVisits (sr : Nat → U32) (n : Nat) : UsartVisit := ⟨sr n, fun _ => false⟩

/-- Three bytes with eight bits and no parity. -/
theorem usart_transfers_agree_iff_bytes :
    (∃ fuel sent, usartSend ⟨0, 0⟩ .numbered 16 3 txFlagsSet fuel = some sent ∧
      SendAgrees sent ((sampleUsart 0 0).sending .numbered 16 3 (cleanVisits txFlagsSet))) ∧
    ∃ fuel received, usartReceive ⟨0, 0⟩ .numbered 16 3 rxFlagSet fuel = some received ∧
      ReceiveAgrees received
        ((sampleUsart 0 0).receiving .numbered 16 3 (cleanVisits rxFlagSet)) := by
  have hNarrow : ¬ (sampleUsart 0 0).config.Wide := by decide
  have hSends := (@usart_transfers_agree_iff .numbered (sampleUsart 0 0) 16 3 txFlagsSet
    (cleanVisits txFlagsSet) (sampleUsart_fresh 0 0)).1 rfl txFlagsSet_sends txFlagsSet_sends
  have hReceives := (@usart_transfers_agree_iff .numbered (sampleUsart 0 0) 16 3 rxFlagSet
    (cleanVisits rxFlagSet) (sampleUsart_fresh 0 0)).2 rfl rxFlagSet_receives rxFlagSet_receives
    fun _ _ => rfl
  exact ⟨hSends.mpr (.inl hNarrow), hReceives.mpr ⟨hNarrow, by decide⟩⟩

/-- With nine bits of data the handler sends half of the words. -/
theorem nine_bits_halved :
    ¬ ∀ (bus : Bus) (usart : Usart) (buffer : Nat) (len : U32) (sr : Nat → U32)
      (irq : Nat → UsartVisit), usart.Fresh → (∀ n, (irq n).Clean) →
      (usart.txState = .ready → UsartSends sr → UsartSends (flagsSeen irq) →
        ∃ fuel sent, usartSend usart.config bus buffer len sr fuel = some sent ∧
          SendAgrees sent (usart.sending bus buffer len irq)) ∧
      (usart.rxState = .ready → UsartReceives sr → UsartReceives (flagsSeen irq) →
        ∃ fuel received, usartReceive usart.config bus buffer len sr fuel = some received ∧
          ReceiveAgrees received (usart.receiving bus buffer len irq)) := by
  intro hClaim
  obtain ⟨hSending, _⟩ := hClaim .numbered (sampleUsart 1 0) 16 2 txFlagsSet
    (cleanVisits txFlagsSet) (sampleUsart_fresh 1 0) fun _ _ => rfl
  obtain ⟨fuel, sent, hPolled, hAgrees⟩ := hSending rfl txFlagsSet_sends txFlagsSet_sends
  -- the handler has reported the end in the third invocation
  have hEnd : .txCmplt ∈
      ((sampleUsart 1 0).sending .numbered 16 2 (cleanVisits txFlagsSet) 3).events := by
    decide
  have hHandler :
      ((sampleUsart 1 0).sending .numbered 16 2 (cleanVisits txFlagsSet) 3).sent.written =
        [0x110#32] := by
    decide
  have hSame := hAgrees.same 3 hEnd
  rw [hHandler, usartSend_result hPolled] at hSame
  exact absurd hSame (by decide)

end KoRTOS.Hal
