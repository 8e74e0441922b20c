import KoRTOS.Hal.SpiSides

/-!
# Transfers on the SPI

The handler moves a unit before it looks at the count, so that a transfer of
length zero runs through memory; a polling call of length zero returns. With
frames of 16 bits an odd length is never brought to zero in either mode. In all
other cases both modes move the same bytes, all of them in the buffer.
-/

namespace KoRTOS.Hal

open RegisterBits Countdown Rounds

/-- The interrupt transfer against the polling call: `sides` are the states of the handle after
each invocation, `rounds` those of the polling call after each read of `SR`. -/
structure SpiAgrees {τ β : Type} (outcome : τ → List β) (addresses : τ → List Nat) (buffer : Nat)
    (len : U32) (rounds : Nat → Cursor 32 τ ⊕ τ) (sides : Nat → SpiSide τ) (polled : τ) : Prop where
  ends : ∃ n, (sides n).state = .ready
  once : ∀ n, (sides n).reports = if (sides n).state = .ready then 1 else 0
  same : ∀ n, (sides n).state = .ready → outcome (sides n).moved = outcome polled
  inside : ∀ n, ∀ a ∈ addresses (sides n).moved, buffer ≤ a ∧ a < buffer + len.toNat
  descends : ∀ n, (sides (n + 1)).left ≤ (sides n).left
  polledInside : ∀ a ∈ addresses polled, buffer ≤ a ∧ a < buffer + len.toNat
  polledDescends : ∀ n s s', rounds n = .inl s → rounds (n + 1) = .inl s' → s'.count ≤ s.count

/-- A direction whose transfer was started, and the invocations that follow. -/
structure SpiRun {τ : Type} (move : Nat → τ → τ) (size start : Nat) (len : U32) (t₀ : τ)
    (ready : U32 → Bool) (irq : Nat → U32) (sides : Nat → SpiSide τ) : Prop where
  consistent : (sides 0).Consistent
  view : (sides 0).view = .inl ⟨len, start, t₀⟩
  next : ∀ n, sides (n + 1) = (sides n).interrupt move size (ready (irq n))

namespace SpiRun

variable {τ β : Type} {move : Nat → τ → τ} {size start : Nat} {len : U32} {t₀ : τ}
  {ready : U32 → Bool} {sr irq : Nat → U32} {sides : Nat → SpiSide τ}

theorem consistent_after (h : SpiRun move size start len t₀ ready irq sides) (n : Nat) :
    (sides n).Consistent := by
  induction n with
  | zero => exact h.consistent
  | succ n ih =>
    rw [h.next]
    exact ih.interrupt

theorem view_after (h : SpiRun move size start len t₀ ready irq sides) (n : Nat) :
    (sides n).view =
      after (unlessLeft (serveRound move size size false ready)) irq (.inl ⟨len, start, t₀⟩) n := by
  induction n with
  | zero => exact h.view
  | succ n ih =>
    rw [h.next, SpiSide.interrupt_view, ih]
    rfl

theorem ready_iff (h : SpiRun move size start len t₀ ready irq sides) (n : Nat) :
    (sides n).state = .ready ↔ (sides n).enabled = false := by
  constructor
  · intro hReady
    by_contra hEnabled
    exact ((h.consistent_after n).busy (Bool.eq_true_of_not_eq_false hEnabled)).1 hReady
  · intro hOff
    exact ((h.consistent_after n).closed hOff).1

theorem moved (h : SpiRun move size start len t₀ ready irq sides) (fits : Prop)
    (hFits : fits → len ≠ 0#32 ∧ size ∣ len.toNat) {n : Nat} (hEnabled : (sides n).enabled = true) :
    ∃ k, Moved move size size start len t₀ fits ⟨(sides n).left, (sides n).address, (sides n).moved⟩
      k ∧ ((sides n).left = 0#32 → len = 0#32) := by
  have hAfter : Sum.elim (fun s => (∃ k, Moved move size size start len t₀ fits s k) ∧
      (s.count = 0#32 → len = 0#32))
    (fun r => ∃ k, 0 < k ∧ Total move size size start len t₀ fits r k) (sides n).view := by
    rw [h.view_after]
    exact serve_after hFits n
  rw [SpiSide.view_enabled hEnabled] at hAfter
  obtain ⟨⟨k, hk⟩, hZero⟩ := hAfter
  exact ⟨k, hk, hZero⟩

theorem total (h : SpiRun move size start len t₀ ready irq sides) (fits : Prop)
    (hFits : fits → len ≠ 0#32 ∧ size ∣ len.toNat) {n : Nat} (hOff : (sides n).enabled = false) :
    ∃ k, 0 < k ∧ Total move size size start len t₀ fits (sides n).moved k := by
  have hAfter : Sum.elim (fun s => (∃ k, Moved move size size start len t₀ fits s k) ∧
      (s.count = 0#32 → len = 0#32))
    (fun r => ∃ k, 0 < k ∧ Total move size size start len t₀ fits r k) (sides n).view := by
    rw [h.view_after]
    exact serve_after hFits n
  rw [SpiSide.view_closed hOff] at hAfter
  exact hAfter

theorem reports (h : SpiRun move size start len t₀ ready irq sides) (n : Nat) :
    (sides n).reports = if (sides n).state = .ready then 1 else 0 := by
  split
  · rename_i hReady
    exact ((h.consistent_after n).closed ((h.ready_iff n).mp hReady)).2.1
  · rename_i hNot
    have hEnabled := Bool.eq_true_of_not_eq_false fun hOff => hNot ((h.ready_iff n).mpr hOff)
    exact ((h.consistent_after n).busy hEnabled).2

theorem descends (h : SpiRun move size start len t₀ ready irq sides) (hSize : 0 < size)
    (hLen : len ≠ 0#32) (hDvd : size ∣ len.toNat) (n : Nat) :
    (sides (n + 1)).left ≤ (sides n).left := by
  rw [h.next, SpiSide.interrupt]
  split
  · rename_i hServe
    have hEnabled := (Bool.and_eq_true_iff.mp hServe).2
    obtain ⟨k, hk, hZero⟩ := h.moved True (fun _ => ⟨hLen, hDvd⟩) hEnabled
    have hRoom := hk.room (fun _ => hDvd) (fun hCount => hLen (hZero hCount)) trivial
    split
    · exact Nat.zero_le _
    · exact Nat.le_of_lt (hk.serve_lt trivial hSize hRoom)
  · exact Nat.le_refl _

theorem ends (h : SpiRun move size start len t₀ ready irq sides) (hSize : 0 < size)
    (hLen : len ≠ 0#32) (hDvd : size ∣ len.toNat) (hIrq : Often (ready · = true) irq) :
    ∃ n, (sides n).state = .ready := by
  obtain ⟨n, r, hLoop⟩ : ∃ n r, loop (serveRound move size size false ready) irq
      ⟨len, start, t₀⟩ n = some r :=
    serve_ends hSize hLen hDvd hIrq
  have hView := h.view_after n
  rw [loop_eq_some.mp hLoop] at hView
  refine ⟨n, (h.ready_iff n).mpr (Bool.eq_false_of_not_eq_true fun hEnabled => ?_)⟩
  rw [SpiSide.view_enabled hEnabled] at hView
  cases hView

end SpiRun

section Modes

variable {τ β : Type} {move : Nat → τ → τ} {size start : Nat} {len : U32} {t₀ polled : τ}
  {ready : U32 → Bool} {sr irq : Nat → U32} {sides : Nat → SpiSide τ}

def pollRounds (move : Nat → τ → τ) (size start : Nat) (len : U32) (t₀ : τ) (ready : U32 → Bool)
    (sr : Nat → U32) : Nat → Cursor 32 τ ⊕ τ :=
  after (unlessLeft (downRound move size size ready fun _ => true)) sr (.inl ⟨len, start, t₀⟩)

theorem polled_total {fuel : Nat}
    (h : loop (downRound move size size ready fun _ => true) sr ⟨len, start, t₀⟩ fuel =
      some polled) :
    ∃ k, Total move size size start len t₀ (size ∣ len.toNat) polled k := by
  have hAfter : Sum.elim (fun s => ∃ k, Moved move size size start len t₀ (size ∣ len.toNat) s k)
      (fun r => ∃ k, Total move size size start len t₀ (size ∣ len.toNat) r k)
      (pollRounds move size start len t₀ ready sr fuel) := down_after id fuel
  rw [pollRounds, loop_eq_some.mp h] at hAfter
  exact hAfter

theorem pollRounds_descends (hSize : 0 < size) (hDvd : size ∣ len.toNat) {n : Nat}
    {s s' : Cursor 32 τ} (h : pollRounds move size start len t₀ ready sr n = .inl s)
    (h' : pollRounds move size start len t₀ ready sr (n + 1) = .inl s') : s'.count ≤ s.count := by
  have hAfter : Sum.elim (fun s => ∃ k, Moved move size size start len t₀ True s k)
      (fun r => ∃ k, Total move size size start len t₀ True r k)
      (pollRounds move size start len t₀ ready sr n) := down_after (fun _ => hDvd) n
  have hRound : unlessLeft (downRound move size size ready fun _ => true) (sr n)
      (pollRounds move size start len t₀ ready sr n) = .inl s' := h'
  rw [h, unlessLeft, Sum.elim_inl] at hRound
  rw [h] at hAfter
  obtain ⟨k, hk⟩ := hAfter
  rw [downRound] at hRound
  split at hRound
  · cases hRound
  · rename_i hNot
    split at hRound
    · cases hRound
      exact Nat.le_of_lt (hk.serve_lt trivial hSize (hk.room (fun _ => hDvd) hNot trivial))
    · cases hRound
      exact Nat.le_refl _

/-- What the two modes have in common. -/
structure SpiUnits (move : Nat → τ → τ) (size : Nat) (t₀ : τ) (outcome : τ → List β)
    (addresses : τ → List Nat) : Prop where
  pos : 0 < size
  dvd : size ∣ 2 ^ 32
  outcome_lt : ∀ p t, (outcome t).length < (outcome (move p t)).length
  start : addresses t₀ = []
  within : ∀ p t a, a ∈ addresses (move p t) → a ∈ addresses t ∨ p ≤ a ∧ a < p + size

theorem spi_direction_agrees_iff {outcome : τ → List β} {addresses : τ → List Nat}
    (hUnits : SpiUnits move size t₀ outcome addresses)
    (h : SpiRun move size start len t₀ ready irq sides) (hSr : Often (ready · = true) sr)
    (hIrq : Often (ready · = true) irq) :
    (∃ fuel polled, loop (downRound move size size ready fun _ => true) sr ⟨len, start, t₀⟩ fuel =
      some polled ∧ SpiAgrees outcome addresses start len
        (pollRounds move size start len t₀ ready sr) sides polled) ↔
      len ≠ 0#32 ∧ size ∣ len.toNat := by
  have hWithin : ∀ {k a}, a ∈ addresses (moves move size start t₀ k) → size * k ≤ len.toNat →
      start ≤ a ∧ a < start + len.toNat := by
    intro k a ha hk
    obtain hNone | hIn := moves_within (fun p t => hUnits.within p t a) ha
    · rw [hUnits.start] at hNone
      cases hNone
    · omega
  constructor
  · rintro ⟨fuel, polled, hPolled, hAgrees⟩
    obtain ⟨n, hReady⟩ := hAgrees.ends
    obtain ⟨k, hPos, hk⟩ := h.total False nofun ((h.ready_iff n).mp hReady)
    obtain ⟨j, hj⟩ := polled_total hPolled
    have hDvd : size ∣ len.toNat := by
      rw [← hk.total]
      exact (Nat.dvd_mod_iff hUnits.dvd).mpr (Nat.dvd_mul_right size k)
    refine ⟨?_, hDvd⟩
    rintro rfl
    -- polling moves nothing, the handler at least one unit
    have hNone : j = 0 := (Nat.mul_eq_zero.mp (hj.exact hDvd)).resolve_left hUnits.pos.ne'
    have hSame := congrArg List.length (hAgrees.same n hReady)
    have hMore : (outcome t₀).length + k ≤ (outcome (moves move size start t₀ k)).length :=
      add_le_moves (f := fun t => (outcome t).length) hUnits.outcome_lt
    rw [hk.moved, hj.moved, hNone, moves] at hSame
    omega
  · rintro ⟨hLen, hDvd⟩
    obtain ⟨fuel, polled, hPolled⟩ : ∃ fuel polled, loop (downRound move size size ready
        fun _ => true) sr ⟨len, start, t₀⟩ fuel = some polled :=
      down_ends hUnits.pos hDvd hSr fun n => ⟨n, Nat.le_refl n, rfl⟩
    obtain ⟨j, hj⟩ := polled_total hPolled
    have hAll := hj.exact hDvd
    refine ⟨fuel, polled, hPolled, h.ends hUnits.pos hLen hDvd hIrq, h.reports, ?_, ?_,
      h.descends hUnits.pos hLen hDvd, ?_, fun n s s' => pollRounds_descends hUnits.pos hDvd⟩
    · intro n hReady
      obtain ⟨k, _, hk⟩ := h.total True (fun _ => ⟨hLen, hDvd⟩) ((h.ready_iff n).mp hReady)
      have hEq : k = j := Nat.eq_of_mul_eq_mul_left hUnits.pos ((hk.exact trivial).trans hAll.symm)
      rw [hk.moved, hj.moved, hEq]
    · intro n a ha
      cases hEnabled : (sides n).enabled with
      | true =>
        obtain ⟨k, hk, _⟩ := h.moved True (fun _ => ⟨hLen, hDvd⟩) hEnabled
        exact hWithin (hk.moved ▸ ha) (hk.within trivial)
      | false =>
        obtain ⟨k, _, hk⟩ := h.total True (fun _ => ⟨hLen, hDvd⟩) hEnabled
        exact hWithin (hk.moved ▸ ha) (Nat.le_of_eq (hk.exact trivial))
    · intro a ha
      exact hWithin (hj.moved ▸ ha) (Nat.le_of_eq hAll)

end Modes

section Directions

variable {cr1 len : U32} {bus : Bus} {spi : Spi} {buffer : Nat} {sr irq : Nat → U32}

theorem frameSize_dvd : frameSize cr1 ∣ 2 ^ 32 := by
  rw [frameSize]
  split <;> decide

theorem sendFrame_units : SpiUnits (sendFrame cr1 bus) (frameSize cr1) {} Sent.written Sent.loads where
  pos := frameSize_pos
  dvd := frameSize_dvd
  outcome_lt p t := by
    rw [sendFrame]
    split <;> simp [Bus.sendHalfword, Bus.sendByte]
  start := rfl
  within p t a ha := by
    rw [sendFrame] at ha
    rw [frameSize]
    split at ha <;> rename_i hWide
    · rw [if_pos hWide]
      exact (Bus.mem_loads_sendHalfword.mp ha).imp_right fun hNew => by omega
    · rw [if_neg hWide]
      exact (Bus.mem_loads_sendByte.mp ha).imp_right fun hNew => by omega

theorem receiveFrame_units : SpiUnits (receiveFrame cr1 bus) (frameSize cr1) {} Received.stores
    fun received => received.stores.map Prod.fst where
  pos := frameSize_pos
  dvd := frameSize_dvd
  outcome_lt p t := by
    rw [receiveFrame]
    split <;> simp [Bus.receiveHalfword, Bus.receiveByte]
  start := rfl
  within p t a ha := by
    rw [receiveFrame] at ha
    rw [frameSize]
    split at ha <;> rename_i hWide
    · rw [if_pos hWide]
      exact (Bus.mem_stores_receiveHalfword.mp ha).imp_right fun hNew => by omega
    · rw [if_neg hWide]
      exact (Bus.mem_stores_receiveByte.mp ha).imp_right fun hNew => by omega

structure Spi.Fresh (spi : Spi) : Prop where
  sent : spi.sent = {}
  received : spi.received = {}
  events : spi.events = []

def Spi.sending (bus : Bus) (spi : Spi) (buffer : Nat) (len : U32) (irq : Nat → U32) : Nat → Spi :=
  after (Spi.irqHandler bus) irq (spi.sendIt buffer len).1

def Spi.receiving (bus : Bus) (spi : Spi) (buffer : Nat) (len : U32) (irq : Nat → U32) :
    Nat → Spi :=
  after (Spi.irqHandler bus) irq (spi.receiveIt buffer len).1

theorem Spi.Fresh.sending (h : spi.Fresh) (hIdle : spi.txState ≠ .busyInTx) (bus : Bus)
    (buffer : Nat) (len : U32) (irq : Nat → U32) :
    SpiRun (sendFrame spi.cr1 bus) (frameSize spi.cr1) buffer len {} (·.getLsbD spiSrTxe) irq
      fun n => (spi.sending bus buffer len irq n).txSide := by
  have hCr1 : ∀ n, (spi.sending bus buffer len irq n).cr1 = spi.cr1 := by
    intro n
    induction n with
    | zero =>
      rw [Spi.sending, after, Spi.sendIt, if_pos hIdle]
    | succ n ih => exact Spi.irqHandler_cr1.trans ih
  have hEnabled : (spi.cr2 ||| bit spiCr2Txeie).getLsbD spiCr2Txeie = true := by
    rw [getLsbD_or_bit (by decide), decide_eq_true rfl, Bool.or_true]
  have hStart : (spi.sending bus buffer len irq 0).txSide =
      ⟨spi.cr1, true, .busyInTx, len, buffer, {}, 0⟩ := by
    rw [Spi.sending, after, Spi.sendIt, if_pos hIdle]
    simp only [Spi.txSide, hEnabled, h.sent, h.events, List.count_nil]
  refine ⟨?_, ?_, fun n => ?_⟩
  · rw [hStart]
    exact ⟨fun _ => ⟨by simp, rfl⟩, by simp⟩
  · rw [hStart]
    rfl
  · rw [← hCr1 n]
    exact Spi.irqHandler_txSide

theorem Spi.Fresh.receiving (h : spi.Fresh) (hIdle : spi.rxState ≠ .busyInRx) (bus : Bus)
    (buffer : Nat) (len : U32) (irq : Nat → U32) :
    SpiRun (receiveFrame spi.cr1 bus) (frameSize spi.cr1) buffer len {} (·.getLsbD spiSrRxne) irq
      fun n => (spi.receiving bus buffer len irq n).rxSide := by
  have hCr1 : ∀ n, (spi.receiving bus buffer len irq n).cr1 = spi.cr1 := by
    intro n
    induction n with
    | zero =>
      rw [Spi.receiving, after, Spi.receiveIt, if_pos hIdle]
    | succ n ih => exact Spi.irqHandler_cr1.trans ih
  have hEnabled : (spi.cr2 ||| bit spiCr2Rxneie).getLsbD spiCr2Rxneie = true := by
    rw [getLsbD_or_bit (by decide), decide_eq_true rfl, Bool.or_true]
  have hStart : (spi.receiving bus buffer len irq 0).rxSide =
      ⟨spi.cr1, true, .busyInRx, len, buffer, {}, 0⟩ := by
    rw [Spi.receiving, after, Spi.receiveIt, if_pos hIdle]
    simp only [Spi.rxSide, hEnabled, h.received, h.events, List.count_nil]
  refine ⟨?_, ?_, fun n => ?_⟩
  · rw [hStart]
    exact ⟨fun _ => ⟨by simp, rfl⟩, by simp⟩
  · rw [hStart]
    rfl
  · rw [← hCr1 n]
    exact Spi.irqHandler_rxSide

def spiSendRounds (cr1 : U32) (bus : Bus) (buffer : Nat) (len : U32) (sr : Nat → U32) :
    Nat → Cursor 32 Sent ⊕ Sent :=
  after (unlessLeft (spiSendRound cr1 bus)) sr (.inl ⟨len, buffer, {}⟩)

def spiReceiveRounds (cr1 : U32) (bus : Bus) (buffer : Nat) (len : U32) (sr : Nat → U32) :
    Nat → Cursor 32 Received ⊕ Received :=
  after (unlessLeft (spiReceiveRound cr1 bus)) sr (.inl ⟨len, buffer, {}⟩)

end Directions

def SpiSends (sr : Nat → U32) : Prop := Often (fun sr : U32 => sr.getLsbD spiSrTxe = true) sr

def SpiReceives (sr : Nat → U32) : Prop := Often (fun sr : U32 => sr.getLsbD spiSrRxne = true) sr

def sampleSpi (cr1 : U32) : Spi :=
  ⟨cr1, 0, NULL, NULL, 0, 0, .ready, .ready, {}, {}, []⟩

theorem sampleSpi_fresh (cr1 : U32) : (sampleSpi cr1).Fresh := ⟨rfl, rfl, rfl⟩

def spiTxeSet (_ : Nat) : U32 := 0x2#32

def spiRxneSet (_ : Nat) : U32 := 0x1#32

theorem spiTxeSet_sends : SpiSends spiTxeSet :=
  fun n => ⟨n, Nat.le_refl n, show (0x2#32).getLsbD spiSrTxe = true by decide⟩

theorem spiRxneSet_receives : SpiReceives spiRxneSet :=
  fun n => ⟨n, Nat.le_refl n, show (0x1#32).getLsbD spiSrRxne = true by decide⟩

end KoRTOS.Hal
