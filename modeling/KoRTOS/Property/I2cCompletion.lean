import KoRTOS.Hal.I2cSending

/-!
# Completion of I2C transfers

BTF together with TxE says that the bus is waiting for a byte. The handler takes
it for the end of the transfer, whatever is left to send: an interrupt that is
served late in the middle of a transfer ends it there. A transfer in which this
does not happen is complete when it is reported.
-/

namespace KoRTOS.Hal

open RegisterBits Countdown Rounds

/-- BTF and TxE are both set in `SR1`. -/
def RanEmpty (sr1 : U32) : Prop := sr1.getLsbD i2cSr1Btf = true ∧ sr1.getLsbD i2cSr1Txe = true

structure I2c.Fresh (i2c : I2c) : Prop where
  idle : i2c.txRxState = .ready
  sent : i2c.sent = {}
  stops : i2c.stops = 0
  events : i2c.events = []

def I2c.sending (bus : Bus) (i2c : I2c) (buffer : Nat) (len : U32) (slaveAddr rsEnable : U8)
    (irq : Nat → U32 × U32) : Nat → I2c :=
  after (fun sr => I2c.evIrqHandling bus sr.1 sr.2) irq
    (i2c.masterSendIt buffer len slaveAddr rsEnable).1

def Bus.bytes (bus : Bus) (buffer n : Nat) : List U32 :=
  (List.range n).map fun i => (bus.memory (buffer + i)).setWidth 32

/-- The transfer is reported and ready exactly once, with all bytes sent in order, and a stop
condition if no repeated start was asked for. -/
structure I2cSendComplete (bus : Bus) (buffer : Nat) (len : U32) (rsEnable : U8)
    (states : Nat → I2c) : Prop where
  ends : ∃ n, (states n).txRxState = .ready
  once : ∀ n, (states n).events.count .txCmplt = if (states n).txRxState = .ready then 1 else 0
  complete : ∀ n, (states n).txRxState = .ready →
    (states n).sent.written = bus.bytes buffer len.toNat
  stop : ∀ n, (states n).stops =
    if (states n).txRxState = .ready ∧ rsEnable = i2cRsDisable then 1 else 0

namespace I2cSide

structure Busy (bus : Bus) (buffer : Nat) (len : U32) (rsEnable : U8) (side : I2cSide) (k : Nat) :
    Prop where
  state : side.state = .busyTx
  itbufen : side.itbufen = true
  itevten : side.itevten = true
  moved : Moved (bus.sendByte 0xFF) 1 1 buffer len {} True
    ⟨side.left, side.address, side.sent⟩ k
  repeatedStart : side.repeatedStart = rsEnable
  stops : side.stops = 0
  reports : side.reports = 0

structure Closed (bus : Bus) (buffer : Nat) (len : U32) (rsEnable : U8) (side : I2cSide) (k : Nat) :
    Prop where
  state : side.state = .ready
  itbufen : side.itbufen = false
  itevten : side.itevten = false
  sent : side.sent = moves (bus.sendByte 0xFF) 1 buffer {} k
  within : k ≤ len.toNat
  stops : side.stops = if k = len.toNat ∧ rsEnable = i2cRsDisable then 1 else 0
  reports : side.reports = 1

variable {bus : Bus} {buffer k : Nat} {len sr1 sr2 : U32} {rsEnable : U8} {side : I2cSide}

theorem Busy.left (h : side.Busy bus buffer len rsEnable k) :
    side.left.toNat = len.toNat - k ∧ k ≤ len.toNat := by
  have hToNat := h.moved.toNat trivial
  have hWithin := h.moved.within trivial
  rw [Nat.one_mul] at hToNat hWithin
  exact ⟨hToNat, hWithin⟩

theorem Busy.left_eq_zero_iff (h : side.Busy bus buffer len rsEnable k) :
    side.left = 0#32 ↔ k = len.toNat := by
  obtain ⟨hToNat, hWithin⟩ := h.left
  constructor
  · intro hZero
    rw [hZero, BitVec.toNat_zero] at hToNat
    omega
  · intro hEq
    refine BitVec.eq_of_toNat_eq ?_
    rw [hToNat, BitVec.toNat_zero]
    omega

theorem Busy.close (h : side.Busy bus buffer len rsEnable k) :
    side.close.Closed bus buffer len rsEnable k := by
  refine ⟨rfl, rfl, rfl, h.moved.moved, h.left.2, ?_, congrArg (· + 1) h.reports⟩
  have hZero : side.left = 0 ↔ k = len.toNat := h.left_eq_zero_iff
  simp only [I2cSide.close, h.stops, h.repeatedStart, hZero, Nat.zero_add]

theorem Busy.serve (h : side.Busy bus buffer len rsEnable k) (hLeft : side.left ≠ 0#32) :
    (side.serve bus).Busy bus buffer len rsEnable (k + 1) :=
  ⟨h.state, h.itbufen, h.itevten, h.moved.serve (h.moved.room (fun _ => Nat.one_dvd _) hLeft),
    h.repeatedStart, h.stops, h.reports⟩

theorem Busy.step_ranEmpty (h : side.Busy bus buffer len rsEnable k) (hEmpty : RanEmpty sr1) :
    side.step bus sr1 sr2 = side.close :=
  if_pos ⟨h.itevten, h.state, hEmpty⟩

theorem Busy.step (h : side.Busy bus buffer len rsEnable k) (hNot : ¬ RanEmpty sr1) :
    ∃ k, (side.step bus sr1 sr2).Busy bus buffer len rsEnable k := by
  rw [I2cSide.step, if_neg fun hClose => hNot hClose.2.2]
  split
  · rename_i hServe
    exact ⟨k + 1, h.serve hServe.2.2.2.2⟩
  · exact ⟨k, h⟩

theorem Closed.step (h : side.Closed bus buffer len rsEnable k) : side.step bus sr1 sr2 = side := by
  have hReady : side.state ≠ .busyTx := by
    rw [h.state]
    exact nofun
  rw [I2cSide.step, if_neg fun hClose => hReady hClose.2.1, if_neg fun hServe => hReady hServe.2.1]

end I2cSide

section Runs

variable {bus : Bus} {i2c : I2c} {buffer k : Nat} {len : U32} {slaveAddr rsEnable : U8}
  {irq : Nat → U32 × U32}

theorem I2c.Fresh.start (h : i2c.Fresh) :
    (i2c.masterSendIt buffer len slaveAddr rsEnable).1.txSide =
    ⟨.busyTx, true, true, len, buffer, {}, rsEnable, 0, 0⟩ := by
  have hEnabled : (i2c.cr2 ||| bit i2cCr2Itbufen ||| bit i2cCr2Itevten |||
      bit i2cCr2Iterren).getLsbD i2cCr2Itbufen = true ∧
      (i2c.cr2 ||| bit i2cCr2Itbufen ||| bit i2cCr2Itevten |||
        bit i2cCr2Iterren).getLsbD i2cCr2Itevten = true := by
    constructor
    · rw [getLsbD_or_bit (by decide), getLsbD_or_bit (by decide), getLsbD_or_bit (by decide),
        decide_eq_true rfl, Bool.or_true, Bool.true_or, Bool.true_or]
    · rw [getLsbD_or_bit (by decide), getLsbD_or_bit (by decide), decide_eq_true rfl, Bool.or_true,
        Bool.true_or]
  have hIdle : i2c.txRxState ≠ .busyRx ∧ i2c.txRxState ≠ .busyTx := by
    rw [h.idle]
    exact ⟨nofun, nofun⟩
  rw [I2c.masterSendIt, if_pos hIdle]
  simp only [I2c.txSide, I2c.generateStart, hEnabled.1, hEnabled.2, h.sent, h.stops, h.events,
    List.count_nil]

theorem I2c.sending_succ {n : Nat}
    (h : (i2c.sending bus buffer len slaveAddr rsEnable irq n).txSide.state ≠ .busyRx) :
    (i2c.sending bus buffer len slaveAddr rsEnable irq (n + 1)).txSide =
      (i2c.sending bus buffer len slaveAddr rsEnable irq n).txSide.step bus (irq n).1 (irq n).2 :=
  I2c.evIrqHandling_txSide h

theorem I2c.sending_ranEmpty {n : Nat}
    (h : (i2c.sending bus buffer len slaveAddr rsEnable irq n).txSide.Busy bus buffer len
      rsEnable k) (hEmpty : RanEmpty (irq n).1) :
    (i2c.sending bus buffer len slaveAddr rsEnable irq (n + 1)).txSide.Closed bus buffer len
      rsEnable k := by
  rw [I2c.sending_succ (by rw [h.state]; exact nofun), h.step_ranEmpty hEmpty]
  exact h.close

/-- In every state the transfer goes on, or was ended. It was ended with all bytes sent if the bus
never ran empty before. -/
theorem I2c.Fresh.sending (h : i2c.Fresh) (bus : Bus) (buffer : Nat) (len : U32)
    (slaveAddr rsEnable : U8) (irq : Nat → U32 × U32) (n : Nat) :
    (∃ k, (i2c.sending bus buffer len slaveAddr rsEnable irq n).txSide.Busy bus buffer len
      rsEnable k) ∨
    ∃ k, (i2c.sending bus buffer len slaveAddr rsEnable irq n).txSide.Closed bus buffer len
      rsEnable k ∧
      ((∀ m, (i2c.sending bus buffer len slaveAddr rsEnable irq m).txRxState = .busyTx →
        RanEmpty (irq m).1 → (i2c.sending bus buffer len slaveAddr rsEnable irq m).txLen = 0) →
          k = len.toNat) := by
  induction n with
  | zero =>
    refine .inl ⟨0, ?_⟩
    rw [I2c.sending, after, h.start]
    exact ⟨rfl, rfl, rfl, Moved.zero, rfl, rfl, rfl⟩
  | succ n ih =>
    obtain ⟨k, hBusy⟩ | ⟨k, hClosed, hAll⟩ := ih
    · rw [I2c.sending_succ (by rw [hBusy.state]; decide)]
      by_cases hEmpty : RanEmpty (irq n).1
      · rw [hBusy.step_ranEmpty hEmpty]
        exact .inr ⟨k, hBusy.close, fun hServed =>
          hBusy.left_eq_zero_iff.mp (hServed n hBusy.state hEmpty)⟩
      · exact .inl (hBusy.step hEmpty)
    · rw [I2c.sending_succ (by rw [hClosed.state]; decide), hClosed.step]
      exact .inr ⟨k, hClosed, hAll⟩

theorem moves_bytes : (moves (bus.sendByte 0xFF) 1 buffer {} k).written = bus.bytes buffer k := by
  induction k with
  | zero => rfl
  | succ k ih =>
    rw [moves, Bus.sendByte, ih, Bus.bytes, Bus.bytes, List.range_succ, List.map_append,
      Nat.one_mul, show (0xFF : U8) = BitVec.allOnes 8 from rfl, BitVec.and_allOnes]
    rfl

theorem I2c.sending_closed {n m : Nat}
    (h : (i2c.sending bus buffer len slaveAddr rsEnable irq n).txSide.Closed bus buffer len
      rsEnable k) (hLe : n ≤ m) :
    (i2c.sending bus buffer len slaveAddr rsEnable irq m).txSide.Closed bus buffer len
      rsEnable k := by
  induction m, hLe using Nat.le_induction with
  | base => exact h
  | succ m _ ih =>
    rwa [I2c.sending_succ (by rw [ih.state]; exact nofun), ih.step]

theorem I2c.Fresh.served_of_first {n m : Nat} (h : i2c.Fresh)
    (hBefore : ∀ m < n, ¬ RanEmpty (irq m).1) (hEmpty : RanEmpty (irq n).1)
    (hLeft : (i2c.sending bus buffer len slaveAddr rsEnable irq n).txLen = 0)
    (hState : (i2c.sending bus buffer len slaveAddr rsEnable irq m).txRxState = .busyTx)
    (hRanEmpty : RanEmpty (irq m).1) :
    (i2c.sending bus buffer len slaveAddr rsEnable irq m).txLen = 0 := by
  rcases Nat.lt_trichotomy m n with hLt | rfl | hLt
  · exact absurd hRanEmpty (hBefore m hLt)
  · exact hLeft
  · have hEnded : ∃ k, (i2c.sending bus buffer len slaveAddr rsEnable irq (n + 1)).txSide.Closed
        bus buffer len rsEnable k := by
      obtain ⟨k, hBusy⟩ | ⟨k, hClosed, _⟩ := h.sending bus buffer len slaveAddr rsEnable irq n
      · exact ⟨k, I2c.sending_ranEmpty hBusy hEmpty⟩
      · exact ⟨k, I2c.sending_closed hClosed (Nat.le_succ n)⟩
    obtain ⟨k, hClosed⟩ := hEnded
    exact absurd (hState.symm.trans (I2c.sending_closed hClosed hLt).state) nofun

theorem bytes_injective {n : Nat} (h : bus.bytes buffer k = bus.bytes buffer n) : k = n := by
  have hLength := congrArg List.length h
  rwa [Bus.bytes, Bus.bytes, List.length_map, List.length_map, List.length_range,
    List.length_range] at hLength

theorem I2c.Fresh.complete_iff (h : i2c.Fresh)
    (hOften : Often (fun sr : U32 × U32 => RanEmpty sr.1) irq) :
    I2cSendComplete bus buffer len rsEnable (i2c.sending bus buffer len slaveAddr rsEnable irq) ↔
      ∀ n, (i2c.sending bus buffer len slaveAddr rsEnable irq n).txRxState = .busyTx →
        RanEmpty (irq n).1 → (i2c.sending bus buffer len slaveAddr rsEnable irq n).txLen = 0 := by
  have hRun := h.sending bus buffer len slaveAddr rsEnable irq
  constructor
  · intro hComplete n hState hEmpty
    obtain ⟨k, hBusy⟩ | ⟨k, hClosed, _⟩ := hRun n
    · have hClosed := I2c.sending_ranEmpty hBusy hEmpty
      have hWritten := hComplete.complete (n + 1) hClosed.state
      have hMoved : (moves (bus.sendByte 0xFF) 1 buffer {} k).written =
          bus.bytes buffer len.toNat := (congrArg Sent.written hClosed.sent).symm.trans hWritten
      rw [moves_bytes] at hMoved
      exact hBusy.left_eq_zero_iff.mpr (bytes_injective hMoved)
    · exact absurd (hState.symm.trans hClosed.state) nofun
  · intro hServed
    refine ⟨?_, fun n => ?_, fun n hReady => ?_, fun n => ?_⟩
    · obtain ⟨n, _, hEmpty⟩ := hOften 0
      obtain ⟨k, hBusy⟩ | ⟨k, hClosed, _⟩ := hRun n
      · exact ⟨n + 1, (I2c.sending_ranEmpty hBusy hEmpty).state⟩
      · exact ⟨n, hClosed.state⟩
    · obtain ⟨k, hBusy⟩ | ⟨k, hClosed, _⟩ := hRun n
      · rw [if_neg fun hReady => absurd (hReady.symm.trans hBusy.state) nofun]
        exact hBusy.reports
      · have hReady : (i2c.sending bus buffer len slaveAddr rsEnable irq n).txRxState = .ready :=
          hClosed.state
        rw [if_pos hReady]
        exact hClosed.reports
    · obtain ⟨k, hBusy⟩ | ⟨k, hClosed, hAll⟩ := hRun n
      · exact absurd (hReady.symm.trans hBusy.state) nofun
      · rw [← hAll hServed, ← moves_bytes]
        exact congrArg Sent.written hClosed.sent
    · obtain ⟨k, hBusy⟩ | ⟨k, hClosed, hAll⟩ := hRun n
      · rw [if_neg fun hStopped => absurd (hStopped.1.symm.trans hBusy.state) nofun]
        exact hBusy.stops
      · have hReady : (i2c.sending bus buffer len slaveAddr rsEnable irq n).txRxState = .ready :=
          hClosed.state
        have hStops := hClosed.stops
        simp only [hAll hServed, true_and] at hStops
        simp only [hReady, true_and]
        exact hStops

/-- A transfer is complete exactly if every interrupt that finds the bus empty finds nothing left to
send. -/
theorem i2c_send_completes_iff (h : i2c.Fresh)
    (hOften : Often (fun sr : U32 × U32 => RanEmpty sr.1) irq) :
    I2cSendComplete bus buffer len rsEnable (i2c.sending bus buffer len slaveAddr rsEnable irq) ↔
      ∀ n, (i2c.sending bus buffer len slaveAddr rsEnable irq n).txRxState = .busyTx →
        RanEmpty (irq n).1 → (i2c.sending bus buffer len slaveAddr rsEnable irq n).txLen = 0 :=
  h.complete_iff hOften

end Runs

def sampleI2c : I2c :=
  ⟨i2cAckEnable, 0, 0, NULL, NULL, 0, 0, .ready, 0, 0, 0, {}, {}, [], 0, 0, []⟩

theorem sampleI2c_fresh : sampleI2c.Fresh := ⟨rfl, rfl, rfl, rfl⟩

/-- What a master that sends can be interrupted for: the start condition, the address, then `DR`
empty before anything was written to it, then `DR` empty with or without the shift register. -/
structure I2cRaised (irq : Nat → U32 × U32) : Prop where
  sb : (irq 0).1 = bit i2cSr1Sb
  addr : (irq 1).1 = bit i2cSr1Addr
  txe : (irq 2).1 = bit i2cSr1Txe
  data : ∀ n, 2 < n → (irq n).1 = bit i2cSr1Txe ∨ (irq n).1 = bit i2cSr1Btf ||| bit i2cSr1Txe
  master : ∀ n, (irq n).2.getLsbD i2cSr2Msl = true
  empty : Often (fun sr : U32 × U32 => RanEmpty sr.1) irq

def i2cFlags : Nat → U32 × U32
  | 0 => (bit i2cSr1Sb, bit i2cSr2Msl)
  | 1 => (bit i2cSr1Addr, bit i2cSr2Msl)
  | 2 => (bit i2cSr1Txe, bit i2cSr2Msl)
  | _ + 3 => (bit i2cSr1Btf ||| bit i2cSr1Txe, bit i2cSr2Msl)

theorem i2cFlags_ranEmpty (n : Nat) : RanEmpty (i2cFlags (n + 3)).1 := by
  rw [i2cFlags]
  exact ⟨by decide, by decide⟩

theorem i2cFlags_often : Often (fun sr : U32 × U32 => RanEmpty sr.1) i2cFlags := fun n =>
  ⟨n + 3, Nat.le_add_right n 3, i2cFlags_ranEmpty n⟩

theorem i2cFlags_raised : I2cRaised i2cFlags where
  sb := rfl
  addr := rfl
  txe := rfl
  data n hLt := by
    obtain ⟨k, rfl⟩ := Nat.exists_eq_add_of_le' hLt
    exact .inr rfl
  master n := by
    unfold i2cFlags
    split <;> decide
  empty := i2cFlags_often

def i2cFlagsInTime : Nat → U32 × U32
  | 0 => (bit i2cSr1Sb, bit i2cSr2Msl)
  | 1 => (bit i2cSr1Addr, bit i2cSr2Msl)
  | 2 | 3 | 4 => (bit i2cSr1Txe, bit i2cSr2Msl)
  | _ + 5 => (bit i2cSr1Btf ||| bit i2cSr1Txe, bit i2cSr2Msl)

theorem i2cFlagsInTime_ranEmpty (n : Nat) : RanEmpty (i2cFlagsInTime (n + 5)).1 := by
  rw [i2cFlagsInTime]
  exact ⟨by decide, by decide⟩

/-- Three bytes, and a stop condition. -/
theorem i2c_send_completes_iff_three :
    I2cSendComplete .numbered 16 3 i2cRsDisable
      (sampleI2c.sending .numbered 16 3 0x50 i2cRsDisable i2cFlagsInTime) := by
  have hOften : Often (fun sr : U32 × U32 => RanEmpty sr.1) i2cFlagsInTime := fun n =>
    ⟨n + 5, Nat.le_add_right n 5, i2cFlagsInTime_ranEmpty n⟩
  refine (i2c_send_completes_iff sampleI2c_fresh hOften).mpr fun m hState hEmpty => ?_
  refine sampleI2c_fresh.served_of_first (n := 5) ?_ (i2cFlagsInTime_ranEmpty 0) (by decide)
    hState hEmpty
  intro m hLt hEmpty
  match m, hLt, hEmpty.1 with
  | 0, _, hBtf | 1, _, hBtf | 2, _, hBtf | 3, _, hBtf | 4, _, hBtf => exact absurd hBtf (by decide)

/-- The second of two bytes is not sent if the interrupt for it is served late. -/
theorem late_service_ends_transfer :
    ¬ ∀ (bus : Bus) (i2c : I2c) (buffer : Nat) (len : U32) (slaveAddr rsEnable : U8)
      (irq : Nat → U32 × U32), i2c.Fresh → len ≠ 0#32 → I2cRaised irq →
      I2cSendComplete bus buffer len rsEnable
        (i2c.sending bus buffer len slaveAddr rsEnable irq) := by
  intro hClaim
  have hComplete := hClaim .numbered sampleI2c 16 2 0x50 i2cRsDisable i2cFlags sampleI2c_fresh
    (by decide) i2cFlags_raised
  have hWritten := hComplete.complete 4 (by decide)
  exact absurd hWritten (by decide)

end KoRTOS.Hal
