import KoRTOS.Hal.CanRx
import Mathlib.Tactic.FinCases

/-!
# Received frames are handed over once and in order

A call reads the registers of a FIFO one after the other while frames come in. As
long as each FIFO has one reader, its oldest frame stays where it is until the
call releases it, so that what was read is one frame.
-/

namespace KoRTOS.Hal

open RegisterBits

def rxLoad (shown : CanFifo) (old : CanFrame) (n : Nat) : U8 × CanFrame :=
  (List.range n).foldl (fun found i => rxStore i (rxRegister shown i) found) (0, old)

theorem rxLoad_succ {shown : CanFifo} {old : CanFrame} {n : Nat} :
    rxLoad shown old (n + 1) = rxStore n (rxRegister shown n) (rxLoad shown old n) := by
  rw [rxLoad, List.range_succ, List.foldl_append]
  rfl

theorem rxLoad_decode (shown : CanFifo) (old : CanFrame) :
    (rxLoad shown old 12).2 = shown.decode old := by
  have hData : (rxLoad shown old 12).2.data = (shown.decode old).data := by
    funext i
    fin_cases i <;> rfl
  have hEq : (rxLoad shown old 12).2 =
      { shown.decode old with data := (rxLoad shown old 12).2.data } := rfl
  rw [hEq, hData]

/-- What the call has read so far is from the frame that the FIFO shows. -/
def RxCall.Follows (shows : Nat → Option CanFifo) : RxCall → Prop
  | .returned _ _ => True
  | .testing _ _ => True
  | .reading fifoNum n found =>
    n ≤ 11 ∧ ∃ shown old, shows fifoNum = some shown ∧ found = rxLoad shown old n
  | .acking fifoNum frame => ∃ shown old, shows fifoNum = some shown ∧ frame = shown.decode old
  | .releasing fifoNum value frame =>
    value &&& canRfxrRfomxMsk ≠ 0 ∧
      ∃ shown old, shows fifoNum = some shown ∧ frame = shown.decode old

def RxCall.Owned (owner : Nat → Nat) (context : Nat) : RxCall → Prop
  | .returned _ _ => True
  | .testing fifoNum _ => (fifoNum = 0 ∨ fifoNum = 1) ∧ owner 0 = context ∧ owner 1 = context
  | .reading fifoNum _ _ | .acking fifoNum _ | .releasing fifoNum _ _ => owner fifoNum = context

/-- Each FIFO is read in one context: `CAN_receive` reads both. -/
def RxEvent.Uses (owner : Nat → Nat) : RxEvent → Prop
  | .arrive _ _ _ => True
  | .receive context _ => owner 0 = context ∧ owner 1 = context
  | .interrupt context fifoNum _ => owner fifoNum = context
  | .access _ _ => True

section Fifos

variable {fifo : RxFifo} {frame shown : CanFifo} {locked : Bool} {value : U32}

theorem RxFifo.length_arrive (h : fifo.pending.length ≤ 3) :
    (fifo.arrive locked frame).pending.length ≤ 3 := by
  unfold RxFifo.arrive
  split
  · rename_i hRoom
    simp only [List.length_append, List.length_singleton]
    omega
  · cases locked
    · simp only [Bool.false_eq_true, ↓reduceIte, List.length_append, List.length_dropLast,
        List.length_singleton]
      omega
    · simpa using h

theorem RxFifo.head_arrive (h : fifo.pending.head? = some shown) :
    (fifo.arrive locked frame).pending.head? = some shown := by
  obtain ⟨rest, hPending⟩ := List.head?_eq_some_iff.mp h
  unfold RxFifo.arrive
  split
  · simp [hPending]
  · rename_i hFull
    cases locked
    · cases rest with
      | nil => simp [hPending] at hFull
      | cons second rest => simp [hPending]
    · simpa using h

theorem RxFifo.rfr_and_canRfxrFmpxMsk (h : fifo.pending.length ≤ 3) :
    fifo.rfr &&& canRfxrFmpxMsk ≠ 0 ↔ fifo.pending ≠ [] := by
  have hAll : ∀ n ≤ 3, ∀ full overrun : Bool,
      (BitVec.ofNat 32 n ||| (if full then canRfxrFullxMsk else 0) |||
        (if overrun then canRfxrFovrxMsk else 0)) &&& canRfxrFmpxMsk ≠ 0 ↔ n ≠ 0 := by
    decide
  rw [RxFifo.rfr, hAll _ h, Ne, List.length_eq_zero_iff]

theorem or_canRfxrRfomxMsk : (value ||| canRfxrRfomxMsk) &&& canRfxrRfomxMsk ≠ 0 := by
  have hBit : canRfxrRfomxMsk = bit 5 := rfl
  rw [hBit]
  exact (and_bit_ne_zero (by decide)).mpr (getLsbD_or_bit_self (by decide))

end Fifos

/-- What holds between any two accesses, if each FIFO has one reader. -/
structure CanRx.Kept (owner : Nat → Nat) (rx : CanRx) : Prop where
  room : ∀ f, (rx.fifos f).pending.length ≤ 3
  owned : ∀ c, (rx.calls c).Owned owner c
  follows : ∀ c, (rx.calls c).Follows fun f => (rx.fifos f).pending.head?
  handed : ∀ f, ∃ released, rx.stored f = released ++ (rx.fifos f).pending ∧
    List.Forall₂ (fun shown frame => ∃ old, frame = shown.decode old) released (rx.delivered f)

namespace CanRx.Kept

variable {owner : Nat → Nat} {rx : CanRx} {context fifoNum n : Nat} {call : RxCall}

theorem setCall (h : rx.Kept owner) (hOwned : call.Owned owner context)
    (hFollows : call.Follows fun f => (rx.fifos f).pending.head?) :
    (rx.setCall context call).Kept owner := by
  refine ⟨h.room, fun c => ?_, fun c => ?_, h.handed⟩
  · simp only [CanRx.setCall, Function.update_apply]
    split
    · rename_i hEq
      exact hEq ▸ hOwned
    · exact h.owned c
  · simp only [CanRx.setCall, Function.update_apply]
    split
    · exact hFollows
    · exact h.follows c

theorem start {frame : Option CanFrame} (h : rx.Kept owner)
    (hOwner : owner 0 = context ∧ owner 1 = context) :
    (rx.setCall context (.start frame)).Kept owner := by
  cases frame with
  | none => exact h.setCall trivial trivial
  | some frame => exact h.setCall ⟨.inl rfl, hOwner⟩ trivial

theorem testing {frame : CanFrame} (h : rx.Kept owner)
    (hCall : rx.calls context = .testing fifoNum frame) :
    (rx.setCall context ((RxCall.testing fifoNum frame).read (rx.fifos fifoNum).rfr)).Kept
      owner := by
  obtain ⟨hNum, hFirst, hSecond⟩ : (RxCall.testing fifoNum frame).Owned owner context :=
    hCall ▸ h.owned context
  rw [RxCall.read]
  split
  · rename_i hSome
    rw [RxFifo.rfr_and_canRfxrFmpxMsk (h.room fifoNum)] at hSome
    refine h.setCall ?_ ⟨Nat.zero_le _, ?_⟩
    · obtain rfl | rfl := hNum
      · exact hFirst
      · exact hSecond
    · obtain ⟨shown, rest, hPending⟩ := List.exists_cons_of_ne_nil hSome
      exact ⟨shown, frame, by simp [hPending], rfl⟩
  · split
    · exact h.setCall ⟨.inr rfl, hFirst, hSecond⟩ trivial
    · exact h.setCall trivial trivial

theorem reading {found : U8 × CanFrame} {unknown : U32} (h : rx.Kept owner)
    (hCall : rx.calls context = .reading fifoNum n found) :
    (rx.setCall context
      ((RxCall.reading fifoNum n found).read (rx.shown fifoNum n unknown))).Kept owner := by
  have hOwner : (RxCall.reading fifoNum n found).Owned owner context := hCall ▸ h.owned context
  have hFollows := h.follows context
  rw [hCall] at hFollows
  obtain ⟨hn, shown, old, hHead, rfl⟩ := hFollows
  obtain ⟨rest, hPending⟩ := List.head?_eq_some_iff.mp hHead
  have hShown : rx.shown fifoNum n unknown = rxRegister shown n := by
    rw [CanRx.shown, hPending]
  rw [RxCall.read, hShown, ← rxLoad_succ]
  split
  · rename_i hMore
    exact h.setCall hOwner ⟨hMore, shown, old, hHead, rfl⟩
  · obtain rfl : n = 11 := by omega
    exact h.setCall hOwner ⟨shown, old, hHead, rxLoad_decode shown old⟩

theorem acking {frame : CanFrame} (h : rx.Kept owner)
    (hCall : rx.calls context = .acking fifoNum frame) :
    (rx.setCall context ((RxCall.acking fifoNum frame).read (rx.fifos fifoNum).rfr)).Kept
      owner := by
  have hOwner : (RxCall.acking fifoNum frame).Owned owner context := hCall ▸ h.owned context
  have hFollows := h.follows context
  rw [hCall] at hFollows
  exact h.setCall hOwner ⟨or_canRfxrRfomxMsk, hFollows⟩

theorem releasing {frame : CanFrame} {value : U32} (h : rx.Kept owner)
    (hCall : rx.calls context = .releasing fifoNum value frame) :
    Kept owner { rx with
      fifos := Function.update rx.fifos fifoNum ((rx.fifos fifoNum).write value)
      delivered := Function.update rx.delivered fifoNum (rx.delivered fifoNum ++ [frame])
      calls := Function.update rx.calls context (.returned .ok (some frame)) } := by
  have hOwner : owner fifoNum = context := by
    have hOwned := h.owned context
    rwa [hCall] at hOwned
  have hFollows := h.follows context
  rw [hCall] at hFollows
  obtain ⟨hValue, shown, old, hHead, rfl⟩ := hFollows
  obtain ⟨rest, hPending⟩ := List.head?_eq_some_iff.mp hHead
  have hLeft : ((rx.fifos fifoNum).write value).pending = rest := by
    rw [RxFifo.write, if_neg hValue, hPending, List.tail_cons]
  have hOther : ∀ c, c ≠ context → (rx.calls c).Follows fun f =>
      (Function.update rx.fifos fifoNum ((rx.fifos fifoNum).write value) f).pending.head? := by
    intro c hne
    have hMine : ∀ f, owner f = c →
        Function.update rx.fifos fifoNum ((rx.fifos fifoNum).write value) f = rx.fifos f := by
      intro f hf
      apply Function.update_of_ne
      rintro rfl
      exact hne (hf.symm.trans hOwner)
    have hOwned := h.owned c
    have hOld := h.follows c
    cases hCalls : rx.calls c with
    | returned | testing => trivial
    | reading f n found =>
      rw [hCalls] at hOwned hOld
      simp only [RxCall.Follows, hMine f hOwned]
      exact hOld
    | acking f frame =>
      rw [hCalls] at hOwned hOld
      simp only [RxCall.Follows, hMine f hOwned]
      exact hOld
    | releasing f value frame =>
      rw [hCalls] at hOwned hOld
      simp only [RxCall.Follows, hMine f hOwned]
      exact hOld
  refine ⟨fun f => ?_, fun c => ?_, fun c => ?_, fun f => ?_⟩
  · dsimp only
    rw [Function.update_apply]
    split
    · rw [hLeft]
      have hRoom := h.room fifoNum
      rw [hPending, List.length_cons] at hRoom
      omega
    · exact h.room f
  · dsimp only
    rw [Function.update_apply]
    split
    · trivial
    · exact h.owned c
  · dsimp only
    rw [Function.update_apply]
    split
    · trivial
    · rename_i hne
      exact hOther c hne
  · obtain ⟨released, hStored, hHanded⟩ := h.handed f
    simp only [Function.update_apply]
    split
    · rename_i hEq
      subst hEq
      refine ⟨released ++ [shown], ?_, List.rel_append hHanded (.cons ⟨old, rfl⟩ .nil)⟩
      rw [hLeft, hStored, hPending, List.append_assoc, List.singleton_append]
    · exact ⟨released, hStored, hHanded⟩

theorem arrive {locked : Bool} {frame : CanFifo} (h : rx.Kept owner) :
    (rx.step (.arrive fifoNum locked frame)).Kept owner := by
  refine ⟨fun f => ?_, h.owned, fun c => ?_, fun f => ?_⟩
  · simp only [CanRx.step, Function.update_apply]
    split
    · exact RxFifo.length_arrive (h.room fifoNum)
    · exact h.room f
  · have hHead : ∀ f shown, (rx.fifos f).pending.head? = some shown →
        (Function.update rx.fifos fifoNum ((rx.fifos fifoNum).arrive locked frame)
          f).pending.head? = some shown := by
      intro f shown hShown
      rw [Function.update_apply]
      split
      · rename_i hEq
        exact RxFifo.head_arrive (hEq ▸ hShown)
      · exact hShown
    have hOld := h.follows c
    simp only [CanRx.step]
    cases hCalls : rx.calls c with
    | returned | testing => trivial
    | reading f n found =>
      rw [hCalls] at hOld
      obtain ⟨hn, shown, old, hShown, hFound⟩ := hOld
      exact ⟨hn, shown, old, hHead f shown hShown, hFound⟩
    | acking f frame =>
      rw [hCalls] at hOld
      obtain ⟨shown, old, hShown, hFound⟩ := hOld
      exact ⟨shown, old, hHead f shown hShown, hFound⟩
    | releasing f value frame =>
      rw [hCalls] at hOld
      obtain ⟨hValue, shown, old, hShown, hFound⟩ := hOld
      exact ⟨hValue, shown, old, hHead f shown hShown, hFound⟩
  · obtain ⟨released, hStored, hHanded⟩ := h.handed f
    simp only [CanRx.step, Function.update_apply]
    split
    · rename_i hEq
      subst hEq
      refine ⟨released, ?_, hHanded⟩
      rw [CanRx.store, RxFifo.arrive, hStored]
      split
      · rw [List.append_assoc]
      · rename_i hFull
        cases locked
        · have hSome : (rx.fifos f).pending ≠ [] := by
            intro hNone
            simp [hNone] at hFull
          simp [List.dropLast_append_of_ne_nil hSome]
        · rfl
    · exact ⟨released, hStored, hHanded⟩

theorem step {event : RxEvent} (h : rx.Kept owner) (hUses : event.Uses owner) :
    (rx.step event).Kept owner := by
  cases event with
  | arrive => exact h.arrive
  | receive context frame =>
    rw [CanRx.step]
    split
    · exact h.start hUses
    · exact h
  | interrupt context fifoNum frame =>
    rw [CanRx.step]
    split
    · rename_i shown rest _ hPending
      exact h.setCall hUses ⟨Nat.zero_le _, shown, frame, by simp [hPending], rfl⟩
    · exact h
  | access context unknown =>
    rw [CanRx.step, CanRx.stepCall]
    split
    · exact h
    · exact h.testing ‹_›
    · exact h.reading ‹_›
    · exact h.acking ‹_›
    · exact h.releasing ‹_›

end CanRx.Kept

structure CanRx.Fresh (rx : CanRx) : Prop where
  empty : ∀ f, (rx.fifos f).pending = []
  idle : ∀ c, ∃ status frame, rx.calls c = .returned status frame
  stored : ∀ f, rx.stored f = []
  delivered : ∀ f, rx.delivered f = []

theorem CanRx.Fresh.kept {owner : Nat → Nat} {rx : CanRx} (h : rx.Fresh) : rx.Kept owner := by
  refine ⟨fun f => ?_, fun c => ?_, fun c => ?_, fun f => ⟨[], ?_, ?_⟩⟩
  · simp [h.empty]
  · obtain ⟨status, frame, hCall⟩ := h.idle c
    rw [hCall]
    trivial
  · obtain ⟨status, frame, hCall⟩ := h.idle c
    rw [hCall]
    trivial
  · rw [h.stored, h.empty, List.nil_append]
  · rw [h.delivered]
    exact .nil

/-- If each FIFO has one reader, then in every run, whenever frames come in, the frames that were
handed over from a FIFO are those that it took in and did not overwrite, each once, complete and
in their order, up to those that still wait. -/
theorem frames_handed_over {owner : Nat → Nat} {rx : CanRx} (hFresh : rx.Fresh)
    {events : List RxEvent} (hUses : ∀ e ∈ events, e.Uses owner) (f : Nat) :
    ∃ released, (rx.run events).stored f = released ++ ((rx.run events).fifos f).pending ∧
      List.Forall₂ (fun shown frame => ∃ old, frame = CanFifo.decode shown old) released
        ((rx.run events).delivered f) := by
  have hKept : ∀ (events : List RxEvent) (rx : CanRx), rx.Kept owner →
      (∀ e ∈ events, e.Uses owner) → (rx.run events).Kept owner := by
    intro events
    induction events with
    | nil => exact fun rx h _ => h
    | cons e events ih =>
      intro rx h hUses
      exact ih (rx.step e) (h.step (hUses e List.mem_cons_self)) fun e' he' =>
        hUses e' (List.mem_cons_of_mem _ he')
  exact (hKept events rx hFresh.kept hUses).handed f

def quietRx : CanRx where
  fifos _ := ⟨[], false, false⟩
  calls _ := .returned .ok none
  stored _ := []
  delivered _ := []

def blankFrame : CanFrame := ⟨0, 0, 0, 0, fun _ => 0, 0⟩

/-- A second frame comes in while the first is read. -/
theorem frames_handed_over_two :
    ∃ events, ((quietRx.run events).delivered 0).length = 1 ∧
      ((quietRx.run events).fifos 0).pending.length = 1 ∧
      ∃ released, (quietRx.run events).stored 0 =
          released ++ ((quietRx.run events).fifos 0).pending ∧
        List.Forall₂ (fun shown frame => ∃ old, frame = CanFifo.decode shown old) released
          ((quietRx.run events).delivered 0) := by
  have hFresh : quietRx.Fresh :=
    ⟨fun _ => rfl, fun _ => ⟨.ok, none, rfl⟩, fun _ => rfl, fun _ => rfl⟩
  refine ⟨[.arrive 0 false ⟨0x20000000, 1, 7, 0⟩, .receive 0 (some blankFrame)] ++
    List.replicate 4 (.access 0 0) ++ [.arrive 0 false ⟨0x40000000, 1, 8, 0⟩] ++
    List.replicate 11 (.access 0 0), rfl, rfl, ?_⟩
  refine frames_handed_over hFresh (?_ : ∀ e ∈ _, RxEvent.Uses (fun _ => 0) e) 0
  intro e he
  simp only [List.mem_append, List.mem_replicate, List.mem_cons, List.not_mem_nil, or_false] at he
  obtain (((rfl | rfl) | ⟨_, rfl⟩) | rfl) | ⟨_, rfl⟩ := he
  · trivial
  · exact ⟨rfl, rfl⟩
  · trivial
  · trivial
  · trivial

end KoRTOS.Hal
