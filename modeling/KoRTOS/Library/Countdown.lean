import Mathlib.Data.BitVec
import KoRTOS.Library.Rounds

/-!
# Counting through a buffer

A transfer moves one unit after the other. It keeps an address that advances by
`size` with every unit, and a machine word that counts up to the length by one,
or down from it by `cost`. A word that counts down wraps around: when it reaches
zero, the units that were moved cost the length modulo the range of the word.
-/

namespace Countdown

open Rounds

variable {τ ι : Type*} {w : Nat}

structure Cursor (w : Nat) (τ : Type*) where
  count : BitVec w
  address : Nat
  moved : τ

/-- What `k` units leave behind that are moved from `start` on. -/
def moves (move : Nat → τ → τ) (size start : Nat) (t : τ) : Nat → τ
  | 0 => t
  | k + 1 => move (start + size * k) (moves move size start t k)

section Moves

variable {move : Nat → τ → τ} {size start : Nat} {t : τ} {j k : Nat}

theorem moves_total {f : τ → Nat} {c : Nat} (h : ∀ p t, f (move p t) = f t + c) :
    f (moves move size start t k) = f t + c * k := by
  induction k with
  | zero => rfl
  | succ k ih => rw [moves, h, ih, Nat.mul_succ, Nat.add_assoc]

theorem add_le_moves {f : τ → Nat} (h : ∀ p t, f t < f (move p t)) :
    f t + k ≤ f (moves move size start t k) := by
  induction k with
  | zero => exact Nat.le_refl _
  | succ k ih => exact Nat.lt_of_le_of_lt ih (h _ _)

theorem moves_mono {P : τ → Prop} (h : ∀ p t, P t → P (move p t)) (hLe : j ≤ k)
    (hj : P (moves move size start t j)) : P (moves move size start t k) := by
  induction hLe with
  | refl => exact hj
  | step _ ih => exact h _ _ ih

theorem moves_within {f : τ → List Nat} {a : Nat}
    (h : ∀ p t, a ∈ f (move p t) → a ∈ f t ∨ p ≤ a ∧ a < p + size)
    (ha : a ∈ f (moves move size start t k)) : a ∈ f t ∨ start ≤ a ∧ a < start + size * k := by
  induction k with
  | zero => exact .inl ha
  | succ k ih =>
    rw [Nat.mul_succ]
    obtain hBefore | hNow := h _ _ ha
    · obtain hOld | hIn := ih hBefore
      · exact .inl hOld
      · exact .inr (by omega)
    · exact .inr (by omega)

end Moves

section Rounds

variable (move : Nat → τ → τ) (cost size : Nat)

def Cursor.serve (cursor : Cursor w τ) : Cursor w τ :=
  ⟨cursor.count - BitVec.ofNat w cost, cursor.address + size, move cursor.address cursor.moved⟩

/-- Counts up to the length, then waits until it is `finished`. -/
def upRound (len : BitVec w) (ready finished : ι → Bool) (i : ι) (cursor : Cursor w τ) :
    Cursor w τ ⊕ τ :=
  if cursor.count < len then
    if ready i then
      .inl ⟨cursor.count + 1#w, cursor.address + size, move cursor.address cursor.moved⟩
    else .inl cursor
  else if finished i then .inr cursor.moved
  else .inl cursor

/-- Counts down to zero, then waits until it is `finished`. -/
def downRound (ready finished : ι → Bool) (i : ι) (cursor : Cursor w τ) : Cursor w τ ⊕ τ :=
  if cursor.count = 0#w then
    if finished i then .inr cursor.moved else .inl cursor
  else if ready i then .inl (cursor.serve move cost size)
  else .inl cursor

/-- Counts down, and ends when a unit brings the count to zero. With a guard, no unit is moved if
the count is zero. -/
def serveRound (guarded : Bool) (ready : ι → Bool) (i : ι) (cursor : Cursor w τ) :
    Cursor w τ ⊕ τ :=
  if ready i = true ∧ (guarded = true → cursor.count ≠ 0#w) then
    let cursor := cursor.serve move cost size
    if cursor.count = 0#w then .inr cursor.moved else .inl cursor
  else .inl cursor

end Rounds

section Up

variable {move : Nat → τ → τ} {size start : Nat} {len : BitVec w} {t₀ : τ}
  {ready finished : ι → Bool} {cursor : Cursor w τ}

/-- The cursor after `count` units. -/
structure Counted (move : Nat → τ → τ) (size start : Nat) (len : BitVec w) (t₀ : τ)
    (cursor : Cursor w τ) : Prop where
  count : cursor.count ≤ len
  address : cursor.address = start + size * cursor.count.toNat
  moved : cursor.moved = moves move size start t₀ cursor.count.toNat

theorem toNat_add_one {i : BitVec w} (h : i < len) : (i + 1#w).toNat = i.toNat + 1 := by
  have hLt : i.toNat < len.toNat := h
  have hLen := len.isLt
  rw [BitVec.toNat_add, BitVec.toNat_ofNat, Nat.add_mod_mod, Nat.mod_eq_of_lt (by omega)]

theorem Counted.round (h : Counted move size start len t₀ cursor) (i : ι) :
    Sum.elim (Counted move size start len t₀) (· = moves move size start t₀ len.toNat)
      (upRound move size len ready finished i cursor) := by
  rw [upRound]
  split
  · rename_i hLt
    split
    · have hNext := toNat_add_one hLt
      refine ⟨?_, ?_, ?_⟩ <;> dsimp only
      · rw [BitVec.le_def, hNext]
        exact hLt
      · rw [hNext, h.address, Nat.mul_succ, Nat.add_assoc]
      · rw [hNext, moves, ← h.moved, ← h.address]
    · exact h
  · rename_i hNot
    have hAll : cursor.count.toNat = len.toNat :=
      Nat.le_antisymm h.count (Nat.le_of_not_lt hNot)
    split
    · exact hAll ▸ h.moved
    · exact h

theorem up_result {input : Nat → ι} {fuel : Nat} {r : τ}
    (h : loop (upRound move size len ready finished) input ⟨0, start, t₀⟩ fuel = some r) :
    r = moves move size start t₀ len.toNat := by
  refine loop_invariant (I := Counted move size start len t₀) ?_ (fun i s hs => hs.round i) h
  exact ⟨Nat.zero_le _, by simp, by simp [moves]⟩

theorem up_ends {input : Nat → ι} (hReady : Often (ready · = true) input)
    (hFinished : Often (finished · = true) input) :
    ∃ fuel, loop (upRound move size len ready finished) input ⟨0, start, t₀⟩ fuel =
      some (moves move size start t₀ len.toNat) := by
  let helps (cursor : Cursor w τ) (i : ι) : Prop :=
    if cursor.count < len then ready i = true else finished i = true
  let left (cursor : Cursor w τ) : Nat := len.toNat - cursor.count.toNat
  have hRound : ∀ i (s : Cursor w τ), True → Sum.elim (fun s' => True ∧ (left s' < left s ∨
      left s' = left s ∧ helps s' = helps s ∧ ¬ helps s i)) (fun _ => True)
      (upRound move size len ready finished i s) := by
    intro i s _
    rw [upRound]
    split
    · rename_i hLt
      have hNat : s.count.toNat < len.toNat := hLt
      split
      · refine ⟨trivial, .inl ?_⟩
        change len.toNat - (s.count + 1#w).toNat < len.toNat - s.count.toNat
        rw [toNat_add_one hLt]
        omega
      · rename_i hNot
        exact ⟨trivial, .inr ⟨rfl, rfl, by simpa only [helps, if_pos hLt] using hNot⟩⟩
    · rename_i hLt
      split
      · trivial
      · rename_i hNot
        exact ⟨trivial, .inr ⟨rfl, rfl, by simpa only [helps, if_neg hLt] using hNot⟩⟩
  have hOften : ∀ s, True → Often (helps s) input := by
    intro s _
    by_cases hLt : s.count < len
    · simpa only [helps, if_pos hLt] using hReady
    · simpa only [helps, if_neg hLt] using hFinished
  obtain ⟨fuel, r, hr⟩ := loop_ends helps left trivial hRound hOften
  exact ⟨fuel, up_result hr ▸ hr⟩

end Up

section Down

variable {move : Nat → τ → τ} {cost size start : Nat} {len : BitVec w} {t₀ : τ} {fits : Prop}
  {cursor : Cursor w τ} {k : Nat}

/-- The cursor after `k` units. If the length `fits` they are within it. -/
structure Moved (move : Nat → τ → τ) (cost size start : Nat) (len : BitVec w) (t₀ : τ)
    (fits : Prop) (cursor : Cursor w τ) (k : Nat) : Prop where
  count : cursor.count = len - BitVec.ofNat w (cost * k)
  address : cursor.address = start + size * k
  moved : cursor.moved = moves move size start t₀ k
  within : fits → cost * k ≤ len.toNat

/-- What a transfer leaves behind whose count came to zero after `k` units. -/
structure Total (move : Nat → τ → τ) (cost size start : Nat) (len : BitVec w) (t₀ : τ)
    (fits : Prop) (t : τ) (k : Nat) : Prop where
  total : (cost * k) % 2 ^ w = len.toNat
  moved : t = moves move size start t₀ k
  exact : fits → cost * k = len.toNat

namespace Moved

theorem zero : Moved move cost size start len t₀ fits ⟨len, start, t₀⟩ 0 :=
  ⟨by simp, by simp, rfl, fun _ => Nat.zero_le _⟩

theorem serve (h : Moved move cost size start len t₀ fits cursor k)
    (hRoom : fits → cost * (k + 1) ≤ len.toNat) :
    Moved move cost size start len t₀ fits (cursor.serve move cost size) (k + 1) := by
  refine ⟨?_, ?_, ?_, hRoom⟩
  · rw [Cursor.serve, h.count, Nat.mul_succ, BitVec.ofNat_add, BitVec.sub_sub]
  · rw [Cursor.serve, h.address, Nat.mul_succ, Nat.add_assoc]
  · rw [Cursor.serve, moves, ← h.address, ← h.moved]

theorem toNat (h : Moved move cost size start len t₀ fits cursor k) (hFits : fits) :
    cursor.count.toNat = len.toNat - cost * k := by
  have hk := h.within hFits
  have hLt : cost * k < 2 ^ w := Nat.lt_of_le_of_lt hk len.isLt
  have hNat : (BitVec.ofNat w (cost * k)).toNat = cost * k := by
    rw [BitVec.toNat_ofNat, Nat.mod_eq_of_lt hLt]
  rw [h.count, BitVec.toNat_sub_of_le, hNat]
  rw [BitVec.le_def, hNat]
  exact hk

theorem room (h : Moved move cost size start len t₀ fits cursor k)
    (hDvd : fits → cost ∣ len.toNat) (hCount : cursor.count ≠ 0#w) :
    fits → cost * (k + 1) ≤ len.toNat := by
  intro hFits
  have hNe : cursor.count.toNat ≠ 0 := fun hZero => hCount (BitVec.eq_of_toNat_eq hZero)
  have hk := h.within hFits
  rw [h.toNat hFits] at hNe
  obtain ⟨m, hm⟩ := hDvd hFits
  rw [hm] at hNe hk ⊢
  have hLt : cost * k < cost * m := by omega
  exact Nat.mul_le_mul_left cost (Nat.lt_of_mul_lt_mul_left hLt)

theorem total (h : Moved move cost size start len t₀ fits cursor k) (hCount : cursor.count = 0#w) :
    Total move cost size start len t₀ fits cursor.moved k := by
  refine ⟨?_, h.moved, fun hFits => ?_⟩
  · have hLen : len = BitVec.ofNat w (cost * k) := by
      rw [← BitVec.sub_add_cancel len (BitVec.ofNat w (cost * k)), ← h.count, hCount,
        BitVec.zero_add]
    rw [hLen, BitVec.toNat_ofNat]
  · have hNat := h.toNat hFits
    have hk := h.within hFits
    rw [hCount, BitVec.toNat_zero] at hNat
    omega

theorem serve_lt (h : Moved move cost size start len t₀ fits cursor k) (hFits : fits)
    (hCost : 0 < cost) (hRoom : cost * (k + 1) ≤ len.toNat) :
    (cursor.serve move cost size).count.toNat < cursor.count.toNat := by
  rw [(h.serve fun _ => hRoom).toNat hFits, h.toNat hFits]
  rw [Nat.mul_succ] at hRoom ⊢
  omega

end Moved

section Machines

variable {ready finished : ι → Bool} {guarded : Bool} {input : Nat → ι} {fuel : Nat} {r : τ}

theorem Moved.downRound (h : Moved move cost size start len t₀ fits cursor k)
    (hDvd : fits → cost ∣ len.toNat) (i : ι) :
    Sum.elim (fun s => ∃ k, Moved move cost size start len t₀ fits s k)
      (fun r => ∃ k, Total move cost size start len t₀ fits r k)
      (downRound move cost size ready finished i cursor) := by
  rw [Countdown.downRound]
  split
  · rename_i hZero
    split
    · exact ⟨k, h.total hZero⟩
    · exact ⟨k, h⟩
  · rename_i hNot
    split
    · exact ⟨k + 1, h.serve (h.room hDvd hNot)⟩
    · exact ⟨k, h⟩

theorem down_after (hDvd : fits → cost ∣ len.toNat) (n : Nat) :
    Sum.elim (fun s => ∃ k, Moved move cost size start len t₀ fits s k)
      (fun r => ∃ k, Total move cost size start len t₀ fits r k)
      (after (unlessLeft (downRound move cost size ready finished)) input
        (.inl ⟨len, start, t₀⟩) n) := by
  refine unlessLeft_invariant (I := fun s => ∃ k, Moved move cost size start len t₀ fits s k)
    ⟨0, Moved.zero⟩ ?_ input n
  rintro i s ⟨k, hk⟩
  exact hk.downRound hDvd i

theorem down_ends (hCost : 0 < cost) (hDvd : cost ∣ len.toNat)
    (hReady : Often (ready · = true) input) (hFinished : Often (finished · = true) input) :
    ∃ fuel r, loop (downRound move cost size ready finished) input ⟨len, start, t₀⟩ fuel =
      some r := by
  let helps (cursor : Cursor w τ) (i : ι) : Prop :=
    if cursor.count = 0#w then finished i = true else ready i = true
  refine loop_ends (I := fun s => ∃ k, Moved move cost size start len t₀ True s k) helps
    (fun s => s.count.toNat) ⟨0, Moved.zero⟩ ?_ ?_
  · rintro i s ⟨k, hk⟩
    rw [Countdown.downRound]
    split <;> rename_i hZero
    · split <;> rename_i hFlag
      · trivial
      · refine ⟨⟨k, hk⟩, .inr ⟨rfl, rfl, ?_⟩⟩
        simpa only [helps, if_pos hZero] using hFlag
    · split <;> rename_i hFlag
      · have hRoom := hk.room (fun _ => hDvd) hZero trivial
        exact ⟨⟨k + 1, hk.serve fun _ => hRoom⟩, .inl (hk.serve_lt trivial hCost hRoom)⟩
      · refine ⟨⟨k, hk⟩, .inr ⟨rfl, rfl, ?_⟩⟩
        simpa only [helps, if_neg hZero] using hFlag
  · intro s _
    by_cases hZero : s.count = 0#w
    · simpa only [helps, if_pos hZero] using hFinished
    · simpa only [helps, if_neg hZero] using hReady

/-- A length of zero does not fit: if a unit is moved then, the count wraps around. -/
theorem Moved.serveRound (h : Moved move cost size start len t₀ fits cursor k)
    (hFits : fits → len ≠ 0#w ∧ cost ∣ len.toNat) (hZero : cursor.count = 0#w → len = 0#w) (i : ι) :
    Sum.elim (fun s => (∃ k, Moved move cost size start len t₀ fits s k) ∧
        (s.count = 0#w → len = 0#w))
      (fun r => ∃ k, 0 < k ∧ Total move cost size start len t₀ fits r k)
      (serveRound move cost size guarded ready i cursor) := by
  rw [Countdown.serveRound]
  split
  · have hRoom : fits → cost * (k + 1) ≤ len.toNat := by
      intro hIn
      exact h.room (fun hIn => (hFits hIn).2) (fun hCount => (hFits hIn).1 (hZero hCount)) hIn
    have hServed := h.serve hRoom
    dsimp only
    split
    · rename_i hLast
      exact ⟨k + 1, Nat.succ_pos k, hServed.total hLast⟩
    · rename_i hNot
      exact ⟨⟨k + 1, hServed⟩, fun hCount => absurd hCount hNot⟩
  · exact ⟨⟨k, h⟩, hZero⟩

theorem serve_after (hFits : fits → len ≠ 0#w ∧ cost ∣ len.toNat) (n : Nat) :
    Sum.elim (fun s => (∃ k, Moved move cost size start len t₀ fits s k) ∧
        (s.count = 0#w → len = 0#w))
      (fun r => ∃ k, 0 < k ∧ Total move cost size start len t₀ fits r k)
      (after (unlessLeft (serveRound move cost size guarded ready)) input
        (.inl ⟨len, start, t₀⟩) n) := by
  refine unlessLeft_invariant (I := fun s => (∃ k, Moved move cost size start len t₀ fits s k) ∧
    (s.count = 0#w → len = 0#w)) ⟨⟨0, Moved.zero⟩, id⟩ ?_ input n
  rintro i s ⟨⟨k, hk⟩, hZero⟩
  exact hk.serveRound hFits hZero i

theorem serve_ends (hCost : 0 < cost) (hNe : len ≠ 0#w) (hDvd : cost ∣ len.toNat)
    (hReady : Often (ready · = true) input) :
    ∃ fuel r, loop (serveRound move cost size guarded ready) input ⟨len, start, t₀⟩ fuel =
      some r := by
  refine loop_ends (I := fun s => (∃ k, Moved move cost size start len t₀ True s k) ∧
      (s.count = 0#w → len = 0#w)) (fun _ i => ready i = true) (fun s => s.count.toNat)
    ⟨⟨0, Moved.zero⟩, id⟩ ?_ fun _ _ => hReady
  rintro i s ⟨⟨k, hk⟩, hZero⟩
  have hNot : s.count ≠ 0#w := fun hCount => hNe (hZero hCount)
  rw [serveRound]
  split <;> rename_i hServe
  · have hRoom := hk.room (fun _ => hDvd) hNot trivial
    dsimp only
    split <;> rename_i hLast
    · trivial
    · refine ⟨⟨⟨k + 1, hk.serve fun _ => hRoom⟩, fun hCount => absurd hCount hLast⟩, .inl ?_⟩
      exact hk.serve_lt trivial hCost hRoom
  · exact ⟨⟨⟨k, hk⟩, hZero⟩, .inr ⟨rfl, rfl, fun hReady => hServe ⟨hReady, fun _ => hNot⟩⟩⟩

end Machines

end Down

end Countdown
