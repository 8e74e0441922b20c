import Mathlib.Data.List.Basic
import Mathlib.Data.Nat.ModEq

/-!
# Ring buffers

A ring of `max` slots of which `count` are in use, from `tail` on and around the
end. `Valid` relates the indices; `contents` is the list the slots represent.
Pushing appends to the list and popping takes its head, whatever the slots are.
-/

namespace RingBuffer

variable {α : Type*} {max head tail count : Nat}

structure Valid (max head tail count : Nat) : Prop where
  count_le : count ≤ max
  head_lt : head < max
  tail_lt : tail < max
  head_eq : head = (tail + count) % max

def contents (slot : Nat → α) (max tail count : Nat) : List α :=
  (List.range count).map fun i => slot ((tail + i) % max)

@[simp] theorem contents_zero (slot : Nat → α) : contents slot max tail 0 = [] := rfl

@[simp] theorem length_contents (slot : Nat → α) : (contents slot max tail count).length = count := by
  simp [contents]

theorem valid_empty (h : 0 < max) : Valid max 0 0 0 where
  count_le := Nat.zero_le max
  head_lt := h
  tail_lt := h
  head_eq := (Nat.zero_mod max).symm

theorem slot_injective {i j : Nat} (hi : i < max) (hj : j < max)
    (h : (tail + i) % max = (tail + j) % max) : i = j := by
  have hMod : i ≡ j [MOD max] := Nat.ModEq.add_left_cancel' tail h
  exact hMod.eq_of_lt_of_lt hi hj

theorem Valid.push (h : Valid max head tail count) (hRoom : count < max) :
    Valid max ((head + 1) % max) tail (count + 1) where
  count_le := hRoom
  head_lt := Nat.mod_lt _ (Nat.zero_lt_of_lt hRoom)
  tail_lt := h.tail_lt
  head_eq := by rw [h.head_eq, Nat.mod_add_mod, Nat.add_assoc]

theorem Valid.pop (h : Valid max head tail count) (hItem : 0 < count) :
    Valid max head ((tail + 1) % max) (count - 1) where
  count_le := (Nat.sub_le count 1).trans h.count_le
  head_lt := h.head_lt
  tail_lt := Nat.mod_lt _ (Nat.zero_lt_of_lt h.head_lt)
  head_eq := by
    rw [Nat.mod_add_mod, Nat.add_assoc, Nat.add_sub_cancel' hItem]
    exact h.head_eq

theorem Valid.contents_push (h : Valid max head tail count) (hRoom : count < max)
    {slot slot' : Nat → α} (hOther : ∀ i < max, i ≠ head → slot' i = slot i) :
    contents slot' max tail (count + 1) = contents slot max tail count ++ [slot' head] := by
  have hOld : contents slot' max tail count = contents slot max tail count := by
    apply List.map_congr_left
    intro i hi
    have hi : i < count := List.mem_range.mp hi
    apply hOther
    · exact Nat.mod_lt _ (Nat.zero_lt_of_lt hRoom)
    · rw [h.head_eq]
      intro hSlot
      have hEq := slot_injective (hi.trans hRoom) hRoom hSlot
      exact Nat.ne_of_lt hi hEq
  rw [← hOld, h.head_eq, contents, List.range_succ, List.map_append]
  rfl

theorem contents_pop (slot : Nat → α) (hTail : tail < max) (hItem : 0 < count) :
    contents slot max tail count =
      slot tail :: contents slot max ((tail + 1) % max) (count - 1) := by
  obtain ⟨n, rfl⟩ := Nat.exists_eq_succ_of_ne_zero (Nat.ne_of_gt hItem)
  rw [contents, Nat.succ_eq_add_one, List.range_succ_eq_map, List.map_cons, List.map_map,
    Nat.add_zero, Nat.mod_eq_of_lt hTail, Nat.add_sub_cancel]
  congr 1
  apply List.map_congr_left
  intro i _
  rw [Function.comp_apply, Nat.mod_add_mod, Nat.succ_eq_add_one, Nat.add_assoc, Nat.add_comm 1 i]

end RingBuffer
