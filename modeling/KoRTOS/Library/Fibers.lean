import Mathlib.Algebra.Order.BigOperators.Group.Finset
import Mathlib.Data.Finset.Card
import Mathlib.Data.List.Nodup
import Mathlib.Data.List.Perm.Lattice

/-!
# Lists as the fibers of a partial function

A partial function sends each element to the list that holds it. `Fibers f L`
says that the lists `L` hold exactly the fibers of `f`, each element once. The
rules say how the two sides change together.
-/

namespace FiberLists

variable {α β : Type*}

structure Fibers (f : α → Option β) (L : β → List α) : Prop where
  nodup : ∀ b, (L b).Nodup
  mem_iff : ∀ {a b}, a ∈ L b ↔ f a = some b

variable {f : α → Option β} {L L' : β → List α} {a : α} {b b' : β}

theorem Fibers.notMem (h : Fibers f L) (ha : f a = none) : a ∉ L b := by
  intro hMem
  rw [h.mem_iff, ha] at hMem
  cases hMem

theorem Fibers.unique (h : Fibers f L) (hb : a ∈ L b) (hb' : a ∈ L b') : b = b' := by
  rw [h.mem_iff] at hb hb'
  exact Option.some.inj (hb.symm.trans hb')

theorem Fibers.perm (h : Fibers f L) (hPerm : ∀ b, (L' b).Perm (L b)) : Fibers f L' where
  nodup b := (hPerm b).nodup_iff.mpr (h.nodup b)
  mem_iff {_ b} := (hPerm b).mem_iff.trans h.mem_iff

theorem Fibers.sum_length_le (h : Fibers f L) (S : Finset α)
    (hS : ∀ a b, f a = some b → a ∈ S) (B : Finset β) :
    ∑ b ∈ B, (L b).length ≤ S.card := by
  classical
  have hDisjoint : (B : Set β).PairwiseDisjoint fun b => (L b).toFinset := by
    intro b _ c _ hbc
    rw [Function.onFun, Finset.disjoint_left]
    intro x hx hx'
    exact hbc (h.unique (List.mem_toFinset.mp hx) (List.mem_toFinset.mp hx'))
  calc
    ∑ b ∈ B, (L b).length = ∑ b ∈ B, (L b).toFinset.card :=
      Finset.sum_congr rfl fun b _ => (List.toFinset_card_of_nodup (h.nodup b)).symm
    _ = (B.biUnion fun b => (L b).toFinset).card := (Finset.card_biUnion hDisjoint).symm
    _ ≤ S.card := Finset.card_le_card fun x hx => by
      obtain ⟨b, _, hx⟩ := Finset.mem_biUnion.mp hx
      exact hS x b (h.mem_iff.mp (List.mem_toFinset.mp hx))

variable [DecidableEq α] [DecidableEq β]

theorem Fibers.append (h : Fibers f L) (ha : f a = none) :
    Fibers (Function.update f a (some b)) (Function.update L b (L b ++ [a])) where
  nodup c := by
    by_cases hc : c = b
    · subst hc
      rw [Function.update_self, List.nodup_append_comm]
      exact List.nodup_cons.mpr ⟨h.notMem ha, h.nodup c⟩
    · rw [Function.update_of_ne hc]
      exact h.nodup c
  mem_iff {x c} := by
    by_cases hx : x = a
    · subst hx
      by_cases hc : c = b
      · simp [hc]
      · simp [hc, h.notMem ha, Ne.symm hc]
    · by_cases hc : c = b
      · subst hc
        simp [hx, h.mem_iff]
      · simp [hx, hc, h.mem_iff]

theorem Fibers.erase (h : Fibers f L) (ha : f a = some b) :
    Fibers (Function.update f a none) (Function.update L b ((L b).erase a)) where
  nodup c := by
    by_cases hc : c = b
    · subst hc
      rw [Function.update_self]
      exact (h.nodup c).erase a
    · rw [Function.update_of_ne hc]
      exact h.nodup c
  mem_iff {x c} := by
    by_cases hx : x = a
    · subst hx
      by_cases hc : c = b
      · subst hc
        simp [(h.nodup c).not_mem_erase]
      · simp [hc, h.mem_iff, ha, Ne.symm hc]
    · by_cases hc : c = b
      · subst hc
        simp [hx, List.mem_erase_of_ne hx, h.mem_iff]
      · simp [hx, hc, h.mem_iff]

end FiberLists
