import Mathlib.Data.List.Nodup
import Mathlib.Logic.Function.Basic

/-!
# Blocks of stores

A memory maps addresses to values. A block of stores writes a list of values to
a list of addresses, one after the other; a block of loads reads a list of
addresses. A block that is stored at distinct addresses is loaded back, and the
loads of other addresses do not see it.
-/

namespace BlockStore

variable {α β : Type*} {memory memory' : α → β} {addresses others : List α} {values : List β}
  {a : α}

def loadBlock (memory : α → β) (addresses : List α) : List β := addresses.map memory

theorem loadBlock_congr (h : ∀ a ∈ addresses, memory a = memory' a) :
    loadBlock memory addresses = loadBlock memory' addresses :=
  List.map_congr_left h

theorem loadBlock_append : loadBlock memory (addresses ++ others) =
    loadBlock memory addresses ++ loadBlock memory others :=
  List.map_append

section Store

variable [DecidableEq α]

def storeBlock (memory : α → β) : List α → List β → α → β
  | a :: addresses, v :: values => storeBlock (Function.update memory a v) addresses values
  | _, _ => memory

theorem storeBlock_of_notMem (h : a ∉ addresses) :
    storeBlock memory addresses values a = memory a := by
  induction addresses generalizing memory values with
  | nil => rfl
  | cons first addresses ih =>
    cases values with
    | nil => rfl
    | cons v values =>
      rw [List.mem_cons, not_or] at h
      rw [storeBlock, ih h.2, Function.update_of_ne h.1]

theorem loadBlock_storeBlock_of_disjoint (h : others.Disjoint addresses) :
    loadBlock (storeBlock memory addresses values) others = loadBlock memory others :=
  loadBlock_congr fun _ ha => storeBlock_of_notMem (h ha)

theorem loadBlock_storeBlock (hNodup : addresses.Nodup) (hLength : values.length = addresses.length) :
    loadBlock (storeBlock memory addresses values) addresses = values := by
  induction addresses generalizing memory values with
  | nil => exact (List.length_eq_zero_iff.mp hLength).symm
  | cons first addresses ih =>
    cases values with
    | nil => cases hLength
    | cons v values =>
      obtain ⟨hFirst, hRest⟩ := List.nodup_cons.mp hNodup
      have hTail : loadBlock (storeBlock (Function.update memory first v) addresses values)
          addresses = values := ih hRest (Nat.succ.inj hLength)
      rw [loadBlock, List.map_cons, storeBlock, storeBlock_of_notMem hFirst, Function.update_self]
      exact congrArg _ hTail

end Store
end BlockStore
