/-!
# Strict evaluation

The kernel of Lean evaluates by need, so that a state built by many updates is
rebuilt for every look at it. `force x f` is `f x`, computed so that `x` is
brought to a literal first. Runs of a machine evaluated this way cost time that
is linear in their length.
-/

namespace Strict

class Force (β : Type) where
  force : {α : Type} → β → (β → α) → α
  force_eq : ∀ {α : Type} (x : β) (f : β → α), force x f = f x

export Force (force)

variable {α β γ : Type}

@[simp] theorem force_eq [Force β] (x : β) (f : β → α) : force x f = f x := Force.force_eq x f

/-- Evaluating the `casesOn` brings `n` to a literal. -/
def forceNat (n : Nat) (f : Nat → α) : α := Nat.casesOn (n + 1) (f n) f

instance : Force Nat where
  force := forceNat
  force_eq _ _ := rfl

instance : Force Bool where
  force x f := match x with
    | true => f true
    | false => f false
  force_eq x _ := by cases x <;> rfl

instance {w : Nat} : Force (BitVec w) where
  force x f := forceNat x.toNat fun n => f (BitVec.ofNat w n)
  force_eq x f := by
    change f (BitVec.ofNat w x.toNat) = f x
    rw [BitVec.ofNat_toNat, BitVec.setWidth_eq]

instance [Force β] : Force (Option β) where
  force x f := match x with
    | none => f none
    | some y => force y fun y => f (some y)
  force_eq x _ := by cases x <;> simp

/-- Forces the entries of a table below `n`. -/
def forceTable [Force β] : Nat → (Nat → β) → ((Nat → β) → α) → α
  | 0, table, f => f table
  | n + 1, table, f => force (table n) fun y => forceTable n table fun t =>
    f fun i => if i = n then y else t i

theorem forceTable_eq [Force β] (n : Nat) (table : Nat → β) (f : (Nat → β) → α) :
    forceTable n table f = f table := by
  induction n generalizing f with
  | zero => rfl
  | succ n ih =>
    rw [forceTable, force_eq, ih]
    congr 1
    funext i
    split
    · rename_i hi
      rw [hi]
    · rfl

/-- Tables are forced at their first few entries. -/
instance [Force β] : Force (Nat → β) where
  force table f := forceTable 6 table f
  force_eq table f := forceTable_eq 6 table f

end Strict
