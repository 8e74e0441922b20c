import Mathlib.Data.Finset.Card
import Mathlib.Data.Finset.Insert
import Mathlib.Data.Fintype.EquivFin
import Mathlib.Data.Fintype.Sets
import Mathlib.Logic.Relation
import Mathlib.Order.Bounds.Basic

/-!
# Priority inheritance on a waits-for graph

Every task waits for at most one other task, `next`. Smaller numbers are higher
priorities. A task claims its base priority and the priority of everyone who
waits for it; its effective priority is exact when it is the least of its
claims, and bounded when it is not above any of them. The rules say what a
donation along a chain, a recomputation and a change of the graph do to both.
-/

namespace Inheritance

variable {T : Type*} {base eff eff' : T → Nat} {next next' : T → Option T} {c o t x z : T}

def Waits (next : T → Option T) (a b : T) : Prop := next a = some b

def Acyclic (next : T → Option T) : Prop := ∀ t, ¬ Relation.TransGen (Waits next) t t

/-- `x` is on the chain of tasks that starts at `o`. -/
def OnChain (next : T → Option T) (o x : T) : Prop := Relation.ReflTransGen (Waits next) o x

def claims (base eff : T → Nat) (next : T → Option T) (x : T) : Set Nat :=
  insert (base x) {p | ∃ w, next w = some x ∧ p = eff w}

def Exact (base eff : T → Nat) (next : T → Option T) (x : T) : Prop :=
  IsLeast (claims base eff next x) (eff x)

def Bounded (base eff : T → Nat) (next : T → Option T) (x : T) : Prop :=
  eff x ∈ lowerBounds (claims base eff next x)

theorem bounded_iff :
    Bounded base eff next x ↔ eff x ≤ base x ∧ ∀ w, next w = some x → eff x ≤ eff w := by
  constructor
  · intro h
    exact ⟨h (.inl rfl), fun w hw => h (.inr ⟨w, hw, rfl⟩)⟩
  · rintro ⟨hBase, hWaiters⟩ p (rfl | ⟨w, hw, rfl⟩)
    · exact hBase
    · exact hWaiters w hw

theorem claims_congr (hNext : ∀ w, next' w = some z ↔ next w = some z)
    (hEff : ∀ w, next w = some z → eff' w = eff w) :
    claims base eff' next' z = claims base eff next z := by
  ext p
  constructor
  · rintro (rfl | ⟨w, hw, rfl⟩)
    · exact .inl rfl
    · have hw := (hNext w).mp hw
      exact .inr ⟨w, hw, hEff w hw⟩
  · rintro (rfl | ⟨w, hw, rfl⟩)
    · exact .inl rfl
    · exact .inr ⟨w, (hNext w).mpr hw, (hEff w hw).symm⟩

theorem Exact.congr (h : Exact base eff next z) (hNext : ∀ w, next' w = some z ↔ next w = some z)
    (hEff : ∀ w, next w = some z → eff' w = eff w) (hz : eff' z = eff z) :
    Exact base eff' next' z := by
  rw [Exact, claims_congr hNext hEff, hz]
  exact h

theorem Bounded.congr (h : Bounded base eff next z)
    (hNext : ∀ w, next' w = some z ↔ next w = some z)
    (hEff : ∀ w, next w = some z → eff' w = eff w) (hz : eff' z = eff z) :
    Bounded base eff' next' z := by
  rw [Bounded, claims_congr hNext hEff, hz]
  exact h

theorem Exact.bounded (h : Exact base eff next x) : Bounded base eff next x := h.2

theorem Bounded.mono (h : Bounded base eff next x)
    (hNext : ∀ w, next' w = some x → next w = some x) : Bounded base eff next' x := by
  rw [bounded_iff] at h ⊢
  exact ⟨h.1, fun w hw => h.2 w (hNext w hw)⟩

theorem acyclic_of_rank (rank : T → Nat) (h : ∀ a b, next a = some b → rank b < rank a) :
    Acyclic next := by
  have hDescend : ∀ a b, Relation.TransGen (Waits next) a b → rank b < rank a := by
    intro a b hab
    induction hab with
    | single hab => exact h _ _ hab
    | tail _ hbc ih => exact (h _ _ hbc).trans ih
  intro t ht
  exact lt_irrefl _ (hDescend t t ht)

theorem acyclic_of_ascending {K : Type*} [Preorder K] (key : T → K)
    (h : ∀ a b c, next a = some b → next b = some c → key a < key b) : Acyclic next := by
  have hAscend : ∀ a b, Relation.TransGen (Waits next) a b →
      ∀ c, next b = some c → key a < key b := by
    intro a b hab
    induction hab with
    | single hab => exact fun c hc => h _ _ c hab hc
    | tail _ hbc ih =>
      intro d hcd
      exact (ih _ hbc).trans (h _ _ d hbc hcd)
  intro t ht
  obtain ⟨c, hc, _⟩ := Relation.TransGen.head'_iff.mp ht
  exact lt_irrefl _ (hAscend t t ht c hc)

theorem Acyclic.exists_end (hAcyclic : Acyclic next) {S : Finset T}
    (hS : ∀ a b, next a = some b → b ∈ S) (t : T) : ∃ o, OnChain next t o ∧ next o = none := by
  let follows (a b : {x // x ∈ S}) : Prop := Relation.TransGen (Waits next) b.1 a.1
  have hTrans : IsTrans {x // x ∈ S} follows := ⟨fun _ _ _ hab hbc => hbc.trans hab⟩
  have hIrrefl : Std.Irrefl follows := ⟨fun a ha => hAcyclic a.1 ha⟩
  have hFounded : WellFounded follows := Finite.wellFounded_of_trans_of_irrefl follows
  have hEnd : ∀ x : {x // x ∈ S}, ∃ o, OnChain next x.1 o ∧ next o = none := by
    intro x
    induction x using hFounded.induction with
    | h x ih =>
      cases hNext : next x.1 with
      | none => exact ⟨x.1, .refl, hNext⟩
      | some y =>
        obtain ⟨o, hChain, hLast⟩ := ih ⟨y, hS _ _ hNext⟩ (.single hNext)
        exact ⟨o, Relation.ReflTransGen.head hNext hChain, hLast⟩
  cases hNext : next t with
  | none => exact ⟨t, .refl, hNext⟩
  | some y =>
    obtain ⟨o, hChain, hLast⟩ := hEnd ⟨y, hS _ _ hNext⟩
    exact ⟨o, Relation.ReflTransGen.head hNext hChain, hLast⟩

/-- On an acyclic graph of finitely many tasks the exact priorities are determined by the base
priorities. The induction is on the tasks that wait, directly or not. -/
theorem Exact.unique (hAcyclic : Acyclic next) {S : Finset T}
    (hS : ∀ a b, b ∈ S → next a = some b → a ∈ S) (h : ∀ x ∈ S, Exact base eff next x)
    (h' : ∀ x ∈ S, Exact base eff' next x) : ∀ x ∈ S, eff x = eff' x := by
  let waits (a b : {x // x ∈ S}) : Prop := Relation.TransGen (Waits next) a.1 b.1
  have hTrans : IsTrans {x // x ∈ S} waits := ⟨fun _ _ _ => Relation.TransGen.trans⟩
  have hIrrefl : Std.Irrefl waits := ⟨fun a ha => hAcyclic a.1 ha⟩
  have hFounded : WellFounded waits := Finite.wellFounded_of_trans_of_irrefl waits
  have hAll : ∀ x : {x // x ∈ S}, eff x.1 = eff' x.1 := by
    intro x
    induction x using hFounded.induction with
    | h x ih =>
      have hSame : claims base eff next x.1 = claims base eff' next x.1 := by
        apply claims_congr (fun _ => Iff.rfl)
        intro w hw
        exact ih ⟨w, hS w x.1 x.2 hw⟩ (.single hw)
      have hLeast := h' x.1 x.2
      rw [Exact, ← hSame] at hLeast
      exact IsLeast.unique (h x.1 x.2) hLeast
  exact fun x hx => hAll ⟨x, hx⟩

theorem Bounded.chain (h : ∀ x, Bounded base eff next x) (hChain : OnChain next t o) :
    eff o ≤ eff t := by
  induction hChain with
  | refl => exact le_rfl
  | @tail x y _ hxy ih => exact ((bounded_iff.mp (h y)).2 x hxy).trans ih

/-- An exact priority is the base priority of the task itself or of one that waits for it, directly
or not. The induction is on the tasks that wait. -/
theorem Exact.exists_source (hAcyclic : Acyclic next) {S : Finset T}
    (hS : ∀ a b, b ∈ S → next a = some b → a ∈ S) (h : ∀ x ∈ S, Exact base eff next x) :
    ∀ x ∈ S, ∃ u, OnChain next u x ∧ base u = eff x := by
  let waits (a b : {x // x ∈ S}) : Prop := Relation.TransGen (Waits next) a.1 b.1
  have hTrans : IsTrans {x // x ∈ S} waits := ⟨fun _ _ _ => Relation.TransGen.trans⟩
  have hIrrefl : Std.Irrefl waits := ⟨fun a ha => hAcyclic a.1 ha⟩
  have hFounded : WellFounded waits := Finite.wellFounded_of_trans_of_irrefl waits
  have hAll : ∀ x : {x // x ∈ S}, ∃ u, OnChain next u x.1 ∧ base u = eff x.1 := by
    intro x
    induction x using hFounded.induction with
    | h x ih =>
      obtain hBase | ⟨w, hw, hEff⟩ := (h x.1 x.2).1
      · exact ⟨x.1, .refl, hBase.symm⟩
      · obtain ⟨u, hChain, hSource⟩ := ih ⟨w, hS w x.1 x.2 hw⟩ (.single hw)
        exact ⟨u, hChain.tail hw, hSource.trans hEff.symm⟩
  exact fun x hx => hAll ⟨x, hx⟩

theorem Acyclic.next_ne (h : Acyclic next) : next x ≠ some x := fun hx => h x (.single hx)

/-- The tasks met by following `next` for `n` rounds. -/
def walk (next : T → Option T) : Nat → Option T → List T
  | 0, _ => []
  | _ + 1, none => []
  | n + 1, some o => o :: walk next n (next o)

theorem onChain_of_mem_walk {n : Nat} (h : x ∈ walk next n (some o)) : OnChain next o x := by
  induction n generalizing o with
  | zero => simp [walk] at h
  | succ n ih =>
    rw [walk] at h
    rcases List.mem_cons.mp h with rfl | h
    · exact .refl
    · cases hNext : next o with
      | none => cases n <;> simp [walk, hNext] at h
      | some o' =>
        rw [hNext] at h
        exact Relation.ReflTransGen.head hNext (ih h)

/-- The tasks already visited, `V`, all lead to `o`, so that a round never comes back to
them; each round uses up one task that is not in `V`. -/
theorem mem_walk_of_visited (hAcyclic : Acyclic next) {S : Finset T}
    (hS : ∀ a b, next a = some b → b ∈ S) :
    ∀ (n : Nat) (V : Finset T) (o : T), o ∈ S → o ∉ V → V ⊆ S →
      (∀ v ∈ V, Relation.TransGen (Waits next) v o) → S.card ≤ n + V.card →
      OnChain next o x → x ∈ walk next n (some o) := by
  classical
  intro n
  induction n with
  | zero =>
    intro V o hoS hoV hVS _ hCard _
    rw [Nat.zero_add] at hCard
    exact absurd (Finset.eq_of_subset_of_card_le hVS hCard ▸ hoS) hoV
  | succ n ih =>
    intro V o hoS hoV hVS hV hCard hx
    rw [walk]
    rcases Relation.ReflTransGen.cases_head hx with rfl | ⟨o', ho', hx⟩
    · exact List.mem_cons_self
    · have hNext : next o = some o' := ho'
      rw [hNext]
      apply List.mem_cons_of_mem
      apply ih (insert o V) o' (hS _ _ hNext) _ (Finset.insert_subset hoS hVS) _ _ hx
      · intro hMem
        rcases Finset.mem_insert.mp hMem with rfl | hMem
        · exact hAcyclic.next_ne hNext
        · exact hAcyclic o' ((hV o' hMem).tail ho')
      · intro v hv
        rcases Finset.mem_insert.mp hv with rfl | hv
        · exact .single ho'
        · exact (hV v hv).tail ho'
      · rw [Finset.card_insert_of_notMem hoV]
        omega

/-- On an acyclic graph a walk of as many rounds as there are tasks meets the whole chain. -/
theorem mem_walk_iff (hAcyclic : Acyclic next) {S : Finset T}
    (hS : ∀ a b, next a = some b → b ∈ S) (ho : o ∈ S) {n : Nat} (hn : S.card ≤ n) :
    x ∈ walk next n (some o) ↔ OnChain next o x := by
  refine ⟨onChain_of_mem_walk, ?_⟩
  exact mem_walk_of_visited hAcyclic hS n ∅ o ho (by simp) (by simp) (by simp) (by simpa using hn)

variable [DecidableEq T]

/-- Lowers the number of every task of the chain to `p` at most. -/
def donate (eff : T → Nat) (p : Nat) (chain : List T) (x : T) : Nat :=
  if x ∈ chain then min (eff x) p else eff x

theorem update_next_eq (hc : next c = none) {w : T} :
    Function.update next c (some o) w = some x ↔ (w = c ∧ x = o) ∨ next w = some x := by
  by_cases hw : w = c
  · subst hw
    simp [hc, eq_comm]
  · simp [hw]

theorem exact_enter (hc : next c = none) (h : Exact base eff next x) (hx : x ≠ o) :
    Exact base eff (Function.update next c (some o)) x := by
  refine h.congr (fun w => ?_) (fun _ _ => rfl) rfl
  rw [update_next_eq hc]
  constructor
  · rintro (⟨_, hEq⟩ | hw)
    · exact absurd hEq hx
    · exact hw
  · exact .inr

section Donation

variable {chain : List T} (hc : next c = none) (hChain : ∀ x, x ∈ chain ↔ OnChain next o x)
  (hNot : ¬ OnChain next o c)
include hc hChain hNot

/-- A task `c` starts to wait for `o` and donates its priority along the chain of `o`. -/
theorem Bounded.afterDonation (h : Bounded base eff next x) :
    Bounded base (donate eff (eff c) chain) (Function.update next c (some o)) x := by
  rw [bounded_iff] at h ⊢
  have hLe : donate eff (eff c) chain x ≤ eff x := by
    unfold donate
    split
    · exact min_le_left _ _
    · exact le_rfl
  refine ⟨hLe.trans h.1, ?_⟩
  intro w hw
  rcases (update_next_eq hc).mp hw with ⟨rfl, rfl⟩ | hw
  · have hOn : x ∈ chain := (hChain x).mpr .refl
    have hOff : w ∉ chain := fun hMem => hNot ((hChain w).mp hMem)
    simp [donate, hOn, hOff]
  · by_cases hMem : w ∈ chain
    · have hOn : x ∈ chain := (hChain x).mpr (((hChain w).mp hMem).tail hw)
      simp only [donate, hMem, hOn, if_true]
      exact min_le_min_right _ (h.2 w hw)
    · simp only [donate, hMem, if_false]
      exact hLe.trans (h.2 w hw)

theorem Exact.afterDonation (h : Exact base eff next x) :
    Exact base (donate eff (eff c) chain) (Function.update next c (some o)) x := by
  refine ⟨?_, Bounded.afterDonation hc hChain hNot h.bounded⟩
  by_cases hOn : x ∈ chain
  · have hOff : c ∉ chain := fun hMem => hNot ((hChain c).mp hMem)
    simp only [donate, hOn, if_true]
    -- the least claim is the old one, or the donated priority, which the waiter before `x`
    -- on the chain now has
    rcases le_or_gt (eff x) (eff c) with hLe | hLt
    · rw [min_eq_left hLe]
      rcases h.1 with hBase | ⟨w, hw, hEq⟩
      · exact .inl hBase
      · refine .inr ⟨w, (update_next_eq hc).mpr (.inr hw), ?_⟩
        by_cases hMem : w ∈ chain
        · simp [donate, hMem, ← hEq, hLe]
        · simp [donate, hMem, hEq]
    · rw [min_eq_right hLt.le]
      rcases Relation.ReflTransGen.cases_tail ((hChain x).mp hOn) with rfl | ⟨w, hw, hwx⟩
      · exact .inr ⟨c, (update_next_eq hc).mpr (.inl ⟨rfl, rfl⟩), by
          simp [donate, hOff]⟩
      · have hMem : w ∈ chain := (hChain w).mpr hw
        have hBound : eff x ≤ eff w := h.2 (.inr ⟨w, hwx, rfl⟩)
        refine .inr ⟨w, (update_next_eq hc).mpr (.inr hwx), ?_⟩
        simp [donate, hMem, hLt.le.trans hBound]
  · simp only [donate, hOn, if_false]
    rcases h.1 with hBase | ⟨w, hw, hEq⟩
    · exact .inl hBase
    · have hMem : w ∉ chain := fun hMem => hOn ((hChain x).mpr (((hChain w).mp hMem).tail hw))
      exact .inr ⟨w, (update_next_eq hc).mpr (.inr hw), by simp [donate, hMem, hEq]⟩

end Donation

omit [DecidableEq T] in
theorem Acyclic.mono (h : Acyclic next') (hNext : ∀ a b, next a = some b → next' a = some b) :
    Acyclic next := by
  intro t ht
  exact h t (Relation.TransGen.mono hNext t t ht)

theorem Acyclic.not_onChain (hc : next c = none)
    (h : Acyclic (Function.update next c (some o))) : ¬ OnChain next o c := by
  intro hChain
  have hStill : ∀ a b, Waits next a b → Waits (Function.update next c (some o)) a b := by
    intro a b hab
    have hne : a ≠ c := by
      rintro rfl
      exact absurd (hc.symm.trans hab) (by simp)
    rw [Waits, Function.update_of_ne hne]
    exact hab
  have hBack := Relation.ReflTransGen.mono hStill o c hChain
  have hFirst : Waits (Function.update next c (some o)) c o := Function.update_self ..
  exact h c (Relation.TransGen.head' hFirst hBack)

theorem exact_update_self {v : Nat} (h : IsLeast (claims base eff next x) v)
    (hx : next x ≠ some x) : Exact base (Function.update eff x v) next x := by
  have hClaims : claims base (Function.update eff x v) next x = claims base eff next x :=
    claims_congr (fun _ => Iff.rfl) fun w hw => by
      have hwx : w ≠ x := fun hEq => hx (hEq ▸ hw)
      simp [hwx]
  rw [Exact, hClaims, Function.update_self]
  exact h

theorem Exact.update_other {v : Nat} (h : Exact base eff next z) (hzx : z ≠ x)
    (hx : next x ≠ some z) : Exact base (Function.update eff x v) next z := by
  refine h.congr (fun _ => Iff.rfl) (fun w hw => ?_) (by simp [hzx])
  have hwx : w ≠ x := fun hEq => hx (hEq ▸ hw)
  simp [hwx]

/-- One round of a recomputation along the chain of `o`: if only its tasks may be wrong, then
after `o` has got its least claim only those after `o` may be. -/
theorem Exact.afterRound {v : Nat} (hAcyclic : Acyclic next)
    (hv : IsLeast (claims base eff next o) v) (h : ¬ OnChain next o z → Exact base eff next z)
    (hRest : ∀ o', next o = some o' → ¬ OnChain next o' z) :
    Exact base (Function.update eff o v) next z := by
  by_cases hEq : z = o
  · subst hEq
    exact exact_update_self hv hAcyclic.next_ne
  · have hOff : ¬ OnChain next o z := by
      intro hOn
      rcases Relation.ReflTransGen.cases_head hOn with rfl | ⟨o', ho', hOn⟩
      · exact hEq rfl
      · exact hRest o' ho' hOn
    apply (h hOff).update_other hEq
    intro hNext
    exact hRest z hNext .refl

theorem Bounded.update {v : Nat} (hx : Bounded base eff next x) (h : Bounded base eff next z)
    (hv : IsLeast (claims base eff next x) v) (hLoop : next x ≠ some x) :
    Bounded base (Function.update eff x v) next z := by
  by_cases hzx : z = x
  · subst hzx
    exact (exact_update_self hv hLoop).bounded
  · have hRaise : eff x ≤ v := hx hv.1
    rw [bounded_iff] at h ⊢
    rw [Function.update_of_ne hzx]
    refine ⟨h.1, fun w hw => ?_⟩
    by_cases hwx : w = x
    · subst hwx
      rw [Function.update_self]
      exact (h.2 w hw).trans hRaise
    · rw [Function.update_of_ne hwx]
      exact h.2 w hw

theorem Exact.join {p : Nat} (hFree : next t = none) (hNobody : ∀ w, next w ≠ some t)
    (h : z ≠ t → Exact base eff next z) :
    Exact (Function.update base t p) (Function.update eff t p) next z := by
  by_cases hz : z = t
  · subst hz
    rw [Exact, Function.update_self]
    constructor
    · left
      rw [Function.update_self]
    · rintro q (rfl | ⟨w, hw, _⟩)
      · rw [Function.update_self]
      · exact absurd hw (hNobody w)
  · have hBase : claims (Function.update base t p) (Function.update eff t p) next z =
        claims base (Function.update eff t p) next z := by
      rw [claims, claims, Function.update_of_ne hz]
    rw [Exact, hBase]
    refine (h hz).congr (fun _ => Iff.rfl) (fun w hw => ?_) (Function.update_of_ne hz ..)
    have hwt : w ≠ t := by
      rintro rfl
      exact absurd (hFree.symm.trans hw) (by simp)
    exact Function.update_of_ne hwt ..

theorem Bounded.join {p : Nat} (hFree : next t = none) (hNobody : ∀ w, next w ≠ some t)
    (h : Bounded base eff next z) :
    Bounded (Function.update base t p) (Function.update eff t p) next z := by
  rw [bounded_iff] at h ⊢
  by_cases hz : z = t
  · subst hz
    rw [Function.update_self, Function.update_self]
    exact ⟨le_rfl, fun w hw => absurd hw (hNobody w)⟩
  · rw [Function.update_of_ne hz, Function.update_of_ne hz]
    refine ⟨h.1, fun w hw => ?_⟩
    have hwt : w ≠ t := by
      rintro rfl
      exact absurd (hFree.symm.trans hw) (by simp)
    rw [Function.update_of_ne hwt]
    exact h.2 w hw

section HandOver

variable {u v : Nat} (hc : next c = none) (ht : next t = some c) (hLeft : next' t = none)
  (hOther : ∀ w, w ≠ t → next' w = next w ∨ (next w = some c ∧ next' w = some t))
include hc ht hLeft hOther

omit [DecidableEq T] in
theorem handOver_giver : c ≠ t ∧ next' c = none := by
  have hct : c ≠ t := by
    rintro rfl
    exact absurd (hc.symm.trans ht) (by simp)
  refine ⟨hct, ?_⟩
  obtain hSame | ⟨hSelf, _⟩ := hOther c hct
  · exact hSame.trans hc
  · exact absurd (hc.symm.trans hSelf) (by simp)

omit [DecidableEq T] hc in
theorem handOver_next_iff (hzc : z ≠ c) (hzt : z ≠ t) (w : T) :
    next' w = some z ↔ next w = some z := by
  by_cases hw : w = t
  · rw [hw, hLeft, ht]
    simp [Ne.symm hzc]
  · obtain hSame | ⟨hOld, hNew⟩ := hOther w hw
    · rw [hSame]
    · rw [hOld, hNew]
      simp [Ne.symm hzc, Ne.symm hzt]

theorem exact_handOver_sides (hGiver : IsLeast (claims base eff next' c) v)
    (hTaker : IsLeast (claims base eff next' t) u) (hz : z = c ∨ z = t) :
    Exact base (Function.update (Function.update eff c v) t u) next' z := by
  obtain ⟨hct, hFree⟩ := handOver_giver hc ht hLeft hOther
  have hEff : ∀ w, next' w = some z →
      Function.update (Function.update eff c v) t u w = eff w := by
    intro w hw
    have hwc : w ≠ c := by
      rintro rfl
      exact absurd (hFree.symm.trans hw) (by simp)
    have hwt : w ≠ t := by
      rintro rfl
      exact absurd (hLeft.symm.trans hw) (by simp)
    rw [Function.update_of_ne hwt, Function.update_of_ne hwc]
  rw [Exact, claims_congr (fun _ => Iff.rfl) hEff]
  obtain rfl | rfl := hz
  · rw [Function.update_of_ne hct, Function.update_self]
    exact hGiver
  · rw [Function.update_self]
    exact hTaker

omit hLeft hOther in
theorem handOver_eff (w : T) (hzc : z ≠ c) (hw : next w = some z) :
    Function.update (Function.update eff c v) t u w = eff w := by
  have hwc : w ≠ c := by
    rintro rfl
    exact absurd (hc.symm.trans hw) (by simp)
  have hwt : w ≠ t := by
    rintro rfl
    exact hzc (Option.some.inj (hw.symm.trans ht))
  rw [Function.update_of_ne hwt, Function.update_of_ne hwc]

theorem Exact.afterHandOver (hGiver : IsLeast (claims base eff next' c) v)
    (hTaker : IsLeast (claims base eff next' t) u)
    (h : z ≠ c → z ≠ t → Exact base eff next z) :
    Exact base (Function.update (Function.update eff c v) t u) next' z := by
  by_cases hSides : z = c ∨ z = t
  · exact exact_handOver_sides hc ht hLeft hOther hGiver hTaker hSides
  · obtain ⟨hzc, hzt⟩ := not_or.mp hSides
    refine (h hzc hzt).congr (handOver_next_iff ht hLeft hOther hzc hzt)
      (fun w => handOver_eff hc ht w hzc) ?_
    rw [Function.update_of_ne hzt, Function.update_of_ne hzc]

theorem Bounded.afterHandOver (hGiver : IsLeast (claims base eff next' c) v)
    (hTaker : IsLeast (claims base eff next' t) u) (h : Bounded base eff next z) :
    Bounded base (Function.update (Function.update eff c v) t u) next' z := by
  by_cases hSides : z = c ∨ z = t
  · exact (exact_handOver_sides hc ht hLeft hOther hGiver hTaker hSides).bounded
  · obtain ⟨hzc, hzt⟩ := not_or.mp hSides
    refine h.congr (handOver_next_iff ht hLeft hOther hzc hzt)
      (fun w => handOver_eff hc ht w hzc) ?_
    rw [Function.update_of_ne hzt, Function.update_of_ne hzc]

end HandOver
end Inheritance
