import KoRTOS.Library.Rounds
import Mathlib.Logic.Relation

/-!
# Accesses to a device

What a program does with a device is a tree: an access, and for each answer the rest.
Between two accesses the device changes by itself, and a loop that polls a register is
left only if such a change lets it. `Achieves` says of a program and the state of the
device, for every order of changes and accesses, that each access is one that may be made
then, and that the program ends as it should if changes and accesses go on.
-/

namespace Accesses

open Rounds

/-- `await i ready next` makes the access again and again until the answer is `ready`. -/
inductive Prog (ι ρ α : Type) where
  | pure (a : α)
  | access (i : ι) (next : ρ → Prog ι ρ α)
  | await (i : ι) (ready : ρ → Bool) (next : Prog ι ρ α)

variable {ι ρ ω ε δ α β : Type}

namespace Prog

def bind : Prog ι ρ α → (α → Prog ι ρ β) → Prog ι ρ β
  | .pure a, f => f a
  | .access i next, f => .access i fun r => (next r).bind f
  | .await i ready next, f => .await i ready (next.bind f)

instance : Monad (Prog ι ρ) where
  pure := .pure
  bind := bind

def next? : Prog ι ρ α → Option ι
  | .pure _ => none
  | .access i _ => some i
  | .await i _ _ => some i

/-- What comes of the program if each access is always answered alike. -/
def eval (answer : ι → ρ) : Prog ι ρ α → α
  | .pure a => a
  | .access i next => (next (answer i)).eval answer
  | .await _ _ next => next.eval answer

def Only (kind : ι → Prop) : Prog ι ρ α → Prop
  | .pure _ => True
  | .access i next => kind i ∧ ∀ r, (next r).Only kind
  | .await i _ next => kind i ∧ next.Only kind

theorem Only.bind {kind : ι → Prop} {p : Prog ι ρ α} {f : α → Prog ι ρ β} (h : p.Only kind)
    (hNext : ∀ a, (f a).Only kind) : (p >>= f).Only kind := by
  change (p.bind f).Only kind
  induction p with
  | pure a => exact hNext a
  | access i next ih => exact ⟨h.1, fun r => ih r (h.2 r)⟩
  | await i ready next ih => exact ⟨h.1, ih h.2⟩

@[simp] theorem pure_bind (a : α) (f : α → Prog ι ρ β) : (Pure.pure a : Prog ι ρ α) >>= f = f a :=
  rfl

@[simp] theorem access_bind (i : ι) (next : ρ → Prog ι ρ α) (f : α → Prog ι ρ β) :
    Prog.access i next >>= f = .access i fun r => next r >>= f := rfl

@[simp] theorem await_bind (i : ι) (ready : ρ → Bool) (next : Prog ι ρ α) (f : α → Prog ι ρ β) :
    Prog.await i ready next >>= f = .await i ready (next >>= f) := rfl

@[simp] theorem eval_pure {answer : ι → ρ} (a : α) :
    (Pure.pure a : Prog ι ρ α).eval answer = a := rfl

@[simp] theorem eval_bind {answer : ι → ρ} (p : Prog ι ρ α) (f : α → Prog ι ρ β) :
    (p >>= f).eval answer = (f (p.eval answer)).eval answer := by
  change (p.bind f).eval answer = _
  induction p with
  | pure a => rfl
  | access i next ih => exact ih _
  | await i ready next ih => exact ih

@[simp] theorem eval_ite {answer : ι → ρ} {c : Prop} [Decidable c] (p q : Prog ι ρ α) :
    (if c then p else q).eval answer = if c then p.eval answer else q.eval answer :=
  apply_ite (eval answer) c p q

end Prog

/-- How a device answers an access, and what can happen to it between two accesses. The answer
depends on the state and on what the model leaves open. -/
structure Device (ι ρ ω ε δ : Type) where
  respond : ι → ω → δ → ρ × δ
  occur : ε → δ → δ

/-- What an input is to the program that is running. -/
inductive Role (ω ε : Type) where
  | occur (e : ε)
  | access (w : ω)
  | other

/-- Changes of the device and accesses go on for ever. -/
structure Goes {τ : Type} (role : τ → Role ω ε) (input : Nat → τ) : Prop where
  occur : ∀ e, Often (fun t => role t = .occur e) input
  access : Often (fun t => ∃ w, role t = .access w) input

namespace Device

variable (dev : Device ι ρ ω ε δ)

def Evolves : δ → δ → Prop := Relation.ReflTransGen fun d d' => ∃ e, d' = dev.occur e d

/-- What can happen while a program polls. -/
def Waits (i : ι) (ready : ρ → Bool) : δ → δ → Prop :=
  Relation.ReflTransGen fun d d' =>
    (∃ e, d' = dev.occur e d) ∨ ∃ w, ready (dev.respond i w d).1 = false ∧
      d' = (dev.respond i w d).2

/-- What no change of the device ends. -/
def Stable (A : δ → Prop) : Prop := ∀ e d, A d → A (dev.occur e d)

/-- One access of a program. -/
def advance (w : ω) : Prog ι ρ α × δ → Prog ι ρ α × δ
  | (.pure a, d) => (.pure a, d)
  | (.access i next, d) => (next (dev.respond i w d).1, (dev.respond i w d).2)
  | (.await i ready next, d) =>
    (if ready (dev.respond i w d).1 then next else .await i ready next, (dev.respond i w d).2)

theorem advance_snd (p : Prog ι ρ α) (w : ω) (d : δ) :
    (dev.advance w (p, d)).2 = d ∨
      ∃ i, p.next? = some i ∧ (dev.advance w (p, d)).2 = (dev.respond i w d).2 := by
  cases p with
  | pure a => exact .inl rfl
  | access i next => exact .inr ⟨i, rfl, rfl⟩
  | await i ready next => exact .inr ⟨i, rfl, rfl⟩

/-- Every access that the program makes is `allowed` then, and in the end `Q` holds. A loop that
polls waits for some change of the device, after which every answer lets the program go on. -/
def Achieves (allowed : ι → δ → Prop) : Prog ι ρ α → (α → δ → Prop) → δ → Prop
  | .pure a, Q, d => ∀ d', dev.Evolves d d' → Q a d'
  | .access i next, Q, d => ∀ d', dev.Evolves d d' → allowed i d' ∧
      ∀ w, Achieves allowed (next (dev.respond i w d').1) Q (dev.respond i w d').2
  | .await i ready next, Q, d =>
    (∀ d', dev.Waits i ready d d' → allowed i d' ∧
      ∀ w, ready (dev.respond i w d').1 = true →
        Achieves allowed next Q (dev.respond i w d').2) ∧
    ∃ e, ∀ d', dev.Waits i ready d d' → ∀ d'', dev.Waits i ready (dev.occur e d') d'' →
      ∀ w, ready (dev.respond i w d'').1 = true

variable {dev} {allowed : ι → δ → Prop} {A B : δ → Prop} {Q Q' : α → δ → Prop} {d d' : δ}

theorem advance_ready {i : ι} {ready : ρ → Bool} {next : Prog ι ρ α} {w : ω}
    (h : ready (dev.respond i w d).1 = true) :
    dev.advance w (.await i ready next, d) = (next, (dev.respond i w d).2) := by
  rw [advance, if_pos h]

theorem advance_again {i : ι} {ready : ρ → Bool} {next : Prog ι ρ α} {w : ω}
    (h : ready (dev.respond i w d).1 = false) :
    dev.advance w (.await i ready next, d) = (.await i ready next, (dev.respond i w d).2) := by
  rw [advance, if_neg (Bool.eq_false_iff.mp h)]

theorem Stable.evolves (h : dev.Stable A) (hd : A d) (hEvolves : dev.Evolves d d') : A d' := by
  induction hEvolves with
  | refl => exact hd
  | tail _ hLast ih =>
    obtain ⟨e, rfl⟩ := hLast
    exact h e _ ih

theorem Waits.invariant {i : ι} {ready : ρ → Bool} (hStable : dev.Stable A)
    (hPoll : ∀ d w, A d → ready (dev.respond i w d).1 = false → A (dev.respond i w d).2)
    (hd : A d) (h : dev.Waits i ready d d') : A d' := by
  induction h with
  | refl => exact hd
  | tail _ hLast ih =>
    obtain ⟨e, rfl⟩ | ⟨w, hReady, rfl⟩ := hLast
    · exact hStable e _ ih
    · exact hPoll _ w ih hReady

theorem advance_only {kind : ι → Prop} {p : Prog ι ρ α} {w : ω} (h : p.Only kind) (hd : A d)
    (hAccess : ∀ i, kind i → A (dev.respond i w d).2) :
    A (dev.advance w (p, d)).2 ∧ (dev.advance w (p, d)).1.Only kind := by
  cases p with
  | pure a => exact ⟨hd, h⟩
  | access i next => exact ⟨hAccess i h.1, h.2 _⟩
  | await i ready next =>
    refine ⟨hAccess i h.1, ?_⟩
    rw [advance]
    split
    · exact h.2
    · exact h

namespace Achieves

variable {p : Prog ι ρ α}

theorem occur (e : ε) (h : dev.Achieves allowed p Q d) :
    dev.Achieves allowed p Q (dev.occur e d) := by
  cases p with
  | pure a => exact fun d' hd' => h d' (.head ⟨e, rfl⟩ hd')
  | access i next => exact fun d' hd' => h d' (.head ⟨e, rfl⟩ hd')
  | await i ready next =>
    obtain ⟨hPoll, seen, hSeen⟩ := h
    refine ⟨fun d' hd' => hPoll d' (.head (.inl ⟨e, rfl⟩) hd'), seen, ?_⟩
    intro d' hd'
    exact hSeen d' (.head (.inl ⟨e, rfl⟩) hd')

theorem poll {i : ι} {ready : ρ → Bool} {next : Prog ι ρ α} {w : ω}
    (h : dev.Achieves allowed (.await i ready next) Q d)
    (hReady : ready (dev.respond i w d).1 = false) :
    dev.Achieves allowed (.await i ready next) Q (dev.respond i w d).2 := by
  obtain ⟨hPoll, seen, hSeen⟩ := h
  refine ⟨fun d' hd' => hPoll d' (.head (.inr ⟨w, hReady, rfl⟩) hd'), seen, ?_⟩
  intro d' hd'
  exact hSeen d' (.head (.inr ⟨w, hReady, rfl⟩) hd')

theorem advance (w : ω) (h : dev.Achieves allowed p Q d) :
    dev.Achieves allowed (dev.advance w (p, d)).1 Q (dev.advance w (p, d)).2 := by
  cases p with
  | pure a => exact h
  | access i next => exact (h d .refl).2 w
  | await i ready next =>
    cases hReady : ready (dev.respond i w d).1 with
    | true =>
      rw [advance_ready hReady]
      exact (h.1 d .refl).2 w hReady
    | false =>
      rw [advance_again hReady]
      exact h.poll hReady

theorem allows {i : ι} (h : dev.Achieves allowed p Q d) (hNext : p.next? = some i) :
    allowed i d := by
  cases p with
  | pure a => cases hNext
  | access j next =>
    obtain rfl := Option.some.inj hNext
    exact (h d .refl).1
  | await j ready next =>
    obtain rfl := Option.some.inj hNext
    exact (h.1 d .refl).1

theorem mono (h : dev.Achieves allowed p Q d) (hQ : ∀ a d, Q a d → Q' a d) :
    dev.Achieves allowed p Q' d := by
  induction p generalizing d with
  | pure a => exact fun d' hd' => hQ a d' (h d' hd')
  | access i next ih =>
    intro d' hd'
    obtain ⟨hAllowed, hNext⟩ := h d' hd'
    exact ⟨hAllowed, fun w => ih _ (hNext w)⟩
  | await i ready next ih =>
    obtain ⟨hPoll, hSeen⟩ := h
    refine ⟨fun d' hd' => ?_, hSeen⟩
    obtain ⟨hAllowed, hNext⟩ := hPoll d' hd'
    exact ⟨hAllowed, fun w hReady => ih (hNext w hReady)⟩

theorem holds (h : dev.Achieves allowed p Q d) (hAllowed : ∀ i d, allowed i d → A d)
    (hQ : ∀ a d, Q a d → A d) : A d := by
  cases p with
  | pure a => exact hQ a d (h d .refl)
  | access i next => exact hAllowed i d (h d .refl).1
  | await i ready next => exact hAllowed i d (h.1 d .refl).1

theorem frame {kind : ι → Prop} (hStable : dev.Stable A)
    (hAccess : ∀ i w d, kind i → allowed i d → A d → A (dev.respond i w d).2)
    (hOnly : p.Only kind) (h : dev.Achieves allowed p Q d) (hd : A d) :
    dev.Achieves allowed p (fun a d => Q a d ∧ A d) d := by
  induction p generalizing d with
  | pure a => exact fun d' hd' => ⟨h d' hd', hStable.evolves hd hd'⟩
  | access i next ih =>
    intro d' hd'
    obtain ⟨hAllowed, hNext⟩ := h d' hd'
    refine ⟨hAllowed, fun w => ih _ (hOnly.2 _) (hNext w) ?_⟩
    exact hAccess i w d' hOnly.1 hAllowed (hStable.evolves hd hd')
  | await i ready next ih =>
    obtain ⟨hPoll, hSeen⟩ := h
    refine ⟨fun d' hd' => ?_, hSeen⟩
    obtain ⟨hAllowed, hNext⟩ := hPoll d' hd'
    have hNow : A d' := by
      clear hSeen hAllowed hNext
      induction hd' with
      | refl => exact hd
      | tail hBefore hLast ihWait =>
        obtain ⟨e, rfl⟩ | ⟨w, _, rfl⟩ := hLast
        · exact hStable e _ ihWait
        · exact hAccess i w _ hOnly.1 (hPoll _ hBefore).1 ihWait
    exact ⟨hAllowed, fun w hReady => ih hOnly.2 (hNext w hReady)
      (hAccess i w d' hOnly.1 hAllowed hNow)⟩

theorem bind {f : α → Prog ι ρ β} {R : β → δ → Prop}
    (h : dev.Achieves allowed p (fun a => dev.Achieves allowed (f a) R) d) :
    dev.Achieves allowed (p.bind f) R d := by
  induction p generalizing d with
  | pure a => exact h d .refl
  | access i next ih =>
    intro d' hd'
    obtain ⟨hAllowed, hNext⟩ := h d' hd'
    exact ⟨hAllowed, fun w => ih _ (hNext w)⟩
  | await i ready next ih =>
    obtain ⟨hPoll, hSeen⟩ := h
    refine ⟨fun d' hd' => ?_, hSeen⟩
    obtain ⟨hAllowed, hNext⟩ := hPoll d' hd'
    exact ⟨hAllowed, fun w hReady => ih (hNext w hReady)⟩

end Achieves

/-- The program achieves `Q` from every state in which `A` holds. -/
def Triple (dev : Device ι ρ ω ε δ) (allowed : ι → δ → Prop) (A : δ → Prop) (p : Prog ι ρ α)
    (Q : α → δ → Prop) : Prop :=
  ∀ d, A d → dev.Achieves allowed p Q d

namespace Triple

variable {p : Prog ι ρ α}

theorem pure {a : α} (hStable : dev.Stable (Q a)) (h : ∀ d, A d → Q a d) :
    dev.Triple allowed A (.pure a) Q :=
  fun d hd _ hEvolves => hStable.evolves (h d hd) hEvolves

theorem access {i : ι} {next : ρ → Prog ι ρ α} {C : ρ → δ → Prop} (hStable : dev.Stable A)
    (hAllowed : ∀ d, A d → allowed i d)
    (hAnswer : ∀ d w, A d → C (dev.respond i w d).1 (dev.respond i w d).2)
    (hNext : ∀ r, dev.Triple allowed (C r) (next r) Q) :
    dev.Triple allowed A (.access i next) Q := by
  intro d hd d' hEvolves
  have hd' := hStable.evolves hd hEvolves
  exact ⟨hAllowed d' hd', fun w => hNext _ _ (hAnswer d' w hd')⟩

theorem await {i : ι} {ready : ρ → Bool} {next : Prog ι ρ α} {there : δ → Prop} (e : ε)
    (hStable : dev.Stable A) (hAllowed : ∀ d, A d → allowed i d)
    (hAgain : ∀ d w, A d → ready (dev.respond i w d).1 = false → A (dev.respond i w d).2)
    (hOccur : ∀ d, A d → there (dev.occur e d)) (hThere : dev.Stable fun d => A d ∧ there d)
    (hReady : ∀ d w, A d → there d → ready (dev.respond i w d).1 = true)
    (hAnswer : ∀ d w, A d → ready (dev.respond i w d).1 = true → B (dev.respond i w d).2)
    (hNext : dev.Triple allowed B next Q) :
    dev.Triple allowed A (.await i ready next) Q := by
  intro d hd
  have hWaits : ∀ d', dev.Waits i ready d d' → A d' := fun d' h => h.invariant hStable hAgain hd
  refine ⟨fun d' hd' => ⟨hAllowed d' (hWaits d' hd'), fun w hw => ?_⟩, e, ?_⟩
  · exact hNext _ (hAnswer d' w (hWaits d' hd') hw)
  · intro d' hd' d'' hd'' w
    have hPast : A d'' ∧ there d'' := by
      refine Waits.invariant (A := fun d => A d ∧ there d) hThere ?_
        ⟨hStable e d' (hWaits d' hd'), hOccur d' (hWaits d' hd')⟩ hd''
      intro d w hd hNot
      exact absurd (hReady d w hd.1 hd.2) (Bool.eq_false_iff.mp hNot)
    exact hReady d'' w hPast.1 hPast.2

theorem bind {f : α → Prog ι ρ β} {R : β → δ → Prop} (h : dev.Triple allowed A p Q)
    (hNext : ∀ a, dev.Triple allowed (Q a) (f a) R) : dev.Triple allowed A (p >>= f) R :=
  fun d hd => ((h d hd).mono fun a d' => hNext a d').bind

theorem consequence (h : dev.Triple allowed A p Q) (hA : ∀ d, B d → A d)
    (hQ : ∀ a d, Q a d → Q' a d) : dev.Triple allowed B p Q' :=
  fun d hd => (h d (hA d hd)).mono hQ

theorem assuming {φ : Prop} (hA : ∀ d, A d → φ) (h : φ → dev.Triple allowed A p Q) :
    dev.Triple allowed A p Q :=
  fun d hd => h (hA d hd) d hd

theorem frame (kind : ι → Prop) (h : dev.Triple allowed A p Q) (hStable : dev.Stable B)
    (hAccess : ∀ i w d, kind i → allowed i d → B d → B (dev.respond i w d).2)
    (hOnly : p.Only kind) :
    dev.Triple allowed (fun d => A d ∧ B d) p fun a d => Q a d ∧ B d :=
  fun d hd => (h d hd.1).frame hStable hAccess hOnly hd.2

end Triple

/-- Where the system shows `p` and `d`, its inputs are changes of `d`, accesses of `p`, or do
nothing to either. -/
structure Hosts {τ σ : Type} (dev : Device ι ρ ω ε δ) (role : τ → Role ω ε) (step : τ → σ → σ)
    (shows : Prog ι ρ α → δ → σ → Prop) : Prop where
  occur : ∀ {t e p d s}, role t = .occur e → p.next?.isSome → shows p d s →
    shows p (dev.occur e d) (step t s)
  access : ∀ {t w p d s}, role t = .access w → p.next?.isSome → shows p d s →
    shows (dev.advance w (p, d)).1 (dev.advance w (p, d)).2 (step t s)
  other : ∀ {t p d s}, role t = .other → p.next?.isSome → shows p d s → shows p d (step t s)

section Hosting

variable {τ σ : Type} {role : τ → Role ω ε} {step : τ → σ → σ}
  {shows : Prog ι ρ α → δ → σ → Prop} {input : Nat → τ} {s : σ} {n : Nat} {p : Prog ι ρ α}

/-- From round `n` on, the program is ended some time, and `Q` holds then. -/
def Ends (step : τ → σ → σ) (shows : Prog ι ρ α → δ → σ → Prop) (Q : α → δ → Prop)
    (input : Nat → τ) (s : σ) (n : Nat) : Prop :=
  ∃ m, n ≤ m ∧ ∃ a d, shows (.pure a) d (after step input s m) ∧ Q a d

theorem Ends.of_succ (h : Ends step shows Q input s (n + 1)) : Ends step shows Q input s n := by
  obtain ⟨m, hm, hEnd⟩ := h
  exact ⟨m, Nat.le_of_succ_le hm, hEnd⟩

namespace Hosts

variable (h : Hosts dev role step shows)

include h

theorem ends_access {i : ι} {next : ρ → Prog ι ρ α}
    (hNext : ∀ r {n d}, shows (next r) d (after step input s n) →
      dev.Achieves allowed (next r) Q d → Ends step shows Q input s n)
    (k : Nat) {w : ω} (hRole : role (input (n + k)) = .access w)
    (hShows : shows (.access i next) d (after step input s n))
    (hAchieves : dev.Achieves allowed (.access i next) Q d) : Ends step shows Q input s n := by
  induction k generalizing n d with
  | zero => exact (hNext _ (n := n + 1) (h.access hRole rfl hShows) (hAchieves.advance w)).of_succ
  | succ k ih =>
    rw [← Nat.add_assoc, Nat.add_right_comm] at hRole
    cases hNow : role (input n) with
    | occur e => exact (ih hRole (h.occur hNow rfl hShows) (hAchieves.occur e)).of_succ
    | access w =>
      exact (hNext _ (n := n + 1) (h.access hNow rfl hShows) (hAchieves.advance w)).of_succ
    | other => exact (ih hRole (h.other hNow rfl hShows) hAchieves).of_succ

theorem ends_ready {i : ι} {ready : ρ → Bool} {next : Prog ι ρ α}
    (hNext : ∀ {n d}, shows next d (after step input s n) → dev.Achieves allowed next Q d →
      Ends step shows Q input s n)
    (hReady : ∀ d', dev.Waits i ready d d' → ∀ w, ready (dev.respond i w d').1 = true)
    (k : Nat) {w : ω} (hRole : role (input (n + k)) = .access w)
    (hShows : shows (.await i ready next) d (after step input s n))
    (hAchieves : dev.Achieves allowed (.await i ready next) Q d) :
    Ends step shows Q input s n := by
  have hMade : ∀ {n d w}, role (input n) = .access w → ready (dev.respond i w d).1 = true →
      shows (.await i ready next) d (after step input s n) →
      dev.Achieves allowed (.await i ready next) Q d → Ends step shows Q input s n := by
    intro n d w hNow hTrue hShows hAchieves
    have hThen := h.access hNow rfl hShows
    rw [advance_ready hTrue] at hThen
    exact (hNext (n := n + 1) hThen ((hAchieves.1 d .refl).2 w hTrue)).of_succ
  induction k generalizing n d with
  | zero => exact hMade hRole (hReady d .refl w) hShows hAchieves
  | succ k ih =>
    rw [← Nat.add_assoc, Nat.add_right_comm] at hRole
    cases hNow : role (input n) with
    | occur e =>
      refine (ih ?_ hRole (h.occur hNow rfl hShows) (hAchieves.occur e)).of_succ
      exact fun d' hd' => hReady d' (.head (.inl ⟨e, rfl⟩) hd')
    | access w => exact hMade hNow (hReady d .refl w) hShows hAchieves
    | other => exact (ih hReady hRole (h.other hNow rfl hShows) hAchieves).of_succ

/-- The rounds up to the change that a loop waits for. -/
theorem ends_await {i : ι} {ready : ρ → Bool} {next : Prog ι ρ α} {e : ε}
    (hNext : ∀ {n d}, shows next d (after step input s n) → dev.Achieves allowed next Q d →
      Ends step shows Q input s n)
    (hSeen : ∀ d', dev.Waits i ready d d' → ∀ d'', dev.Waits i ready (dev.occur e d') d'' →
      ∀ w, ready (dev.respond i w d'').1 = true)
    (hOften : Often (fun t => ∃ w, role t = .access w) input)
    (k : Nat) (hRole : role (input (n + k)) = .occur e)
    (hShows : shows (.await i ready next) d (after step input s n))
    (hAchieves : dev.Achieves allowed (.await i ready next) Q d) :
    Ends step shows Q input s n := by
  induction k generalizing n d with
  | zero =>
    obtain ⟨m, hm, w, hAccess⟩ := hOften (n + 1)
    obtain ⟨k, rfl⟩ := Nat.exists_eq_add_of_le hm
    exact (h.ends_ready hNext (hSeen d .refl) k hAccess (h.occur hRole rfl hShows)
      (hAchieves.occur e)).of_succ
  | succ k ih =>
    rw [← Nat.add_assoc, Nat.add_right_comm] at hRole
    cases hNow : role (input n) with
    | occur e' =>
      refine (ih ?_ hRole (h.occur hNow rfl hShows) (hAchieves.occur e')).of_succ
      exact fun d' hd' => hSeen d' (.head (.inl ⟨e', rfl⟩) hd')
    | access w =>
      have hThen := h.access hNow rfl hShows
      cases hReady : ready (dev.respond i w d).1 with
      | true =>
        rw [advance_ready hReady] at hThen
        exact (hNext (n := n + 1) hThen ((hAchieves.1 d .refl).2 w hReady)).of_succ
      | false =>
        rw [advance_again hReady] at hThen
        refine (ih ?_ hRole hThen (hAchieves.poll hReady)).of_succ
        exact fun d' hd' => hSeen d' (.head (.inr ⟨w, hReady, rfl⟩) hd')
    | other => exact (ih hSeen hRole (h.other hNow rfl hShows) hAchieves).of_succ

theorem ends (hGoes : Goes role input) (hShows : shows p d (after step input s n))
    (hAchieves : dev.Achieves allowed p Q d) : Ends step shows Q input s n := by
  induction p generalizing n d with
  | pure a => exact ⟨n, Nat.le_refl n, a, d, hShows, hAchieves d .refl⟩
  | access i next ih =>
    obtain ⟨m, hm, w, hAccess⟩ := hGoes.access n
    obtain ⟨k, rfl⟩ := Nat.exists_eq_add_of_le hm
    exact h.ends_access (fun r _ _ => ih r) k hAccess hShows hAchieves
  | await i ready next ih =>
    obtain ⟨e, hSeen⟩ := hAchieves.2
    obtain ⟨m, hm, hEvent⟩ := hGoes.occur e n
    obtain ⟨k, rfl⟩ := Nat.exists_eq_add_of_le hm
    exact h.ends_await ih hSeen hGoes.access k hEvent hShows hAchieves

end Hosts
end Hosting
end Device

namespace Device

variable (dev : Device ι ρ ω ε δ) {allowed : ι → δ → Prop} {A : δ → Prop} {Q : α → δ → Prop}
  {p : Prog ι ρ α} {d : δ} {s : Prog ι ρ α × δ}

def runStep : Role ω ε → Prog ι ρ α × δ → Prog ι ρ α × δ
  | .occur e, (p, d) => (p, dev.occur e d)
  | .access w, s => dev.advance w s
  | .other, s => s

theorem hosts_runStep :
    Hosts dev id dev.runStep (fun (p : Prog ι ρ α) d s => s = (p, d)) where
  occur := by
    rintro t e p d s rfl _ rfl
    rfl
  access := by
    rintro t w p d s rfl _ rfl
    rfl
  other := by
    rintro t p d s rfl _ rfl
    rfl

variable {dev}

theorem Achieves.runStep (h : dev.Achieves allowed s.1 Q s.2) (t : Role ω ε) :
    dev.Achieves allowed (dev.runStep t s).1 Q (dev.runStep t s).2 := by
  cases t with
  | occur e => exact h.occur e
  | access w => exact h.advance w
  | other => exact h

/-- In every run of a program with a triple, every access may be made then, and the program ends as
it should if changes and accesses go on. -/
theorem Triple.run (h : dev.Triple allowed A p Q) (hd : A d) (input : Nat → Role ω ε) :
    (∀ n i, (after dev.runStep input (p, d) n).1.next? = some i →
      allowed i (after dev.runStep input (p, d) n).2) ∧
    (Goes id input → ∃ n a d', after dev.runStep input (p, d) n = (.pure a, d') ∧ Q a d') := by
  have hStart : dev.Achieves allowed p Q d := h d hd
  constructor
  · intro n i hNext
    have hNow : dev.Achieves allowed (after dev.runStep input (p, d) n).1 Q
        (after dev.runStep input (p, d) n).2 :=
      after_invariant (I := fun s : Prog ι ρ α × δ => dev.Achieves allowed s.1 Q s.2) hStart
        (fun t _ hs => hs.runStep t) n
    exact hNow.allows hNext
  · intro hGoes
    obtain ⟨n, -, a, d', hEnd, hQ⟩ := (hosts_runStep dev).ends (n := 0) hGoes rfl hStart
    exact ⟨n, a, d', hEnd, hQ⟩

end Device

end Accesses
