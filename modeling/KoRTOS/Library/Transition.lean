import Mathlib.Data.List.Basic

/-!
# Runs of a partial labelled transition function

`step s e = some (s', o)` says that event `e` is possible in `s`, leads to `s'`
and produces the output `o`. A run keeps every transition it took, so that
properties of histories are properties of its list of transitions.
-/

namespace Transition

variable {σ ε ο : Type*}

structure Label (σ ε ο : Type*) where
  pre : σ
  event : ε
  out : ο
  post : σ

def Taken (step : σ → ε → Option (σ × ο)) (l : Label σ ε ο) : Prop :=
  step l.pre l.event = some (l.post, l.out)

inductive Run (step : σ → ε → Option (σ × ο)) (start : σ) : List (Label σ ε ο) → σ → Prop
  | nil : Run step start [] start
  | snoc {trace : List (Label σ ε ο)} {l : Label σ ε ο} :
      Run step start trace l.pre → Taken step l → Run step start (trace ++ [l]) l.post

variable {step : σ → ε → Option (σ × ο)} {start s s' : σ} {trace trace' : List (Label σ ε ο)}

/-- What holds at the start and is kept by every transition that meets the side
condition `C` holds at the end of every run whose transitions meet `C`. -/
theorem Run.invariant {I : σ → Prop} {C : Label σ ε ο → Prop} (h : Run step start trace s)
    (hStart : I start) (hStep : ∀ l, Taken step l → C l → I l.pre → I l.post)
    (hC : ∀ l ∈ trace, C l) : I s := by
  induction h with
  | nil => exact hStart
  | snoc _ hTaken ih =>
    have hPre := ih fun l hl => hC l (List.mem_append_left _ hl)
    exact hStep _ hTaken (hC _ (by simp)) hPre

/-- The same rule for a relation between the state and the history of the run, under a
condition on each transition and what came before it. -/
theorem Run.guardedInvariant {I : List (Label σ ε ο) → σ → Prop}
    {C : List (Label σ ε ο) → Label σ ε ο → Prop} (h : Run step start trace s)
    (hStart : I [] start)
    (hStep : ∀ trace l, Taken step l → C trace l → I trace l.pre → I (trace ++ [l]) l.post)
    (hC : ∀ before l after, trace = before ++ l :: after → C before l) : I trace s := by
  induction h with
  | nil => exact hStart
  | snoc _ hTaken ih =>
    have hPre := ih fun before l after hEq =>
      hC before l (after ++ [_]) (by rw [hEq, List.append_assoc, List.cons_append])
    exact hStep _ _ hTaken (hC _ _ [] rfl) hPre

theorem Run.historyInvariant {I : List (Label σ ε ο) → σ → Prop} {C : Label σ ε ο → Prop}
    (h : Run step start trace s) (hStart : I [] start)
    (hStep : ∀ trace l, Taken step l → C l → I trace l.pre → I (trace ++ [l]) l.post)
    (hC : ∀ l ∈ trace, C l) : I trace s :=
  h.guardedInvariant hStart (fun trace l hTaken (hl : C l) => hStep trace l hTaken hl)
    fun _ l _ hEq => hC l (by simp [hEq])

theorem Run.append (h : Run step start trace s) (h' : Run step s trace' s') :
    Run step start (trace ++ trace') s' := by
  induction h' with
  | nil => simpa using h
  | snoc _ hTaken ih =>
    rw [← List.append_assoc]
    exact .snoc ih hTaken

theorem Run.prefix {before after : List (Label σ ε ο)} {l : Label σ ε ο}
    (h : Run step start (before ++ l :: after) s) : Taken step l ∧ Run step start before l.pre := by
  generalize hTrace : before ++ l :: after = trace at h
  induction h generalizing after with
  | nil => simp at hTrace
  | @snoc trace last hRun hTaken ih =>
    rcases List.eq_nil_or_concat after with rfl | ⟨init, x, rfl⟩
    · obtain ⟨rfl, hLast⟩ := List.append_inj' hTrace rfl
      obtain rfl := List.head_eq_of_cons_eq hLast
      exact ⟨hTaken, hRun⟩
    · rw [List.concat_eq_append, ← List.cons_append, ← List.append_assoc] at hTrace
      exact ih (List.append_inj' hTrace rfl).1

theorem Run.split (h : Run step start trace s) {l : Label σ ε ο} (hl : l ∈ trace) :
    Taken step l ∧ ∃ before after, trace = before ++ l :: after ∧ Run step start before l.pre := by
  induction h with
  | nil => simp at hl
  | @snoc trace last hRun hTaken ih =>
    rcases List.mem_append.mp hl with hl | hl
    · obtain ⟨hTaken', before, after, hTrace, hBefore⟩ := ih hl
      exact ⟨hTaken', before, after ++ [last], by simp [hTrace], hBefore⟩
    · obtain rfl := List.mem_singleton.mp hl
      exact ⟨hTaken, trace, [], rfl, hRun⟩

theorem forall_split_snoc {P : List (Label σ ε ο) → Label σ ε ο → Prop} {l : Label σ ε ο} :
    (∀ before x after, trace ++ [l] = before ++ x :: after → P before x) ↔
      (∀ before x after, trace = before ++ x :: after → P before x) ∧ P trace l := by
  constructor
  · intro h
    refine ⟨fun before x after hEq => h before x (after ++ [l]) ?_, h trace l [] rfl⟩
    rw [hEq, List.append_assoc, List.cons_append]
  · rintro ⟨hBefore, hLast⟩ before x after hEq
    obtain rfl | ⟨init, last, rfl⟩ := List.eq_nil_or_concat after
    · obtain ⟨rfl, hSame⟩ := List.append_inj' hEq rfl
      obtain rfl := List.head_eq_of_cons_eq hSame
      exact hLast
    · rw [List.concat_eq_append, ← List.cons_append, ← List.append_assoc] at hEq
      exact hBefore before x init (List.append_inj' hEq rfl).1

/-- How many transitions there were up to and with the latest that is marked. -/
def latest (mark : Label σ ε ο → Bool) (trace : List (Label σ ε ο)) : Nat :=
  match trace.reverse.findIdx? mark with
  | some n => trace.length - n
  | none => 0

section Latest

variable {mark : Label σ ε ο → Bool} {l : Label σ ε ο}

theorem latest_snoc :
    latest mark (trace ++ [l]) = if mark l then trace.length + 1 else latest mark trace := by
  unfold latest
  rw [List.reverse_append, List.reverse_singleton, List.singleton_append, List.findIdx?_cons,
    List.length_append, List.length_singleton]
  cases mark l with
  | true => rfl
  | false =>
    cases trace.reverse.findIdx? mark with
    | none => rfl
    | some n => exact Nat.add_sub_add_right _ _ _

theorem latest_le : latest mark trace ≤ trace.length := by
  unfold latest
  split
  · exact Nat.sub_le _ _
  · exact Nat.zero_le _

variable {ι : Type*} (marks : ι → Label σ ε ο → Bool) {i : ι} {ids : List ι}

theorem pairwise_latest_snoc (hSame : ∀ i ∈ ids, marks i l = false)
    (h : ids.Pairwise fun i j => latest (marks i) trace < latest (marks j) trace) :
    ids.Pairwise fun i j =>
      latest (marks i) (trace ++ [l]) < latest (marks j) (trace ++ [l]) := by
  refine h.imp_of_mem fun {i j} hi hj hLt => ?_
  rw [latest_snoc, latest_snoc, hSame i hi, hSame j hj]
  exact hLt

/-- A member that is marked as it comes to the end is later than all others. -/
theorem pairwise_latest_append (hSame : ∀ j ∈ ids, marks j l = false) (hNew : marks i l = true)
    (h : ids.Pairwise fun i j => latest (marks i) trace < latest (marks j) trace) :
    (ids ++ [i]).Pairwise fun i j =>
      latest (marks i) (trace ++ [l]) < latest (marks j) (trace ++ [l]) := by
  refine List.pairwise_append.mpr
    ⟨pairwise_latest_snoc marks hSame h, List.pairwise_singleton _ _, fun j hj u hu => ?_⟩
  obtain rfl := List.mem_singleton.mp hu
  rw [latest_snoc, latest_snoc, hSame j hj, hNew]
  exact Nat.lt_succ_of_le latest_le

end Latest

def execute (step : σ → ε → Option (σ × ο)) : σ → List ε → Option (List (Label σ ε ο) × σ)
  | s, [] => some ([], s)
  | s, e :: events => (step s e).bind fun next =>
    (execute step next.1 events).map fun rest => (⟨s, e, next.2, next.1⟩ :: rest.1, rest.2)

theorem run_of_execute {events : List ε} (h : execute step start events = some (trace, s)) :
    Run step start trace s := by
  induction events generalizing start trace with
  | nil =>
    cases h
    exact .nil
  | cons e events ih =>
    obtain ⟨⟨next, o⟩, hStep, h⟩ := Option.bind_eq_some_iff.mp h
    obtain ⟨⟨rest, last⟩, hRest, h⟩ := Option.map_eq_some_iff.mp h
    cases h
    have hFirst : Run step start ([] ++ [⟨start, e, o, next⟩]) next := .snoc .nil hStep
    exact hFirst.append (ih hRest)

end Transition
