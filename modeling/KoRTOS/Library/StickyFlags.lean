import Mathlib.Logic.Function.Basic
import Mathlib.Data.List.Basic

/-!
# Flags that are acknowledged through what was read

Several flags share a register and stay set until zeros are written to them. A
handler goes through them in some order; it acknowledges one by reading the
register and writing back what it read without this flag. A flag that comes up
between the two is cleared as well and never reported.
-/

namespace StickyFlags

/-- What the handler does next, with the flags it has still to look at. -/
inductive Phase (ι : Type) where
  | idle
  | testing (rest : List ι)
  | reading (i : ι) (rest : List ι)
  | writing (i : ι) (keep : ι → Bool) (rest : List ι)

/-- The flags and the handler, and how often each flag came up, was reported, or came up where
the write that was to follow would clear it. -/
structure Bank (ι : Type) where
  set : ι → Bool
  phase : Phase ι
  raised : ι → Nat
  reported : ι → Nat
  hit : ι → Nat

inductive Event (ι : Type) where
  | raise (i : ι)
  | enter (order : List ι)
  | access

variable {ι : Type}

def Phase.next : List ι → Phase ι
  | [] => .idle
  | i :: rest => .testing (i :: rest)

def count [DecidableEq ι] (i : ι) (f : ι → Nat) : ι → Nat := Function.update f i (f i + 1)

/-- How many accesses the handler makes at most before it is done. -/
def Phase.left : Phase ι → Nat
  | .idle => 0
  | .testing rest => 3 * rest.length
  | .reading _ rest => 3 * rest.length + 2
  | .writing _ _ rest => 3 * rest.length + 1

def Event.isAccess : Event ι → Bool
  | .access => true
  | _ => false

/-- The write that comes next would clear the flag without reporting it. -/
def Phase.dooms [DecidableEq ι] (i : ι) : Phase ι → Bool
  | .writing j keep _ => decide (i ≠ j) && !keep i
  | _ => false

namespace Bank

/-- What was read is still there when it is written back. -/
def Consistent (b : Bank ι) : Prop :=
  match b.phase with
  | .idle | .testing _ => True
  | .reading i _ => b.set i = true
  | .writing i keep _ => b.set i = true ∧ keep i = false ∧ ∀ j, keep j = true → b.set j = true

/-- The flag is set, and the handler is going to look at it or to report it. -/
def Due (i : ι) (b : Bank ι) : Prop :=
  b.set i = true ∧
    match b.phase with
    | .idle => False
    | .testing rest => i ∈ rest
    | .reading j rest => i = j ∨ i ∈ rest
    | .writing j keep rest => i = j ∨ (i ∈ rest ∧ keep i = true)

variable {b : Bank ι} {i j : ι} {rest : List ι} {event : Event ι}

theorem consistent_next {set : ι → Bool} {raised reported hit : ι → Nat} :
    Consistent ⟨set, .next rest, raised, reported, hit⟩ := by
  cases rest <;> trivial

theorem due_next {set : ι → Bool} {raised reported hit : ι → Nat} (hSet : set i = true)
    (hMem : i ∈ rest) : Due i ⟨set, .next rest, raised, reported, hit⟩ := by
  cases rest with
  | nil => cases hMem
  | cons => exact ⟨hSet, hMem⟩

theorem Due.left_pos (h : Due i b) : 0 < b.phase.left := by
  obtain ⟨-, hPhase⟩ := h
  split at hPhase
  · exact hPhase.elim
  · rename_i rest hTest
    rw [hTest]
    have hPos := List.length_pos_of_mem hPhase
    change 0 < 3 * rest.length
    omega
  · rename_i rest hRead
    rw [hRead]
    exact Nat.succ_pos _
  · rename_i rest hWrite
    rw [hWrite]
    exact Nat.succ_pos _

theorem left_next : (Phase.next rest).left = 3 * rest.length := by
  cases rest <;> rfl

variable [DecidableEq ι]

def raise (i : ι) (b : Bank ι) : Bank ι :=
  if b.set i then b
  else
    { b with
      set := Function.update b.set i true
      raised := count i b.raised
      hit := if b.phase.dooms i then count i b.hit else b.hit }

def access (b : Bank ι) : Bank ι :=
  match b.phase with
  | .idle => b
  | .testing [] => { b with phase := .idle }
  | .testing (i :: rest) =>
    { b with phase := if b.set i then .reading i rest else .next rest }
  | .reading i rest =>
    { b with phase := .writing i (fun j => b.set j && decide (j ≠ i)) rest }
  | .writing i keep rest =>
    { b with
      set := fun j => b.set j && keep j
      reported := count i b.reported
      phase := .next rest }

def step (event : Event ι) (b : Bank ι) : Bank ι :=
  match event with
  | .raise i => b.raise i
  | .enter order =>
    match b.phase with
    | .idle => { b with phase := .next order }
    | _ => b
  | .access => b.access

def run (events : List (Event ι)) (b : Bank ι) : Bank ι := events.foldl (fun b e => b.step e) b

/-- Every time a flag came up it was reported, hit, or is waiting to be reported. -/
structure Accounted (b : Bank ι) : Prop where
  consistent : b.Consistent
  total : ∀ i, b.raised i =
    b.reported i + b.hit i + if b.set i && !b.phase.dooms i then 1 else 0

theorem count_apply {f : ι → Nat} : count i f j = if j = i then f i + 1 else f j := by
  rw [count, Function.update_apply]

theorem dooms_next : (Phase.next rest).dooms i = false := by
  cases rest <;> rfl

theorem Consistent.raise (h : b.Consistent) : (b.raise i).Consistent := by
  unfold Bank.raise
  split
  · exact h
  · unfold Consistent at h ⊢
    dsimp only
    split at h
    · trivial
    · trivial
    · rw [Function.update_apply]
      split
      · rfl
      · exact h
    · obtain ⟨hSet, hSelf, hKept⟩ := h
      refine ⟨?_, hSelf, fun j hj => ?_⟩
      · rw [Function.update_apply]
        split
        · rfl
        · exact hSet
      · rw [Function.update_apply]
        split
        · rfl
        · exact hKept j hj

theorem Accounted.raise (h : b.Accounted) : (b.raise i).Accounted := by
  refine ⟨h.consistent.raise, fun j => ?_⟩
  have hTotal := h.total j
  unfold Bank.raise
  split
  · exact hTotal
  · rename_i hClear
    dsimp only
    by_cases hEq : j = i
    · subst hEq
      cases hDooms : b.phase.dooms j
      · simp_all [count_apply]
      · simp_all [count_apply]
        omega
    · have hSet : Function.update b.set i true j = b.set j := Function.update_of_ne hEq _ _
      have hHit : (if b.phase.dooms i then count i b.hit else b.hit) j = b.hit j := by
        split
        · rw [count_apply, if_neg hEq]
        · rfl
      simp only [count_apply, if_neg hEq, hSet, hHit]
      exact hTotal

theorem Accounted.write {keep : ι → Bool} (h : b.Accounted)
    (hPhase : b.phase = .writing i keep rest) :
    Accounted { b with
      set := fun j => b.set j && keep j
      reported := count i b.reported
      phase := .next rest } := by
  have hConsistent := h.consistent
  simp only [Consistent, hPhase] at hConsistent
  obtain ⟨hSet, hSelf, hKept⟩ := hConsistent
  refine ⟨consistent_next, fun j => ?_⟩
  have hTotal := h.total j
  rw [hPhase] at hTotal
  dsimp only
  rw [dooms_next, count_apply]
  by_cases hEq : j = i
  · subst hEq
    simp_all [Phase.dooms]
    omega
  · rw [if_neg hEq, hTotal]
    obtain hKeep | hKeep := Bool.eq_false_or_eq_true (keep j) <;>
      simp [Phase.dooms, hKeep, hEq]

theorem Accounted.access (h : b.Accounted) : b.access.Accounted := by
  have hConsistent := h.consistent
  unfold Bank.access
  split
  · exact h
  · rename_i hPhase
    refine ⟨trivial, fun j => ?_⟩
    have hTotal := h.total j
    rw [hPhase] at hTotal
    exact hTotal
  · rename_i i rest hPhase
    have hTotal := h.total
    rw [hPhase] at hTotal
    split
    · rename_i hSet
      exact ⟨hSet, hTotal⟩
    · refine ⟨consistent_next, fun j => ?_⟩
      dsimp only
      rw [dooms_next]
      exact hTotal j
  · rename_i i rest hPhase
    simp only [Consistent, hPhase] at hConsistent
    refine ⟨⟨hConsistent, by simp, fun j hj => ?_⟩, fun j => ?_⟩
    · exact (Bool.and_eq_true_iff.mp hj).1
    · have hTotal := h.total j
      rw [hPhase] at hTotal
      by_cases hEq : j = i
      · simp_all [Phase.dooms]
      · cases hSet : b.set j <;> simp_all [Phase.dooms]
  · exact h.write ‹_›

theorem Accounted.step (h : b.Accounted) : (b.step event).Accounted := by
  unfold Bank.step
  split
  · exact h.raise
  · split
    · rename_i hPhase
      refine ⟨consistent_next, fun j => ?_⟩
      have hTotal := h.total j
      rw [hPhase] at hTotal
      dsimp only
      rw [dooms_next]
      exact hTotal
    · exact h
  · exact h.access

/-- However the flags come up, each time is accounted for. -/
theorem Accounted.run (h : b.Accounted) (events : List (Event ι)) : (b.run events).Accounted := by
  induction events generalizing b with
  | nil => exact h
  | cons event events ih => exact ih h.step

theorem le_count {f : ι → Nat} : f i ≤ count j f i := by
  rw [count_apply]
  split
  · rename_i hEq
    subst hEq
    exact Nat.le_succ _
  · exact Nat.le_refl _

theorem reported_step : b.reported i ≤ (b.step event).reported i := by
  unfold Bank.step
  split
  · unfold Bank.raise
    split <;> exact Nat.le_refl _
  · split <;> exact Nat.le_refl _
  · unfold Bank.access
    split
    · exact Nat.le_refl _
    · exact Nat.le_refl _
    · exact Nat.le_refl _
    · exact Nat.le_refl _
    · exact le_count

theorem Due.step (event : Event ι) (h : Due i b) :
    Due i (b.step event) ∨ b.reported i < (b.step event).reported i := by
  obtain ⟨hSet, hPhase⟩ := h
  unfold Bank.step
  split
  · rename_i j
    left
    unfold Bank.raise
    split
    · exact ⟨hSet, hPhase⟩
    · refine ⟨?_, hPhase⟩
      change Function.update b.set j true i = true
      rw [Function.update_apply]
      split
      · rfl
      · exact hSet
  · split
    · rename_i hIdle
      rw [hIdle] at hPhase
      exact hPhase.elim
    · exact .inl ⟨hSet, hPhase⟩
  · unfold Bank.access
    split
    · exact .inl ⟨hSet, hPhase⟩
    · rename_i hTest
      rw [hTest] at hPhase
      cases hPhase
    · rename_i j rest hTest
      rw [hTest] at hPhase
      left
      split
      · exact ⟨hSet, List.mem_cons.mp hPhase⟩
      · rename_i hClear
        obtain rfl | hMem := List.mem_cons.mp hPhase
        · exact absurd hSet hClear
        · exact due_next hSet hMem
    · rename_i j rest hRead
      rw [hRead] at hPhase
      left
      refine ⟨hSet, ?_⟩
      by_cases hEq : i = j
      · exact .inl hEq
      · exact .inr ⟨hPhase.resolve_left hEq, by simp [hSet, hEq]⟩
    · rename_i j keep rest hWrite
      rw [hWrite] at hPhase
      obtain rfl | ⟨hMem, hKeep⟩ := hPhase
      · right
        dsimp only
        rw [count_apply, if_pos rfl]
        exact Nat.lt_succ_self _
      · exact .inl (due_next (by simp [hSet, hKeep]) hMem)

theorem reported_run (events : List (Event ι)) : b.reported i ≤ (b.run events).reported i := by
  induction events generalizing b with
  | nil => exact Nat.le_refl _
  | cons event events ih => exact Nat.le_trans reported_step ih

theorem left_access : b.access.phase.left ≤ b.phase.left - 1 := by
  unfold Bank.access
  split <;> rename_i hPhase <;> rw [hPhase]
  · exact Nat.zero_le _
  · exact Nat.zero_le _
  · dsimp only
    split
    · simp only [Phase.left, List.length_cons]
      omega
    · rw [left_next]
      simp only [Phase.left, List.length_cons]
      omega
  · simp only [Phase.left]
    omega
  · rw [left_next]
    simp only [Phase.left]
    omega

theorem Due.left_step (event : Event ι) (h : Due i b) :
    (b.step event).phase.left ≤ b.phase.left - if event.isAccess then 1 else 0 := by
  cases event with
  | raise j =>
    simp only [Bank.step, Bank.raise]
    split <;> exact Nat.le_refl _
  | enter order =>
    have hPos := h.left_pos
    simp only [Bank.step]
    split
    · rename_i hIdle
      rw [hIdle] at hPos
      cases hPos
    · exact Nat.le_refl _
  | access => exact left_access

/-- A flag that is due is reported by the time the handler has made the accesses it had left. -/
theorem Due.run (events : List (Event ι)) (h : Due i b)
    (hLeft : b.phase.left ≤ events.countP Event.isAccess) :
    b.reported i < (b.run events).reported i := by
  induction events generalizing b with
  | nil =>
    have hPos := h.left_pos
    rw [List.countP_nil] at hLeft
    omega
  | cons event events ih =>
    have hStep := h.left_step event
    rw [List.countP_cons] at hLeft
    obtain hDue | hLt := h.step event
    · exact Nat.lt_of_le_of_lt reported_step (ih hDue (by omega))
    · exact Nat.lt_of_lt_of_le hLt (reported_run events)

end Bank
end StickyFlags
