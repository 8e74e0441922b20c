import KoRTOS.Property.NextTask

/-!
# Tasks of equal priority take turns

The scheduler looks at the tasks in cyclic order from the current one, so of two
tasks of equal priority it takes the one that comes first from there. Only a
more urgent task that it dispatches past the other one can make it take the
same task twice in a row.
-/

namespace KoRTOS

/-- Going round the table from `b`, task `c` comes before `a`. -/
def Between (b a c : TaskId) : Prop := if b < a then b < c ∧ c < a else b < c ∨ c < a

instance (b a c : TaskId) : Decidable (Between b a c) := by unfold Between; infer_instance

/-- Task `t` becomes the current task in place of another one. -/
def dispatches (t : TaskId) (l : Label) : Bool :=
  match l.event with
  | .pendSV => l.post.kernel.currentTask == t && l.pre.kernel.currentTask != t
  | _ => false

/-- Two user tasks of equal priority of which neither is blocked. -/
def Contending (k : Kernel) (a b : TaskId) : Prop :=
  candidate k a = true ∧ candidate k b = true ∧
    (k.userTasks a).effectivePriority = (k.userTasks b).effectivePriority

instance (k : Kernel) (a b : TaskId) : Decidable (Contending k a b) :=
  inferInstanceAs (Decidable (_ ∧ _))

/-- Between `a` and `b` in cyclic order, the scheduler goes past `b` to one of the most
urgent tasks, which is more urgent than `a` and `b`. -/
def passesOver (a b : TaskId) (l : Label) : Bool :=
  match l.event with
  | .pendSV =>
    let k := l.pre.kernel
    decide (k.currentTask ≠ b ∧ ¬ Between b a k.currentTask) &&
      (List.range k.taskCount).any fun c =>
        candidate k c && decide (Between b a c) &&
          decide ((k.userTasks c).effectivePriority < (k.userTasks a).effectivePriority) &&
          (List.range k.taskCount).all fun d =>
            !candidate k d ||
              decide ((k.userTasks c).effectivePriority ≤ (k.userTasks d).effectivePriority)
  | _ => false

section Choice

variable {a b c t : TaskId}

theorem not_between_self : ¬ Between b a a := by
  unfold Between TaskId at *
  split <;> omega

theorem Precedes.turn (h : Precedes c a b) (hca : c ≠ a) : c = b ∨ Between b a c := by
  unfold Precedes Between TaskId at *
  split <;> omega

theorem Precedes.not_between (h : Precedes c t b) (hcb : c ≠ b) (hOut : ¬ Between b a c) :
    ¬ Between b a t := by
  intro hIn
  unfold Precedes Between TaskId at *
  split at hOut <;> split at hIn <;> omega

end Choice

section Turns

variable {s s' : Sys} {e : Event} {out : Option Ret} {a b : TaskId}

theorem currentTask_move (hMove : Move s e s' out) (he : e ≠ .pendSV) :
    s'.kernel.currentTask = s.kernel.currentTask := by
  cases hMove with
  | create _ _ _ hCreation => exact (current_creation hCreation).1
  | call _ _ _ hSection => exact hSection.current.1
  | resume _ _ hSection => exact hSection.current.1
  | isrSend _ hSection =>
    split
    · exact (quiet_countDropped _ _).currentTask.trans hSection.current.1
    · exact hSection.current.1
  | isrRecv _ hSection => exact hSection.current.1
  | tick => exact frame_osTick.1
  | pendSV => exact absurd rfl he

/-- Whether `a` comes before `b` from the current task on. -/
def turnOf (a b : TaskId) (k : Kernel) : Nat :=
  if k.currentTask = b ∨ Between b a k.currentTask then 1 else 0

theorem urgent_of_between {cur c : TaskId} (hHas : ¬ (cur = b ∨ Between b a cur)) (hcb : c ≠ b)
    (hBetween : Between b a c)
    (hFirst : s.kernel.eff b ≤ s.kernel.eff c → b = c ∨ Precedes cur c b) :
    s.kernel.eff c < s.kernel.eff b := by
  rw [not_or] at hHas
  by_contra hNot
  obtain hEq | hBefore := hFirst (Nat.le_of_not_lt hNot)
  · exact hcb hEq.symm
  · exact hBefore.not_between hHas.1 hHas.2 hBetween

theorem passesOver_of_between {c : TaskId}
    (hHas : ¬ (s.kernel.currentTask = b ∨ Between b a s.kernel.currentTask))
    (hChosen : candidate s.kernel c = true)
    (hLeast : ∀ d, candidate s.kernel d = true → s.kernel.eff c ≤ s.kernel.eff d)
    (hBetween : Between b a c) (hUrgent : s.kernel.eff c < s.kernel.eff a) :
    passesOver a b ⟨s, .pendSV, out, s'⟩ = true := by
  simp only [passesOver, Bool.and_eq_true, decide_eq_true_eq, List.any_eq_true,
    List.all_eq_true, List.mem_range, Bool.or_eq_true, Bool.not_eq_true']
  refine ⟨not_or.mp hHas, c, (candidate_iff.mp hChosen).2.1, ⟨⟨hChosen, hBetween⟩, hUrgent⟩,
    fun d _ => ?_⟩
  cases hd : candidate s.kernel d with
  | false => exact .inl rfl
  | true => exact .inr (hLeast d hd)

theorem turn_afterSwitch (hSeated : Seated s.kernel) (hCandidates : Candidates s) (hab : a ≠ b)
    (hPre : Contending s.kernel a b)
    (hNever : dispatches b
      ⟨s, .pendSV, none, { s with kernel := pendSVHandler s.kernel }⟩ = false) :
    (if dispatches a ⟨s, .pendSV, none, { s with kernel := pendSVHandler s.kernel }⟩
      then 1 else 0) + turnOf a b (pendSVHandler s.kernel) ≤
    (if passesOver a b ⟨s, .pendSV, none, { s with kernel := pendSVHandler s.kernel }⟩
      then 1 else 0) + turnOf a b s.kernel := by
  obtain ⟨ha, hb, hEqual⟩ := hPre
  have hEqual : s.kernel.eff a = s.kernel.eff b := hEqual
  obtain ⟨hChosen, hLeast, hFirst⟩ := candidate_schedule (k := { s.kernel with pendSV := false })
    hSeated.current_lt hCandidates.running
    (fun d hd => hCandidates.priorities.eff_le d (candidate_iff.mp hd).1) ha
  set c := (osScheduleNextTask { s.kernel with pendSV := false }).currentTask with hc
  set cur := s.kernel.currentTask with hcur
  have hTurn : turnOf a b (pendSVHandler s.kernel) = if c = b ∨ Between b a c then 1 else 0 := rfl
  have hIs : dispatches a ⟨s, .pendSV, none, { s with kernel := pendSVHandler s.kernel }⟩ =
      (c == a && cur != a) := rfl
  have hNotB : ¬ (c = b ∧ cur ≠ b) := by
    rintro ⟨hEq, hne⟩
    have hDispatched : (c == b && cur != b) = false := hNever
    rw [hEq] at hDispatched
    simp [hne] at hDispatched
  have hB : s.kernel.eff b ≤ s.kernel.eff c → b = c ∨ Precedes cur c b := hFirst b hb
  rw [hIs, hTurn, turnOf, ← hcur]
  by_cases hca : c = a
  · -- `a` is taken before `b`, and is not before it any more
    have hBefore : Precedes cur a b := by
      obtain hEq | hBefore := hB (by rw [hca, hEqual])
      · exact absurd (hEq.trans hca).symm hab
      · exact hca ▸ hBefore
    have hOver : ¬ (a = b ∨ Between b a a) := not_or.mpr ⟨hab, not_between_self⟩
    rw [hca, if_neg hOver]
    by_cases hStays : cur = a
    · simp [hStays]
    · rw [if_pos (hBefore.turn hStays)]
      split <;> split <;> simp
  · by_cases hHas : cur = b ∨ Between b a cur
    · rw [if_pos hHas]
      split <;> split <;> simp_all
    · by_cases hGets : c = b ∨ Between b a c
      · -- the switch goes past `b`, so that `c` has to be more urgent
        have hcb : c ≠ b := fun hEq => hNotB ⟨hEq, (not_or.mp hHas).1⟩
        have hBetween : Between b a c := hGets.resolve_left hcb
        have hUrgent := urgent_of_between hHas hcb hBetween hB
        rw [passesOver_of_between hHas hChosen hLeast hBetween (hUrgent.trans_eq hEqual.symm),
          if_pos hGets, if_neg hHas]
        simp [hca]
      · rw [if_neg hGets]
        simp [hca]

/-- Each dispatch of `a` takes its turn away, and only passing over `b` gives it back. -/
theorem turn_afterMove (hSeated : Seated s.kernel) (hCandidates : Candidates s) (hab : a ≠ b)
    (hMove : Move s e s' out) (hPre : Contending s.kernel a b)
    (hNever : dispatches b ⟨s, e, out, s'⟩ = false) :
    (if dispatches a ⟨s, e, out, s'⟩ then 1 else 0) + turnOf a b s'.kernel ≤
      (if passesOver a b ⟨s, e, out, s'⟩ then 1 else 0) + turnOf a b s.kernel := by
  by_cases he : e = .pendSV
  · subst he
    cases hMove
    exact turn_afterSwitch hSeated hCandidates hab hPre hNever
  · have hNone : dispatches a ⟨s, e, out, s'⟩ = false := by
      cases e with
      | pendSV => exact absurd rfl he
      | _ => rfl
    have hSame : turnOf a b s'.kernel = turnOf a b s.kernel := by
      rw [turnOf, currentTask_move hMove he, turnOf]
    rw [hNone, hSame]
    simp

theorem turnOf_le_one {k : Kernel} : turnOf a b k ≤ 1 := by
  unfold turnOf
  split <;> simp

end Turns

/-- While two tasks of equal priority contend, one of them is dispatched at most
`OS_MAX_TASKS` times before the other, unless the scheduler passes over the other one that
often. -/
theorem equals_take_turns {before stretch : List Label} {s s' : Sys} {a b : TaskId}
    (h : Reaches before s) (hRun : Run s stretch s') (hab : a ≠ b)
    (hContending : ∀ l ∈ stretch, Contending l.pre.kernel a b ∧ Contending l.post.kernel a b)
    (hNever : ∀ l ∈ stretch, dispatches b l = false)
    (hFew : stretch.countP (passesOver a b) < osMaxTasks) :
    stretch.countP (dispatches a) ≤ osMaxTasks := by
  have hTurns := hRun.historyInvariant
    (I := fun stretch s' => Seated s'.kernel ∧ Candidates s' ∧
      stretch.countP (dispatches a) + turnOf a b s'.kernel ≤
        stretch.countP (passesOver a b) + turnOf a b s.kernel)
    (C := fun l => Contending l.pre.kernel a b ∧ dispatches b l = false)
    ⟨h.seated, h.candidates, by simp⟩
    (fun stretch l hTaken hC hPre => by
      have hMove := move_of_step hTaken
      obtain ⟨hSeated, hCandidates, hCount⟩ := hPre
      refine ⟨hSeated.afterMove hMove, hCandidates.afterMove hSeated.entries.listed hMove, ?_⟩
      have hStep := turn_afterMove hSeated hCandidates hab hMove hC.1 hC.2
      calc (stretch ++ [l]).countP (dispatches a) + turnOf a b l.post.kernel
          = stretch.countP (dispatches a) +
              ((if dispatches a l then 1 else 0) + turnOf a b l.post.kernel) := by
            rw [List.countP_append, List.countP_singleton, Nat.add_assoc]
        _ ≤ stretch.countP (dispatches a) +
              ((if passesOver a b l then 1 else 0) + turnOf a b l.pre.kernel) :=
            Nat.add_le_add_left hStep _
        _ ≤ (stretch ++ [l]).countP (passesOver a b) + turnOf a b s.kernel := by
            rw [List.countP_append, List.countP_singleton]
            omega)
    fun l hl => ⟨(hContending l hl).1, hNever l hl⟩
  have hStart : turnOf a b s.kernel ≤ 1 := turnOf_le_one
  obtain ⟨_, _, hCount⟩ := hTurns
  omega

def contendersBoot : List CreateCall := [sampleTask 5, sampleTask 5, sampleTask 1]

def interruption : List Event := [.tick, .pendSV, .resume, .call (.taskDelay 1), .pendSV]

/-- Task 1 is dispatched twice in a row when task 3 interrupts it once. -/
theorem equals_take_turns_once :
    ∃ start stretch s, Reaches [] start ∧ Run start stretch s ∧ start.kernel.currentTask = 3 ∧
      s.kernel.currentTask = 1 ∧ stretch.countP (dispatches 1) ≤ osMaxTasks := by
  have hCheck : checkBoot sampleImage contendersBoot
      ([.call (.taskDelay 1), .pendSV] ++ interruption)
      (fun l => decide (Contending l.pre.kernel 1 2) && decide (Contending l.post.kernel 1 2) &&
        !dispatches 2 l)
      (fun s => s.kernel.currentTask == 1) = true := by
    decide +kernel
  have hStart : (boot sampleImage contendersBoot).map (·.kernel.currentTask) = some 3 := by
    decide +kernel
  obtain ⟨start, hBoot, hRuns⟩ := boot_of_checkBoot hCheck
  obtain ⟨stretch, s, hRun, hEvents, hEach, hFinal⟩ := run_of_checkRun hRuns
  simp only [Bool.and_eq_true, Bool.not_eq_true', beq_iff_eq, decide_eq_true_eq] at hEach hFinal
  have hReaches : Reaches [] start := ⟨_, _, start, hBoot, .nil⟩
  rw [hBoot] at hStart
  have hLength : stretch.length = 7 := by simpa [interruption] using congrArg List.length hEvents
  have hFew : stretch.countP (passesOver 1 2) < osMaxTasks :=
    List.countP_le_length.trans_lt (by rw [hLength]; decide)
  exact ⟨start, stretch, s, hReaches, hRun, Option.some.inj hStart, hFinal,
    equals_take_turns hReaches hRun (by decide) (fun l hl => (hEach l hl).1)
      (fun l hl => (hEach l hl).2) hFew⟩

/-- Task 3 wakes at every tick, interrupts task 1 and blocks again; the scheduler then takes
task 1 each time, and never task 2. -/
theorem equal_priority_starved :
    ¬ ∀ before stretch s s' a b, Reaches before s → Run s stretch s' → a ≠ b →
      (∀ l ∈ stretch, Contending l.pre.kernel a b ∧ Contending l.post.kernel a b) →
      (∀ l ∈ stretch, dispatches b l = false) →
      stretch.countP (dispatches a) ≤ osMaxTasks := by
  intro hClaim
  have hTally : (boot sampleImage contendersBoot).any
      (fun s => tallyRun
        (fun l => decide (Contending l.pre.kernel 1 2) && decide (Contending l.post.kernel 1 2) &&
          !dispatches 2 l) (dispatches 1) 21 0 s
        ([.call (.taskDelay 1), .pendSV] ++ (List.replicate 20 interruption).flatten)) = true := by
    decide +kernel
  obtain ⟨start, hBoot, hRuns⟩ := (Option.any_eq_true _ _).mp hTally
  obtain ⟨stretch, s, hRun, hEach, hCount⟩ := run_of_tallyRun hRuns
  simp only [Bool.and_eq_true, Bool.not_eq_true', decide_eq_true_eq] at hEach
  have hLe := hClaim [] stretch start s 1 2 ⟨_, _, start, hBoot, .nil⟩ hRun (by decide)
    (fun l hl => (hEach l hl).1) fun l hl => (hEach l hl).2
  rw [Nat.zero_add] at hCount
  rw [hCount] at hLe
  exact absurd hLe (by decide)

end KoRTOS
