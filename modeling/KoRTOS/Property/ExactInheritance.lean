import KoRTOS.Evaluation
import KoRTOS.Invariant.Repairs

/-!
# Priority inheritance is exact

When no task is on its way out of a mutex's waitlist, the effective priority of
every user task is the least of its base priority and the effective priorities
of the tasks that wait on its mutexes, as long as no repair is spoilt.
-/

namespace KoRTOS

open Inheritance

/-- The priorities that a task is entitled to: its own and those of the tasks in the
waitlists of the mutexes it owns. -/
def entitled (k : Kernel) (t : TaskId) : Set Nat :=
  insert (k.userTasks t).basePriority
    {p | ∃ i w, (k.mutexes i).owner = some t ∧ w ∈ k.waiters (.mutex i) ∧
      p = (k.userTasks w).effectivePriority}

/-- Every user task has the least priority that it is entitled to. -/
def InheritanceExact (k : Kernel) : Prop :=
  ∀ t, t ≠ idleTaskIdx → t < k.taskCount →
    IsLeast (entitled k t) (k.userTasks t).effectivePriority

/-- Task `t` is inside `os_mutex_lock`, but no longer in the waitlist of the mutex. -/
def leavesLock (s : Sys) (t : TaskId) : Bool :=
  match s.pending t with
  | some (.mutexLock i _ _) => (s.kernel.userTasks t).blockedWaitlist != some (.mutex i)
  | _ => false

/-- No task is between its removal from a mutex's waitlist and the return of its call. -/
def Quiescent (s : Sys) : Prop := ∀ t : Nat, t < osMaxTasks → leavesLock s t = false

instance (s : Sys) : Decidable (Quiescent s) := by
  unfold Quiescent
  infer_instance

theorem entitled_eq {k : Kernel} {t : TaskId} (h : Waiting k) :
    entitled k t = claims k.base k.eff (nextOwner k) t := by
  ext p
  constructor
  · rintro (hBase | ⟨i, w, hOwner, hw, hp⟩)
    · exact .inl hBase
    · have hNext : nextOwner k w = some t :=
        (nextOwner_of_blockedOn (h.mem_waiters.mp hw)).trans hOwner
      exact .inr ⟨w, hNext, hp⟩
  · rintro (hBase | ⟨w, hNext, hp⟩)
    · exact .inl hBase
    · obtain ⟨i, hOn, hOwner⟩ := nextOwner_eq_some.mp hNext
      exact .inr ⟨i, w, hOwner, h.mem_waiters.mpr hOn, hp⟩

theorem Quiescent.no_repairs {s : Sys} {o t : TaskId} (h : Quiescent s) (hLocks : Locks s) :
    ¬ Repairs s o t := by
  intro hRepairs
  obtain ⟨i, r, st, hPending⟩ := hRepairs.pending
  have hOn : s.kernel.blockedOn t = some (.mutex i) := by
    have hLt := (hLocks.sound.pending_user hPending).2.trans_le hLocks.sound.waiting.taskCount_le
    have hStays := h t hLt
    rw [leavesLock, hPending] at hStays
    exact bne_eq_false_iff_eq.mp hStays
  obtain ⟨rest, hRest, hWaits⟩ := hLocks.sound.pending_waits hOn
  rw [hPending] at hRest
  cases hRest
  have hStage : st = .woken := by
    simp only [Pending.waitsOn] at hWaits
    split at hWaits
    · rename_i hStage
      exact hStage.2
    · cases hWaits
  subst hStage
  cases hRepairs with
  | woken _ hLeft =>
    rw [hLeft] at hOn
    cases hOn
  | visit hOther => exact absurd (hPending.symm.trans hOther) (by simp)
  | scanned hOther => exact absurd (hPending.symm.trans hOther) (by simp)
  | written hOther => exact absurd (hPending.symm.trans hOther) (by simp)

/-- As long as no write of the unprotected recomputation is stale, no recomputation is cut
short and no task frees a mutex while a time-out on it is still to be repaired, inheritance is
exact in every quiescent state. -/
theorem inheritance_exact {trace : List Label} {s : Sys} (h : Reaches trace s)
    (hUsed : ∀ l ∈ trace, WellUsed l) (hAcyclic : ∀ l ∈ trace, AcyclicWaits l.post.kernel)
    (hFresh : ∀ l ∈ trace, FreshWrite l) (hRepair : ∀ l ∈ trace, RepairsGoOn l)
    (hQuiet : Quiescent s) : InheritanceExact s.kernel := by
  obtain ⟨image, calls, start, hBoot, hRun⟩ := h
  have hAll := hRun.invariant
    (I := fun s => Locks s ∧ AcyclicWaits s.kernel ∧ ∀ o, Settled s o)
    (C := fun l => UserBlocks l ∧ AcyclicWaits l.post.kernel ∧ FreshWrite l ∧ RepairsGoOn l)
    ⟨locks_of_boot hBoot, acyclic_of_boot hBoot, fun _ => settled_of_boot hBoot⟩
    (fun l hTaken hC hPre => by
      have hMove := move_of_step hTaken
      obtain ⟨hUser, hPost, hFresh, hRepair⟩ := hC
      obtain ⟨hLocks, hPre, hSettled⟩ := hPre
      exact ⟨hLocks.afterMove hMove hUser, hPost, fun o =>
        (hSettled o).afterMove hLocks hMove hPre hPost hFresh hRepair⟩)
    fun l hl => ⟨(hUsed l hl).1, hAcyclic l hl, hFresh l hl, hRepair l hl⟩
  obtain ⟨hLocks, _, hSettled⟩ := hAll
  intro t _ _
  rw [entitled_eq hLocks.sound.waiting]
  obtain hExact | ⟨u, hRepairs, _⟩ := hSettled t
  · exact hExact
  · exact absurd hRepairs (hQuiet.no_repairs hLocks)

/-- Task 2 waits for the mutex of task 1, times out, takes its donation back and waits again. -/
theorem inheritance_exact_again :
    ∃ trace s, Reaches trace s ∧ s.kernel.waiters (.mutex 0) = [2] ∧ s.kernel.eff 1 = 4 ∧
      InheritanceExact s.kernel := by
  have hCheck : checkBoot sampleImage [sampleTask 5, sampleTask 4, .mutex (some 0)]
      [.call (.taskDelay 1), .pendSV, .call (.mutexLock (some 0) 0), .tick, .pendSV, .resume,
        .call (.mutexLock (some 0) 1), .pendSV, .tick, .pendSV, .resume, .resume, .resume,
        .resume, .resume, .call (.mutexLock (some 0) osWaitForever), .pendSV]
      (fun l => decide (WellUsed l) && decide (FreshWrite l) && decide (RepairsGoOn l) &&
        flatWaits l.post.kernel)
      (fun s => decide (Quiescent s) && s.kernel.waiters (.mutex 0) == [2] &&
        s.kernel.eff 1 == 4) = true := by
    decide +kernel
  obtain ⟨trace, s, hReaches, _, hEach, hFinal⟩ := reaches_of_checkBoot hCheck
  simp only [Bool.and_eq_true, beq_iff_eq, decide_eq_true_eq] at hEach hFinal
  have hExact := inheritance_exact hReaches (fun l hl => (hEach l hl).1.1.1)
    (hReaches.acyclic (fun l hl => (hEach l hl).1.1.1.1) fun l hl => (hEach l hl).2)
    (fun l hl => (hEach l hl).1.1.2) (fun l hl => (hEach l hl).1.2) hFinal.1.1
  exact ⟨trace, s, hReaches, hFinal.1.2, hFinal.2, hExact⟩

def locksOnly : Event → Bool
  | .call (.mutexLock _ _) => true
  | .call (.mutexUnlock _) => true
  | .call (.taskDelay _) => true
  | .call (.semWait _ _) => true
  | .call (.semPost _) => true
  | .resume => true
  | .tick => true
  | .pendSV => true
  | _ => false

/-- Task 3 times out on the mutex of task 2, but task 2 is dispatched first and unlocks: task
3 finds no owner to repair, and task 2 keeps the priority of task 3. -/
theorem boost_left_behind :
    ¬ ∀ trace s, Reaches trace s → (∀ l ∈ trace, locksOnly l.event = true ∧ WellUsed l) →
      (∀ l ∈ trace, AcyclicWaits l.post.kernel) → Quiescent s → InheritanceExact s.kernel := by
  intro hClaim
  have hCheck : checkBoot sampleImage
      [sampleTask 1, sampleTask 5, sampleTask 4, .mutex (some 0)]
      [.call (.taskDelay 1), .pendSV, .call (.taskDelay 1), .pendSV,
        .call (.mutexLock (some 0) 0), .tick, .pendSV, .resume, .call (.taskDelay 1), .pendSV,
        .resume, .call (.mutexLock (some 0) 1), .pendSV, .tick, .pendSV, .resume,
        .call (.taskDelay osWaitForever), .pendSV, .call (.mutexUnlock (some 0)), .tick, .pendSV,
        .resume, .resume, .resume]
      (fun l => locksOnly l.event && decide (WellUsed l) && flatWaits l.post.kernel)
      (fun s => decide (Quiescent s) && decide (2 < s.kernel.taskCount) &&
        s.kernel.waiters (.mutex 0) == [] && s.kernel.owned 2 == [] && s.kernel.base 2 == 5 &&
        s.kernel.eff 2 == 4) = true := by
    decide +kernel
  obtain ⟨trace, s, hReaches, _, hEach, hFinal⟩ := reaches_of_checkBoot hCheck
  simp only [Bool.and_eq_true, beq_iff_eq, decide_eq_true_eq] at hEach hFinal
  obtain ⟨⟨⟨⟨⟨hQuiet, hLt⟩, _⟩, hOwned⟩, hBase⟩, hEff⟩ := hFinal
  have hUser : ∀ l ∈ trace, UserBlocks l := fun l hl => (hEach l hl).1.2.1
  have hExact := hClaim trace s hReaches (fun l hl => (hEach l hl).1)
    (hReaches.acyclic hUser fun l hl => (hEach l hl).2) hQuiet
  have hEffective : (s.kernel.userTasks 2).effectivePriority = 4 := hEff
  have hOwn : (s.kernel.userTasks 2).basePriority = 5 := hBase
  obtain ⟨hMem, _⟩ := hExact 2 (by decide) hLt
  rw [hEffective] at hMem
  obtain hSelf | ⟨i, w, hOwner, _, _⟩ := hMem
  · rw [hOwn] at hSelf
    exact absurd hSelf (by decide)
  · have hMine := (hReaches.locks hUser).owning.fibers.mem_iff.mpr hOwner
    rw [hOwned] at hMine
    cases hMine

end KoRTOS
