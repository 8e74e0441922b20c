import KoRTOS.Evaluation
import KoRTOS.Invariant.Ranks

/-!
# An owner never ranks below its waiters

Donation, hand-off and time-out keep every task bounded by the claims on it. A
write of the unprotected recomputation does so too as long as it is not
overtaken between its scan and its write.
-/

namespace KoRTOS

open Inheritance

/-- Every owner of a locked mutex is at least as urgent as every task in its waitlist. -/
def OwnerOutranks (k : Kernel) : Prop :=
  ∀ i o w, (k.mutexes i).state = .locked → (k.mutexes i).owner = some o →
    w ∈ k.waiters (.mutex i) →
    (k.userTasks o).effectivePriority ≤ (k.userTasks w).effectivePriority

/-- No task is less urgent than its base priority or a task that waits for it. -/
def AllBounded (k : Kernel) : Prop := ∀ t, Bounded k.base k.eff (nextOwner k) t

theorem AllBounded.ownerOutranks {k : Kernel} (h : AllBounded k) (hWaiting : Waiting k) :
    OwnerOutranks k := by
  intro i o w _ hOwner hw
  have hNext : nextOwner k w = some o :=
    (nextOwner_of_blockedOn (hWaiting.mem_waiters.mp hw)).trans hOwner
  exact (bounded_iff.mp (h o)).2 w hNext

section Kept

variable {s s' : Sys} {e : Event} {out : Option Ret}

theorem AllBounded.afterInherits {piece : Piece} (h : AllBounded s.kernel) (hLocks : Locks s)
    (hPiece : ∀ rest, piece = .rest rest →
      e = .resume ∧ s.pending s.kernel.currentTask = some rest)
    (hBase : s'.kernel.base = s.kernel.base) (hInherits : Inherits s.kernel piece s'.kernel)
    (hPre : AcyclicWaits s.kernel) (hPost : AcyclicWaits s'.kernel)
    (hFresh : FreshWrite ⟨s, e, out, s'⟩) : AllBounded s'.kernel := by
  intro x
  rw [hBase]
  cases hInherits with
  | still hEff hNext =>
    rw [hEff, hNext]
    exact h x
  | donate hOwner _ hFree hEff hNext =>
    rw [AcyclicWaits, hNext] at hPost
    rw [hEff, hNext]
    exact Bounded.afterDonation hFree (fun _ => hLocks.mem_walk_iff hPre (hLocks.owner_lt hOwner))
      (hPost.not_onChain hFree) (h x)
  | write hEff hNext =>
    obtain ⟨rfl, hPending⟩ := hPiece _ rfl
    rw [hEff, hNext]
    exact (h _).update (h x) (hLocks.fresh_least hFresh hPending) hPre.next_ne
  | @handOff i t _ _ _ hOwner hWaits hFree hNext hEff hGiver hTaker =>
    have hTakerNext : nextOwner s.kernel t = some s.kernel.currentTask :=
      (nextOwner_of_blockedOn hWaits).trans hOwner
    rw [hEff]
    exact Bounded.afterHandOver hFree hTakerNext (by rw [hNext, if_pos rfl])
      (fun w hw => handOff_other hOwner hNext hw) hGiver hTaker (h x)

theorem AllBounded.afterMove (h : AllBounded s.kernel) (hLocks : Locks s)
    (hMove : Move s e s' out) (hPre : AcyclicWaits s.kernel) (hPost : AcyclicWaits s'.kernel)
    (hFresh : FreshWrite ⟨s, e, out, s'⟩) : AllBounded s'.kernel := by
  cases hLocks.evolves hMove with
  | piece hPiece hBase hInherits =>
    exact h.afterInherits hLocks hPiece hBase hInherits hPre hPost hFresh
  | tick hBase hEff hNext =>
    intro x
    rw [hBase, hEff]
    exact (h x).mono fun w => hNext w x
  | join _ hBase hEff hNext =>
    intro x
    rw [hBase, hEff, hNext]
    exact (h x).join hLocks.next_absent.1 hLocks.next_absent.2

end Kept

theorem allBounded_of_boot {image : Image} {calls : List CreateCall} {start : Sys}
    (h : boot image calls = some start) : AllBounded start.kernel := by
  intro t
  rw [bounded_iff, nextOwner_of_boot h]
  exact ⟨((ranks_of_boot h).2 t).le, nofun⟩

/-- As long as the idle task does not block and no write of the unprotected recomputation
is stale, no owner ranks below a task that waits for its mutex. -/
theorem owner_outranks_waiters {trace : List Label} {s : Sys} (h : Reaches trace s)
    (hUsed : ∀ l ∈ trace, WellUsed l) (hAcyclic : ∀ l ∈ trace, AcyclicWaits l.post.kernel)
    (hFresh : ∀ l ∈ trace, FreshWrite l) : OwnerOutranks s.kernel := by
  obtain ⟨image, calls, start, hBoot, hRun⟩ := h
  have hAll := hRun.invariant
    (I := fun s => Locks s ∧ AllBounded s.kernel ∧ AcyclicWaits s.kernel)
    (C := fun l => UserBlocks l ∧ AcyclicWaits l.post.kernel ∧ FreshWrite l)
    ⟨locks_of_boot hBoot, allBounded_of_boot hBoot, acyclic_of_boot hBoot⟩
    (fun l hTaken hC hPre => by
      have hMove := move_of_step hTaken
      obtain ⟨hUser, hPost, hFresh⟩ := hC
      obtain ⟨hLocks, hBounded, hPre⟩ := hPre
      exact ⟨hLocks.afterMove hMove hUser,
        hBounded.afterMove hLocks hMove hPre hPost hFresh, hPost⟩)
    fun l hl => ⟨(hUsed l hl).1, hAcyclic l hl, hFresh l hl⟩
  exact hAll.2.1.ownerOutranks hAll.1.sound.waiting

/-- Task 2 waits for the mutex of task 1, times out, takes its donation back and waits again. -/
theorem owner_outranks_waiters_again :
    ∃ trace s, Reaches trace s ∧ s.kernel.waiters (.mutex 0) = [2] ∧
      (s.kernel.mutexes 0).owner = some 1 ∧ OwnerOutranks s.kernel := by
  have hCheck : checkBoot sampleImage [sampleTask 5, sampleTask 4, .mutex (some 0)]
      [.call (.taskDelay 1), .pendSV, .call (.mutexLock (some 0) 0), .tick, .pendSV, .resume,
        .call (.mutexLock (some 0) 1), .pendSV, .tick, .pendSV, .resume, .resume, .resume,
        .resume, .resume, .call (.mutexLock (some 0) osWaitForever), .pendSV]
      (fun l => decide (WellUsed l) && decide (FreshWrite l) && flatWaits l.post.kernel)
      (fun s => s.kernel.waiters (.mutex 0) == [2] && (s.kernel.mutexes 0).owner == some 1) =
        true := by
    decide +kernel
  obtain ⟨trace, s, hReaches, _, hEach, hFinal⟩ := reaches_of_checkBoot hCheck
  simp only [Bool.and_eq_true, beq_iff_eq, decide_eq_true_eq] at hEach hFinal
  have hOutranks := owner_outranks_waiters hReaches (fun l hl => (hEach l hl).1.1)
    (hReaches.acyclic (fun l hl => (hEach l hl).1.1.1) fun l hl => (hEach l hl).2)
    fun l hl => (hEach l hl).1.2
  exact ⟨trace, s, hReaches, hFinal.1, hFinal.2, hOutranks⟩

/-- Task 2 has scanned itself when task 3 preempts it and donates to it; the write that
follows takes the donation back. -/
theorem donation_lost :
    ¬ ∀ trace s, Reaches trace s → (∀ l ∈ trace, WithinMutexLimit l.post.kernel) →
      (∀ l ∈ trace, AcyclicWaits l.post.kernel) → OwnerOutranks s.kernel := by
  intro hClaim
  have hCheck : checkBoot sampleImage
      [sampleTask 5, sampleTask 4, sampleTask 1, .mutex (some 0)]
      [.call (.taskDelay 2), .pendSV, .call (.taskDelay 1), .pendSV,
        .call (.mutexLock (some 0) osWaitForever), .tick, .pendSV, .resume,
        .call (.mutexLock (some 0) osWaitForever), .pendSV, .call (.mutexUnlock (some 0)),
        .pendSV, .resume, .resume, .tick, .pendSV, .resume,
        .call (.mutexLock (some 0) osWaitForever), .pendSV, .resume]
      (fun l => decide (WellUsed l) && flatWaits l.post.kernel)
      (fun s => (s.kernel.mutexes 0).state == .locked && (s.kernel.mutexes 0).owner == some 2 &&
        s.kernel.waiters (.mutex 0) == [3] && s.kernel.eff 2 == 4 && s.kernel.eff 3 == 1) =
        true := by
    decide +kernel
  obtain ⟨trace, s, hReaches, _, hEach, hFinal⟩ := reaches_of_checkBoot hCheck
  simp only [Bool.and_eq_true, beq_iff_eq, decide_eq_true_eq] at hEach hFinal
  obtain ⟨⟨⟨⟨hLocked, hOwner⟩, hWaiters⟩, hOwnerEff⟩, hWaiterEff⟩ := hFinal
  have hOutranks := hClaim trace s hReaches (fun l hl => (hEach l hl).1.2)
    (hReaches.acyclic (fun l hl => (hEach l hl).1.1) fun l hl => (hEach l hl).2)
  have hLe : s.kernel.eff 2 ≤ s.kernel.eff 3 := hOutranks 0 2 3 hLocked hOwner (by simp [hWaiters])
  rw [hOwnerEff, hWaiterEff] at hLe
  exact absurd hLe (by decide)

end KoRTOS
