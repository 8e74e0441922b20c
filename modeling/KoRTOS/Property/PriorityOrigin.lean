import KoRTOS.Evaluation
import KoRTOS.Invariant.Ranks

/-!
# Where priorities come from

Donations and recomputations only pass on what `os_task_create` was given: in every
state the effective priority of a task is the base priority of some task, and not
below its own. This holds also while a recomputation that was cut short still
carries a priority which is out of date.
-/

namespace KoRTOS

open Inheritance

def Origin (k : Kernel) (p : Nat) : Prop := ∃ u, u < k.taskCount ∧ k.base u = p

/-- Every priority in use was given to a task, also those that a scan has found and a
recomputation has not written yet. -/
structure Given (s : Sys) : Prop where
  effective : ∀ t, t < s.kernel.taskCount → Origin s.kernel (s.kernel.eff t)
  scanned : ∀ {t i r o n v}, s.pending t = some (.mutexLock i r (.scanned o n v)) →
    Origin s.kernel v

section Steps

variable {s s' : Sys} {e : Event} {out : Option Ret} {k k' : Kernel} {piece : Piece} {f : Flow}
  {t x : TaskId} {p v : Nat}

theorem Origin.congr (h : Origin k p) (hCount : k'.taskCount = k.taskCount)
    (hBase : k'.base = k.base) : Origin k' p := by
  obtain ⟨u, hu, hp⟩ := h
  exact ⟨u, hCount ▸ hu, hBase ▸ hp⟩

theorem Given.origin_of_least {next : TaskId → Option TaskId} (h : Given s)
    (hx : x < s.kernel.taskCount) (hNext : ∀ w, next w = some x → w < s.kernel.taskCount)
    (hLeast : IsLeast (claims s.kernel.base s.kernel.eff next x) v) : Origin s.kernel v := by
  obtain rfl | ⟨w, hw, rfl⟩ := hLeast.1
  · exact ⟨x, hx, rfl⟩
  · exact h.effective w (hNext w hw)

theorem Locks.waiter_lt (h : Locks s) {w o : TaskId} (hNext : nextOwner s.kernel w = some o) :
    w < s.kernel.taskCount := by
  obtain ⟨i, hOn, _⟩ := nextOwner_eq_some.mp hNext
  exact (h.sound.waiting.blocked hOn).2.1

theorem Given.afterInherits (h : Given s) (hLocks : Locks s)
    (hInherits : Inherits s.kernel piece k')
    (hPiece : ∀ rest, piece = .rest rest → s.pending s.kernel.currentTask = some rest)
    (ht : t < s.kernel.taskCount) : Origin s.kernel (k'.eff t) := by
  cases hInherits with
  | still hEff =>
    rw [hEff]
    exact h.effective t ht
  | donate _ _ _ hEff =>
    rw [hEff, donate]
    split
    · obtain hMin | hMin := min_choice (s.kernel.eff t) (s.kernel.eff s.kernel.currentTask)
      · rw [hMin]
        exact h.effective t ht
      · rw [hMin]
        exact h.effective _ hLocks.sound.current_lt
    · exact h.effective t ht
  | write hEff =>
    rw [hEff, Function.update_apply]
    split
    · exact h.scanned (hPiece _ rfl)
    · exact h.effective t ht
  | @handOff i u _ _ _ hOwner hWaits hFree hNext hEff hGiver hTaker =>
    have hTakerLt := (hLocks.sound.waiting.blocked hWaits).2.1
    have hWaiterLt : ∀ y w, nextOwner k' w = some y → w < s.kernel.taskCount := by
      intro y w hw
      rw [hNext] at hw
      split at hw
      · cases hw
      · split at hw
        · rename_i hOn
          exact (hLocks.sound.waiting.blocked hOn).2.1
        · exact hLocks.waiter_lt hw
    rw [hEff, Function.update_apply, Function.update_apply]
    split
    · exact h.origin_of_least hTakerLt (hWaiterLt _) hTaker
    · split
      · exact h.origin_of_least hLocks.sound.current_lt (hWaiterLt _) hGiver
      · exact h.effective t ht

theorem Given.scanned_afterPiece (h : Given s) (hLocks : Locks s)
    (hs : Section s.kernel piece k' f)
    (hPiece : ∀ rest, piece = .rest rest → s.pending s.kernel.currentTask = some rest)
    {i : MutexId} {r : OsErr} {o : TaskId} {n : Nat}
    (hPending : (s.afterPiece k' f).pending t = some (.mutexLock i r (.scanned o n v))) :
    Origin s.kernel v := by
  have hWaiting := hLocks.sound.waiting
  rw [pending_afterPiece hs] at hPending
  split at hPending
  · cases hs with
    | block hBlocks => cases hBlocks <;> cases hPending
    | stage hNext =>
      cases hPending
      cases hNext
      have hOwner : o < s.kernel.taskCount := hLocks.target_lt (hPiece _ rfl) rfl
      exact h.origin_of_least hOwner (fun _ => hLocks.waiter_lt)
        (scanOwner_least hWaiting.listed hWaiting.fibers hLocks.owning o)
    | _ => cases hPending
  · exact h.scanned hPending

theorem Given.afterPiece (h : Given s) (hLocks : Locks s) (hRun : s.kernel.pendSV = false)
    (hs : Section s.kernel piece k' f)
    (hPiece : ∀ rest, piece = .rest rest → s.pending s.kernel.currentTask = some rest) :
    Given (s.afterPiece k' f) := by
  have hInherits := hLocks.inherits hs fun _ => hLocks.sound.current_free hRun
  have hCount := hs.current.2
  constructor
  · intro t ht
    have hOrigin := h.afterInherits hLocks hInherits hPiece (t := t) (hCount ▸ ht)
    exact hOrigin.congr hCount hs.base
  · intro t i r o n v hPending
    exact (h.scanned_afterPiece hLocks hs hPiece hPending).congr hCount hs.base

theorem Given.same (h : Given s) (hCount : k'.taskCount = s.kernel.taskCount)
    (hBase : k'.base = s.kernel.base) (hEff : k'.eff = s.kernel.eff) :
    Given { s with kernel := k' } := by
  constructor
  · intro t ht
    dsimp only at ht ⊢
    rw [hEff]
    exact (h.effective t (hCount ▸ ht)).congr hCount hBase
  · intro t i r o n v hPending
    exact (h.scanned hPending).congr hCount hBase

theorem Given.afterIsr {c : ApiCall} {err : OsErr} {data : List U8} (h : Given s)
    (hLocks : Locks s) (hs : Section s.kernel (.call c) k' (.returned err data))
    (hQueue : ∀ mtx, c ≠ .mutexUnlock mtx) : Given { s with kernel := k' } := by
  have hInherits := (hLocks.evolves_isr hs hQueue).2
  have hCount := hs.current.2
  constructor
  · intro t ht
    have hPiece : ∀ rest, Piece.call c = .rest rest →
        s.pending s.kernel.currentTask = some rest := by
      rintro rest ⟨⟩
    have hOrigin := h.afterInherits hLocks hInherits hPiece (t := t) (hCount ▸ ht)
    exact hOrigin.congr hCount hs.base
  · intro t i r o n v hPending
    exact (h.scanned hPending).congr hCount hs.base

theorem Given.afterCreate {c : CreateCall} {err : OsErr} (h : Given s)
    (hCreation : Creation s.kernel c k' err) : Given (s.afterCreate c k' err) := by
  have hCount := taskCount_creation hCreation
  have hOld : ∀ {p}, Origin s.kernel p → Origin k' p := by
    rintro p ⟨u, hu, hp⟩
    refine ⟨u, hu.trans_le hCount, ?_⟩
    rw [Kernel.base, userTasks_creation_old hCreation hu]
    exact hp
  refine ⟨fun t ht => ?_, fun hPending => hOld (h.scanned hPending)⟩
  dsimp only [Sys.afterCreate] at ht ⊢
  by_cases hlt : t < s.kernel.taskCount
  · rw [Kernel.eff, userTasks_creation_old hCreation hlt]
    exact hOld (h.effective t hlt)
  · refine ⟨t, ht, ?_⟩
    obtain ⟨_, hSame⟩ | ⟨_, _, _, _, _, hSucc, hTasks⟩ := userTasks_creation hCreation
    · omega
    · have hNew : t = s.kernel.taskCount := by omega
      rw [Kernel.base, Kernel.eff, hTasks, if_pos hNew]
      rfl

theorem Given.afterMove (h : Given s) (hLocks : Locks s) (hMove : Move s e s' out) :
    Given s' := by
  cases hMove with
  | create _ _ _ hCreation => exact h.afterCreate hCreation
  | call hRun _ _ hs =>
    apply h.afterPiece hLocks hRun hs
    rintro rest ⟨⟩
  | resume hRun hPending hs =>
    apply h.afterPiece hLocks hRun hs
    rintro rest ⟨⟩
    exact hPending
  | @isrSend queue _ k' _ _ _ hs =>
    have hAfter := h.afterIsr hLocks hs (by simp)
    split
    · have hQuiet := quiet_countDropped k' queue
      exact hAfter.same hQuiet.taskCount hQuiet.base (SameRanks.of_userTasks hQuiet.userTasks).eff
    · exact hAfter
  | isrRecv _ hs => exact h.afterIsr hLocks hs (by simp)
  | tick =>
    have hTicked := hLocks.sound.waiting.updateTickCount.ticked_unblockTasks
    have hCount : (osTick s.kernel).taskCount = s.kernel.taskCount := hTicked.taskCount
    exact h.same hCount hTicked.base hTicked.eff
  | pendSV =>
    have hSame : SameButStates { s.kernel with pendSV := false } (pendSVHandler s.kernel) :=
      sameButStates_osScheduleNextTask
    exact h.same hSame.taskCount hSame.base hSame.eff

end Steps

/-- In every reachable state the effective priority of a task is a priority that some task was
created with, and at least as urgent as its own. -/
theorem priority_origin {trace : List Label} {s : Sys} (hReach : Reaches trace s)
    (hUser : ∀ l ∈ trace, UserBlocks l) {t : TaskId} (ht : t < s.kernel.taskCount) :
    s.kernel.eff t ≤ s.kernel.base t ∧ ∃ u, u < s.kernel.taskCount ∧
      s.kernel.base u = s.kernel.eff t := by
  refine ⟨(hReach.ranks hUser).eff_le t, ?_⟩
  obtain ⟨image, calls, start, hBoot, hRun⟩ := hReach
  have hStart : Given start := by
    constructor
    · intro t ht
      exact ⟨t, ht, ((ranks_of_boot hBoot).2 t).symm⟩
    · intro t i r o n v hPending
      rw [(idle_of_boot hBoot).2] at hPending
      cases hPending
  have hAll : Locks s ∧ Given s := by
    refine hRun.invariant (I := fun s => Locks s ∧ Given s) ⟨locks_of_boot hBoot, hStart⟩ ?_ hUser
    rintro l hTaken hUser ⟨hLocks, hGiven⟩
    have hMove := move_of_step hTaken
    exact ⟨hLocks.afterMove hMove hUser, hGiven.afterMove hLocks hMove⟩
  exact hAll.2.effective t ht

/-- Task 1, created with priority 9, owns the mutex for which task 2 waits with priority 3. -/
theorem priority_origin_donated :
    ∃ trace s, Reaches trace s ∧ s.kernel.eff 1 = 3 ∧ s.kernel.base 1 = 9 ∧
      s.kernel.eff 1 ≤ s.kernel.base 1 ∧
      ∃ u, u < s.kernel.taskCount ∧ s.kernel.base u = s.kernel.eff 1 := by
  have hCheck : checkBoot sampleImage
      [sampleTask 9, sampleTask 3, .mutex (some 0)]
      [.call (.taskDelay 1), .pendSV, .call (.mutexLock (some 0) osWaitForever), .tick, .pendSV,
        .resume, .call (.mutexLock (some 0) osWaitForever), .pendSV]
      (fun l => decide (UserBlocks l))
      (fun s => s.kernel.eff 1 == 3 && s.kernel.base 1 == 9 &&
        decide (1 < s.kernel.taskCount)) = true := by
    decide +kernel
  obtain ⟨trace, s, hReach, _, hEach, hFinal⟩ := reaches_of_checkBoot hCheck
  simp only [Bool.and_eq_true, decide_eq_true_eq, beq_iff_eq] at hEach hFinal
  obtain ⟨⟨hEff, hBase⟩, hCount⟩ := hFinal
  exact ⟨trace, s, hReach, hEff, hBase, priority_origin hReach hEach hCount⟩

end KoRTOS
