import KoRTOS.Invariant.Ranks

/-!
# Repairs in progress

A task that leaves the waitlist of a mutex by a time-out leaves its donation
behind; it takes it back itself when it goes on inside `os_mutex_lock`. Until
then the owner is not exact, but the task is about to repair it. `Settled` says
that every task is exact or about to be repaired.
-/

namespace KoRTOS

open Inheritance

/-- Task `t` is about to bring the effective priority of `o` up to date. -/
inductive Repairs (s : Sys) (o : TaskId) : TaskId → Prop
  | woken {t i r} (hPending : s.pending t = some (.mutexLock i r .woken))
      (hLeft : s.kernel.blockedOn t = none) (hOwner : s.kernel.ownerOf i = some o) :
      Repairs s o t
  | visit {t i r n} (hPending : s.pending t = some (.mutexLock i r (.visit (some o) n))) :
      Repairs s o t
  | scanned {t i r n v} (hPending : s.pending t = some (.mutexLock i r (.scanned o n v))) :
      Repairs s o t
  | written {t i r w n} (hPending : s.pending t = some (.mutexLock i r (.written w n)))
      (hNext : nextOwner s.kernel w = some o) : Repairs s o t

def ExactAt (k : Kernel) (o : TaskId) : Prop := Exact k.base k.eff (nextOwner k) o

/-- Only a task that timed out has something to repair: a hand-off leaves both sides exact. -/
def Settled (s : Sys) (o : TaskId) : Prop :=
  ExactAt s.kernel o ∨ ∃ t, Repairs s o t ∧ (s.kernel.userTasks t).timeout = true

/-- The transition runs this piece of the running task's code. -/
inductive Runs (s : Sys) : Event → Piece → Prop
  | call {c} (hFree : s.pending s.kernel.currentTask = none) : Runs s (.call c) (.call c)
  | resume {rest} (hPending : s.pending s.kernel.currentTask = some rest) :
      Runs s .resume (.rest rest)

section Exactness

variable {s s' : Sys} {k k' : Kernel} {piece : Piece} {f : Flow} {e : Event} {out : Option Ret}
  {o t w z : TaskId} {i : MutexId}

theorem Locks.exactAt_of_scan (h : Locks s) (hEff : s.kernel.eff o = scanOwner s.kernel o) :
    ExactAt s.kernel o := by
  rw [ExactAt, Exact, hEff]
  exact scanOwner_least h.sound.waiting.listed h.sound.waiting.fibers h.owning o

theorem exactAt_sides {u v : Nat} (hOwner : k.ownerOf i = some k.currentTask)
    (hWaits : k.blockedOn t = some (.mutex i)) (hFree : nextOwner k k.currentTask = none)
    (hNext : ∀ x, nextOwner k' x =
      if x = t then none else if k.blockedOn x = some (.mutex i) then some t else nextOwner k x)
    (hBase : k'.base = k.base)
    (hEff : k'.eff = Function.update (Function.update k.eff k.currentTask v) t u)
    (hGiver : IsLeast (claims k.base k.eff (nextOwner k') k.currentTask) v)
    (hTaker : IsLeast (claims k.base k.eff (nextOwner k') t) u)
    (hz : z = k.currentTask ∨ z = t) : ExactAt k' z := by
  have hTakerNext : nextOwner k t = some k.currentTask :=
    (nextOwner_of_blockedOn hWaits).trans hOwner
  rw [ExactAt, hBase, hEff]
  exact exact_handOver_sides hFree hTakerNext (by rw [hNext, if_pos rfl])
    (fun w hw => handOff_other hOwner hNext hw) hGiver hTaker hz

namespace Locks

variable (h : Locks s) (hs : Section s.kernel piece k' f)
  (hFree : s.kernel.current.currentState ≠ .blocked)
include h hs hFree

/-- A mutex stays with its owner, unless that is the running task and unlocks it: then it is
exact afterwards, or nobody waited for the mutex and no priority changed. -/
theorem ownerOf_kept (hOwner : s.kernel.ownerOf i = some o) :
    k'.ownerOf i = some o ∨ ExactAt k' o ∨
    (o = s.kernel.currentTask ∧ piece = .call (.mutexUnlock (some i)) ∧
      (s.kernel.mutexes i).waitlist.waitCount = 0 ∧ SameRanks s.kernel k' ∧
      nextOwner k' = nextOwner s.kernel) := by
  cases hs.transfer with
  | stay hSame => exact .inl (hSame.ownerOf ▸ hOwner)
  | @acquire m _ hUnlocked =>
    rw [(h.owning.afterAcquire hUnlocked).2, Function.update_apply]
    split
    · rename_i hEq
      rw [hEq, (h.owning.unlocked m).mp hUnlocked] at hOwner
      cases hOwner
    · exact .inl hOwner
  | @free m hHolder hEmpty =>
    rw [(h.owning.afterFree hHolder).2, Function.update_apply]
    split
    · rename_i hEq
      subst hEq
      rw [hHolder] at hOwner
      cases hOwner
      exact .inr (.inr ⟨rfl, rfl, hEmpty, .free, nextOwner_unwanted free_blocking.blockedOn
        (h.owning.afterFree hHolder).2 fun t => h.sound.waiting.no_waiters hEmpty⟩)
    · exact .inl hOwner
  | @handOff m j t hHolder hChosen =>
    have hOwners : (handOff s.kernel m j t).portYield.ownerOf = _ :=
      (h.owning.afterHandOff hHolder).2
    rw [hOwners, Function.update_apply]
    split
    · rename_i hEq
      subst hEq
      rw [hHolder] at hOwner
      cases hOwner
      have hWaiting := h.sound.waiting
      obtain ⟨v, u, hBase, hEff, hGiver, hTaker⟩ :=
        eff_handOff hWaiting h.owning hFree hHolder hChosen
      have hNone : nextOwner s.kernel s.kernel.currentTask = none :=
        nextOwner_eq_none (by simp [hWaiting.free_of_not_blocked hFree])
      have hExact : ExactAt (handOff s.kernel i j t) s.kernel.currentTask :=
        exactAt_sides hHolder (hChosen.blockedOn hWaiting) hNone
          (nextOwner_handOff h.owning hHolder) hBase hEff hGiver hTaker (.inl rfl)
      exact .inr (.inl hExact)
    · exact .inl hOwner

/-- A task goes on waiting for the same owner, unless that hands the mutex over and is exact. -/
theorem nextOwner_kept (hNext : nextOwner s.kernel w = some o) :
    nextOwner k' w = some o ∨ ExactAt k' o := by
  cases h.inherits hs fun _ => hFree with
  | still _ hSame =>
    rw [hSame]
    exact .inl hNext
  | donate _ _ hNone _ hNew =>
    have hne : w ≠ s.kernel.currentTask := by
      rintro rfl
      rw [hNone] at hNext
      cases hNext
    rw [hNew, Function.update_of_ne hne]
    exact .inl hNext
  | write _ hSame =>
    rw [hSame]
    exact .inl hNext
  | @handOff m t _ _ _ hOwner hWaits hNone hNew hEff hGiver hTaker =>
    have hExact : o = s.kernel.currentTask → ExactAt k' o := fun ho =>
      exactAt_sides hOwner hWaits hNone hNew hs.base hEff hGiver hTaker (.inl ho)
    rw [hNew]
    split
    · rename_i hEq
      subst hEq
      rw [nextOwner_of_blockedOn hWaits, hOwner] at hNext
      exact .inr (hExact (Option.some.inj hNext).symm)
    · split
      · rename_i hOn
        rw [nextOwner_of_blockedOn hOn, hOwner] at hNext
        exact .inr (hExact (Option.some.inj hNext).symm)
      · exact .inl hNext

omit hFree in
theorem exactAt_write {r : OsErr} {n v : Nat} (hRuns : Runs s e piece)
    (hPiece : piece = .rest (.mutexLock i r (.scanned w n v))) (hPre : AcyclicWaits s.kernel)
    (hFresh : FreshWrite ⟨s, e, out, s'⟩) : ExactAt k' w := by
  subst hPiece
  cases hRuns with
  | resume hPending =>
    have hLeast := h.fresh_least hFresh hPending
    obtain ⟨_, hNext, _⟩ | ⟨_, _, _, hStage, rfl, _⟩ | ⟨hEnd, _⟩ := hs.lock_cases
    · cases hNext
    · cases hStage
      have hRanks := Reranked.setEffectivePriority s.kernel w v
      rw [ExactAt, hRanks.base, hRanks.nextOwner, eff_setEffectivePriority]
      exact exact_update_self hLeast hPre.next_ne
    · cases hEnd

theorem exactAt_kept (hRuns : Runs s e piece) (hPre : AcyclicWaits s.kernel)
    (hPost : AcyclicWaits k') (hFresh : FreshWrite ⟨s, e, out, s'⟩)
    (hExact : ExactAt s.kernel z) :
    ExactAt k' z ∨ ∃ i r w n v, piece = .rest (.mutexLock i r (.scanned w n v)) ∧
      nextOwner s.kernel w = some z := by
  rw [ExactAt, hs.base]
  cases h.inherits hs fun _ => hFree with
  | still hEff hNext =>
    rw [hEff, hNext]
    exact .inl hExact
  | donate hOwner _ hNone hEff hNext =>
    rw [AcyclicWaits, hNext] at hPost
    rw [hEff, hNext]
    exact .inl (Exact.afterDonation hNone
      (fun _ => h.mem_walk_iff hPre (h.owner_lt hOwner)) (hPost.not_onChain hNone) hExact)
  | @write i r w n v _ hEff hNext =>
    rw [hEff, hNext]
    by_cases hWaits : nextOwner s.kernel w = some z
    · exact .inr ⟨i, r, w, n, v, rfl, hWaits⟩
    · left
      by_cases hzw : z = w
      · subst hzw
        cases hRuns with
        | resume hPending =>
          exact exact_update_self (h.fresh_least hFresh hPending) hPre.next_ne
      · exact Exact.update_other hExact hzw hWaits
  | @handOff i t _ _ _ hOwner hWaits hNone hNext hEff hGiver hTaker =>
    have hTakerNext : nextOwner s.kernel t = some s.kernel.currentTask :=
      (nextOwner_of_blockedOn hWaits).trans hOwner
    rw [hEff]
    exact .inl (Exact.afterHandOver hNone hTakerNext (by rw [hNext, if_pos rfl])
      (fun w hw => handOff_other hOwner hNext hw) hGiver hTaker fun _ _ => hExact)

end Locks
end Exactness

section Going

variable {s s' : Sys} {k' : Kernel} {piece : Piece} {f : Flow} {e : Event} {out : Option Ret}
  {o t : TaskId}

theorem justWoken_iff {i : MutexId} :
    justWoken s i t = true ↔
      ∃ r, s.pending t = some (.mutexLock i r .woken) ∧ s.kernel.blockedOn t = none := by
  unfold justWoken
  split
  · rename_i j r hPending
    rw [Bool.and_eq_true, beq_iff_eq, Option.isNone_iff_eq_none, hPending]
    constructor
    · rintro ⟨rfl, hLeft⟩
      exact ⟨r, rfl, hLeft⟩
    · rintro ⟨r', hSame, hLeft⟩
      cases hSame
      exact ⟨rfl, hLeft⟩
  · rename_i hOther
    constructor
    · rintro ⟨⟩
    · rintro ⟨r, hPending, _⟩
      exact absurd hPending (hOther i r)

theorem Repairs.pending (h : Repairs s o t) :
    ∃ i r st, s.pending t = some (.mutexLock i r st) := by
  cases h <;> exact ⟨_, _, _, ‹_›⟩

theorem Repairs.unblocked (h : Repairs s o t) (hLocks : Locks s) :
    s.kernel.blockedOn t = none := by
  cases h with
  | woken _ hLeft => exact hLeft
  | visit hPending => exact hLocks.recomputes_free hPending rfl
  | scanned hPending => exact hLocks.recomputes_free hPending rfl
  | written hPending => exact hLocks.recomputes_free hPending rfl

theorem Repairs.other (h : Repairs s o t) (hLate : (s.kernel.userTasks t).timeout = true)
    (hLocks : Locks s) (hFree : s.kernel.current.currentState ≠ .blocked)
    (hSection : Section s.kernel piece k' f) (hRuns : Runs s e piece)
    (hRepair : RepairsGoOn ⟨s, e, out, s'⟩) (ht : t ≠ s.kernel.currentTask) :
    Settled (s.afterPiece k' f) o := by
  have hSame : (s.afterPiece k' f).pending t = s.pending t := by
    rw [pending_afterPiece hSection, if_neg ht]
  obtain ⟨hLeft', hLate'⟩ : k'.blockedOn t = none ∧ (k'.userTasks t).timeout = true := by
    have hLeft := h.unblocked hLocks
    obtain ⟨hOn, hTimeout, _⟩ | ⟨w, hOn, _⟩ :=
      (hSection.reblocks hLocks.sound.waiting.listed).task hLocks.sound.waiting fun _ => ht
    · exact ⟨hOn.trans hLeft, hTimeout.trans hLate⟩
    · exact absurd (hLeft.symm.trans hOn) (by simp)
  cases h with
  | @woken i r hPending hLeft hOwner =>
    obtain hKept | hExact | ⟨rfl, rfl, hEmpty, hRanks, hNext⟩ :=
      hLocks.ownerOf_kept hSection hFree hOwner
    · exact .inr ⟨t, .woken (hSame.trans hPending) hLeft' hKept, hLate'⟩
    · exact .inl hExact
    · cases hRuns
      have hLt := (hLocks.sound.pending_user hPending).2.trans_le
        hLocks.sound.waiting.taskCount_le
      have hScan := hRepair.unlock hOwner hEmpty hLt (justWoken_iff.mpr ⟨r, hPending, hLeft⟩)
      have hExact : ExactAt s.kernel s.kernel.currentTask := hLocks.exactAt_of_scan hScan
      left
      dsimp only [Sys.afterPiece]
      rw [ExactAt, hRanks.base, hRanks.eff, hNext]
      exact hExact
  | visit hPending => exact .inr ⟨t, .visit (hSame.trans hPending), hLate'⟩
  | scanned hPending => exact .inr ⟨t, .scanned (hSame.trans hPending), hLate'⟩
  | written hPending hNext =>
    obtain hKept | hExact := hLocks.nextOwner_kept hSection hFree hNext
    · exact .inr ⟨t, .written (hSame.trans hPending) hKept, hLate'⟩
    · exact .inl hExact

theorem Repairs.own (h : Repairs s o s.kernel.currentTask)
    (hLate : s.kernel.current.timeout = true) (hLocks : Locks s)
    (hSection : Section s.kernel piece k' f) (hRuns : Runs s e piece)
    (hPre : AcyclicWaits s.kernel) (hFresh : FreshWrite ⟨s, e, out, s'⟩)
    (hRepair : RepairsGoOn ⟨s, e, out, s'⟩) : Settled (s.afterPiece k' f) o := by
  have hPending' : (s.afterPiece k' f).pending s.kernel.currentTask = f.rest := by
    rw [pending_afterPiece hSection, if_pos rfl]
  obtain ⟨i, r, st, hPending⟩ := h.pending
  cases hRuns with
  | call hFree =>
    rw [hPending] at hFree
    cases hFree
  | resume hRest =>
    obtain rfl := Option.some.inj (hRest.symm.trans hPending)
    have hStage : ∀ {i' r' st'}, s.pending s.kernel.currentTask = some (.mutexLock i' r' st') →
        i' = i ∧ r' = r ∧ st' = st := by
      intro i' r' st' hOther
      rw [hPending] at hOther
      cases hOther
      exact ⟨rfl, rfl, rfl⟩
    cases h with
    | @woken m r' hWoken _ hOwner =>
      obtain ⟨rfl, rfl, rfl⟩ := hStage hWoken
      obtain ⟨_, hNext, rfl, rfl⟩ | ⟨_, _, _, hOther, _⟩ | ⟨hOther, _⟩ := hSection.lock_cases
      · cases hNext with
        | start =>
          have hVisit := congrArg (fun o => some (Pending.mutexLock m r' (.visit o 0))) hOwner
          exact .inr ⟨_, .visit (hPending'.trans hVisit), hLate⟩
      · cases hOther
      · cases hOther
    | visit hVisit =>
      obtain ⟨rfl, rfl, rfl⟩ := hStage hVisit
      obtain ⟨_, hNext, rfl, rfl⟩ | ⟨_, _, _, hOther, _⟩ | ⟨hOther, _⟩ := hSection.lock_cases
      · cases hNext with
        | scan => exact .inr ⟨_, .scanned hPending', hLate⟩
        | roundsEnd hRounds =>
          exact .inl (hLocks.exactAt_of_scan (hRepair.rounds hPending hRounds))
      · cases hOther
      · cases hOther
    | scanned hScanned =>
      obtain ⟨rfl, rfl, rfl⟩ := hStage hScanned
      exact .inl (hLocks.exactAt_write hSection (.resume hPending) rfl hPre hFresh)
    | @written m r' w n hWritten hNext =>
      obtain ⟨rfl, rfl, rfl⟩ := hStage hWritten
      obtain ⟨_, hStep, rfl, rfl⟩ | ⟨_, _, _, hOther, _⟩ | ⟨hOther, _⟩ := hSection.lock_cases
      · cases hStep with
        | next =>
          have hVisit := congrArg (fun o => some (Pending.mutexLock m r' (.visit o (n + 1)))) hNext
          exact .inr ⟨_, .visit (hPending'.trans hVisit), hLate⟩
        | ownerFree hReason =>
          rw [nextOwner_of_reason hLocks.sound.waiting hReason] at hNext
          cases hNext
      · cases hOther
      · cases hOther

/-- Who recomputes a task that waits for another has timed out. -/
theorem Locks.late_of_write (h : Locks s) {i : MutexId} {r : OsErr} {w : TaskId} {n v : Nat}
    (hPending : s.pending s.kernel.currentTask = some (.mutexLock i r (.scanned w n v)))
    (hNext : nextOwner s.kernel w = some o) : s.kernel.current.timeout = true := by
  by_contra hNot
  have hSelf : w = s.kernel.currentTask :=
    h.own_target hPending rfl (Bool.eq_false_of_not_eq_true hNot)
  have hNone : nextOwner s.kernel w = none :=
    nextOwner_eq_none (by simp [hSelf, h.recomputes_free hPending rfl])
  exact absurd (hNone.symm.trans hNext) (by simp)

/-- A piece of the running task's code leaves every task exact or about to be repaired. -/
theorem Settled.afterPiece (h : Settled s o) (hLocks : Locks s)
    (hRun : s.kernel.pendSV = false) (hSection : Section s.kernel piece k' f)
    (hRuns : Runs s e piece) (hPre : AcyclicWaits s.kernel) (hPost : AcyclicWaits k')
    (hFresh : FreshWrite ⟨s, e, out, s'⟩) (hRepair : RepairsGoOn ⟨s, e, out, s'⟩) :
    Settled (s.afterPiece k' f) o := by
  have hFree := hLocks.sound.current_free hRun
  obtain hExact | ⟨t, hRepairs, hLate⟩ := h
  · obtain hKept | ⟨i, r, w, n, v, rfl, hNext⟩ :=
      hLocks.exactAt_kept hSection hFree hRuns hPre hPost hFresh hExact
    · exact .inl hKept
    · obtain ⟨_, hStage, _⟩ | ⟨_, _, _, hStage, rfl, rfl⟩ | ⟨hStage, _⟩ := hSection.lock_cases
      · cases hStage
      · cases hStage
        have hPending' : (s.afterPiece (s.kernel.setEffectivePriority w v)
            (.suspended (.mutexLock i r (.written w n)))).pending s.kernel.currentTask =
              some (.mutexLock i r (.written w n)) := by
          rw [pending_afterPiece hSection, if_pos rfl]
          rfl
        have hRanks := Reranked.setEffectivePriority s.kernel w v
        have hLate : s.kernel.current.timeout = true := by
          cases hRuns with
          | resume hPending => exact hLocks.late_of_write hPending hNext
        refine .inr ⟨_, .written hPending' ?_, hRanks.timeout.trans hLate⟩
        dsimp only [Sys.afterPiece]
        rw [hRanks.nextOwner]
        exact hNext
      · cases hStage
  · by_cases ht : t = s.kernel.currentTask
    · subst ht
      exact hRepairs.own hLate hLocks hSection hRuns hPre hFresh hRepair
    · exact hRepairs.other hLate hLocks hFree hSection hRuns hRepair ht

theorem Repairs.congr (h : Repairs s o t) (hPending : s'.pending = s.pending)
    (hOwner : s'.kernel.ownerOf = s.kernel.ownerOf)
    (hNext : nextOwner s'.kernel = nextOwner s.kernel)
    (hLeft : s.kernel.blockedOn t = none → s'.kernel.blockedOn t = none) : Repairs s' o t := by
  cases h with
  | woken hWoken hFree hHolder =>
    exact .woken (hPending ▸ hWoken) (hLeft hFree) (hOwner ▸ hHolder)
  | visit hVisit => exact .visit (hPending ▸ hVisit)
  | scanned hScanned => exact .scanned (hPending ▸ hScanned)
  | written hWritten hStill => exact .written (hPending ▸ hWritten) (hNext ▸ hStill)

theorem Settled.congr (h : Settled s o) (hLocks : Locks s) (hRanks : SameRanks s.kernel k')
    (hOwner : k'.ownerOf = s.kernel.ownerOf) (hNext : nextOwner k' = nextOwner s.kernel)
    (hLeft : ∀ t, s.kernel.blockedOn t = none →
      k'.blockedOn t = none ∧ (k'.userTasks t).timeout = (s.kernel.userTasks t).timeout) :
    Settled { s with kernel := k' } o := by
  obtain hExact | ⟨t, hRepairs, hLate⟩ := h
  · left
    dsimp only
    rw [ExactAt, hRanks.base, hRanks.eff, hNext]
    exact hExact
  · exact .inr ⟨t, hRepairs.congr rfl hOwner hNext fun hNone => (hLeft t hNone).1,
      (hLeft t (hRepairs.unblocked hLocks)).2.trans hLate⟩

theorem Locks.nextOwner_tick (h : Locks s) {w : TaskId} (hNext : nextOwner s.kernel w = some o) :
    nextOwner (osTick s.kernel) w = some o ∨
      Repairs { s with kernel := osTick s.kernel } o w ∧
        ((osTick s.kernel).userTasks w).timeout = true := by
  obtain ⟨i, hOn, hOwner⟩ := nextOwner_eq_some.mp hNext
  have hTicked := h.sound.waiting.updateTickCount.ticked_unblockTasks
  have hOwner' : (osTick s.kernel).ownerOf i = some o := by
    rw [show (osTick s.kernel).ownerOf = s.kernel.ownerOf from hTicked.ownerOf]
    exact hOwner
  obtain hSame | ⟨_, hWoken⟩ := hTicked.tasks w
  · left
    have hTask : (osTick s.kernel).userTasks w = s.kernel.userTasks w := hSame
    refine nextOwner_eq_some.mpr ⟨i, ?_, hOwner'⟩
    rw [Kernel.blockedOn, hTask]
    exact hOn
  · right
    have hTask : (osTick s.kernel).userTasks w = _ := hWoken
    obtain ⟨rest, hPending, hWaits⟩ := h.sound.pending_waits hOn
    cases rest with
    | mutexLock j r st =>
      simp only [Pending.waitsOn] at hWaits
      split at hWaits
      · rename_i hStage
        obtain ⟨rfl, rfl⟩ := hStage
        cases hWaits
        refine ⟨.woken hPending ?_ hOwner', ?_⟩
        · rw [Kernel.blockedOn, hTask]
          rfl
        · have hSome : ((updateTickCount s.kernel).blockedOn w).isSome = true :=
            congrArg Option.isSome hOn
          rw [hTask, hSome]
          rfl
      · cases hWaits
    | _ => cases hWaits

theorem Repairs.tick (h : Repairs s o t) (hLocks : Locks s) :
    (osTick s.kernel).userTasks t = s.kernel.userTasks t := by
  obtain hSame | ⟨hReached, _⟩ :=
    hLocks.sound.waiting.updateTickCount.ticked_unblockTasks.tasks t
  · exact hSame
  · obtain ⟨_, _, _, hPending⟩ := h.pending
    exact absurd hReached.1 (hLocks.sound.not_blocked hPending (by simp) (h.unblocked hLocks))

theorem Settled.afterTick (h : Settled s o) (hLocks : Locks s) :
    Settled { s with kernel := osTick s.kernel } o := by
  have hTicked := hLocks.sound.waiting.updateTickCount.ticked_unblockTasks
  have hBase : (osTick s.kernel).base = s.kernel.base := hTicked.base
  have hEff : (osTick s.kernel).eff = s.kernel.eff := hTicked.eff
  have hOwner : (osTick s.kernel).ownerOf = s.kernel.ownerOf := hTicked.ownerOf
  by_cases hRepairs : ∃ t, Repairs { s with kernel := osTick s.kernel } o t ∧
      ((osTick s.kernel).userTasks t).timeout = true
  · exact .inr hRepairs
  · left
    obtain hExact | ⟨t, hOld, hLate⟩ := h
    · have hKept : ∀ w, nextOwner (osTick s.kernel) w = some o ↔ nextOwner s.kernel w = some o := by
        intro w
        constructor
        · intro hNext
          obtain ⟨i, hOn, hHolder⟩ := nextOwner_eq_some.mp hNext
          rw [hOwner] at hHolder
          exact nextOwner_eq_some.mpr ⟨i, (hTicked.blockedOn_eq_some hOn).1, hHolder⟩
        · intro hNext
          exact (hLocks.nextOwner_tick hNext).resolve_right fun hNew => hRepairs ⟨w, hNew⟩
      dsimp only
      rw [ExactAt, hBase, hEff]
      exact Exact.congr hExact hKept (fun _ _ => rfl) rfl
    · refine absurd ?_ hRepairs
      have hTask := hOld.tick hLocks
      have hLate' : ((osTick s.kernel).userTasks t).timeout = true := by
        rw [hTask]
        exact hLate
      cases hOld with
      | woken hPending hFree hHolder =>
        refine ⟨t, .woken hPending ?_ (hOwner ▸ hHolder), hLate'⟩
        rw [Kernel.blockedOn, hTask]
        exact hFree
      | visit hPending => exact ⟨t, .visit hPending, hLate'⟩
      | scanned hPending => exact ⟨t, .scanned hPending, hLate'⟩
      | written hPending hNext =>
        obtain hKept | hNew := hLocks.nextOwner_tick hNext
        · exact ⟨t, .written hPending hKept, hLate'⟩
        · exact ⟨_, hNew⟩

theorem Settled.afterIsr {c : ApiCall} {err : OsErr} {data : List U8} (h : Settled s o)
    (hLocks : Locks s) (hSection : Section s.kernel (.call c) k' (.returned err data))
    (hQueue : (∃ queue item, c = .queueSend queue item 0) ∨
      ∃ queue itemNull, c = .queueRecv queue itemNull 0) :
    Settled { s with kernel := k' } o := by
  have hOwning := hSection.sameOwning_isr hQueue
  have hInherits := (hLocks.evolves_isr hSection
    (by obtain ⟨_, _, rfl⟩ | ⟨_, _, rfl⟩ := hQueue <;> exact fun _ => nofun)).2
  have hStill : k'.eff = s.kernel.eff ∧ nextOwner k' = nextOwner s.kernel := by
    obtain ⟨queue, item, rfl⟩ | ⟨queue, itemNull, rfl⟩ := hQueue <;>
    · cases hInherits with
      | still hEff hNext => exact ⟨hEff, hNext⟩
  refine h.congr hLocks ⟨hSection.base, hStill.1⟩ hOwning.ownerOf hStill.2 fun t hNone => ?_
  obtain ⟨hOn, hTimeout, _⟩ | ⟨w, hOn, _⟩ :=
    (hSection.reblocks hLocks.sound.waiting.listed).task hLocks.sound.waiting (t := t)
      fun hRest => absurd rfl hRest
  · exact ⟨hOn.trans hNone, hTimeout⟩
  · exact absurd (hNone.symm.trans hOn) (by simp)

theorem Settled.afterCreate {c : CreateCall} {err : OsErr} (h : Settled s o) (hLocks : Locks s)
    (hFresh : s.created.fresh c = true) (hCreation : Creation s.kernel c k' err) :
    Settled (s.afterCreate c k' err) o := by
  have hOn := blockedOn_creation hLocks.sound.waiting hCreation
  have hOwner := hLocks.ownerOf_creation hFresh hCreation
  have hNext : nextOwner k' = nextOwner s.kernel := nextOwner_congr hOn hOwner
  obtain hExact | ⟨t, hRepairs, hLate⟩ := h
  · left
    dsimp only [Sys.afterCreate]
    rw [ExactAt, hNext]
    obtain hRanks | ⟨p, _, hBase, hEff⟩ := ranks_creation hCreation
    · rw [hRanks.base, hRanks.eff]
      exact hExact
    · rw [hBase, hEff]
      exact Exact.join hLocks.next_absent.1 hLocks.next_absent.2 fun _ => hExact
  · refine .inr ⟨t, hRepairs.congr rfl hOwner hNext fun hNone => ?_, ?_⟩
    · dsimp only [Sys.afterCreate]
      rw [hOn]
      exact hNone
    · obtain ⟨_, _, _, hPending⟩ := hRepairs.pending
      dsimp only [Sys.afterCreate]
      rw [userTasks_creation_old hCreation (hLocks.sound.pending_user hPending).2]
      exact hLate

theorem Settled.afterMove (h : Settled s o) (hLocks : Locks s) (hMove : Move s e s' out)
    (hPre : AcyclicWaits s.kernel) (hPost : AcyclicWaits s'.kernel)
    (hFresh : FreshWrite ⟨s, e, out, s'⟩) (hRepair : RepairsGoOn ⟨s, e, out, s'⟩) :
    Settled s' o := by
  cases hMove with
  | create _ _ hNew hCreation => exact h.afterCreate hLocks hNew hCreation
  | call hRun hFree _ hSection =>
    exact h.afterPiece hLocks hRun hSection (.call hFree) hPre hPost hFresh hRepair
  | resume hRun hPending hSection =>
    exact h.afterPiece hLocks hRun hSection (.resume hPending) hPre hPost hFresh hRepair
  | @isrSend queue _ k' err _ _ hSection =>
    have hAfter := h.afterIsr hLocks hSection (.inl ⟨_, _, rfl⟩)
    split
    · have hQuiet := quiet_countDropped k' queue
      exact hAfter.congr (hLocks.afterIsr hSection (.inl ⟨_, _, rfl⟩))
        (.of_userTasks hQuiet.userTasks) hQuiet.ownerOf
        (nextOwner_congr hQuiet.blockedOn hQuiet.ownerOf) fun t hNone =>
          ⟨hQuiet.blockedOn ▸ hNone, by rw [hQuiet.userTasks]⟩
    · exact hAfter
  | isrRecv _ hSection => exact h.afterIsr hLocks hSection (.inr ⟨_, _, rfl⟩)
  | tick => exact h.afterTick hLocks
  | pendSV =>
    have hSame : SameButStates { s.kernel with pendSV := false } (pendSVHandler s.kernel) :=
      sameButStates_osScheduleNextTask
    exact h.congr hLocks ⟨hSame.base, hSame.eff⟩ hSame.ownerOf
      (nextOwner_congr hSame.blockedOn hSame.ownerOf) fun t hNone =>
        ⟨hSame.blockedOn ▸ hNone, hSame.timeout⟩

end Going

theorem settled_of_boot {image : Image} {calls : List CreateCall} {start : Sys} {o : TaskId}
    (h : boot image calls = some start) : Settled start o := by
  have hRank := (ranks_of_boot h).2 o
  refine .inl ⟨.inl hRank, ?_⟩
  rw [nextOwner_of_boot h]
  rintro p (rfl | ⟨w, hw, _⟩)
  · exact hRank.le
  · cases hw

end KoRTOS
