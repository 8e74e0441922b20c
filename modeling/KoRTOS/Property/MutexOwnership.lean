import KoRTOS.Evaluation
import KoRTOS.Invariant.Ranks

/-!
# Ownership of mutexes

The two records of ownership agree, a mutex with waiters is handed to the most
urgent of them, and `os_mutex_lock` says truly whether its caller got the mutex.
-/

namespace KoRTOS

/-- Mutex `i` is one of the first `owned_mutex_count` entries of `t`, at index `j`. -/
def OwnedAt (k : Kernel) (t : TaskId) (i : MutexId) (j : Nat) : Prop :=
  j < (k.userTasks t).ownedMutexCount ∧ (k.userTasks t).ownedMutexes j = some i

structure OwnershipInvariant (k : Kernel) : Prop where
  unlocked_iff : ∀ i, (k.mutexes i).state = .unlocked ↔ (k.mutexes i).owner = none
  owner_iff : ∀ i t, (k.mutexes i).owner = some t ↔ ∃ j, OwnedAt k t i j
  once : ∀ i t t' j j', OwnedAt k t i j → OwnedAt k t' i j' → t' = t ∧ j' = j
  waiting_locked : ∀ i, (k.mutexes i).waitlist.waitCount ≠ 0 → (k.mutexes i).state = .locked

/-- `t` is the first of the waiters with the numerically smallest effective priority. -/
def FirstMostUrgent (k : Kernel) (w : WaitlistRef) (t : TaskId) : Prop :=
  ∃ j, (k.waiters w)[j]? = some t ∧ MostUrgent k (k.waiters w) j

/-- If the running task can unlock `i` and somebody waits, then it hands it over. -/
def HandsOver (s : Sys) (i : MutexId) : Prop :=
  s.kernel.pendSV = false → s.pending s.kernel.currentTask = none → s.created.mutex i = true →
  (s.kernel.mutexes i).owner = some s.kernel.currentTask →
  (s.kernel.mutexes i).waitlist.waitCount ≠ 0 →
    ∃ s' t, step s (.call (.mutexUnlock (some i))) = some (s', some ⟨.ok, []⟩) ∧
      FirstMostUrgent s.kernel (.mutex i) t ∧ (s'.kernel.mutexes i).owner = some t

/-- The running task's call of `os_mutex_lock` on `i` ends with this transition. -/
inductive LockReturns : Label → MutexId → OsErr → Prop
  | call {s s' i n err data} :
      LockReturns ⟨s, .call (.mutexLock (some i) n), some ⟨err, data⟩, s'⟩ i err
  | resume {s s' i r st err data}
      (hPending : s.pending s.kernel.currentTask = some (.mutexLock i r st)) :
      LockReturns ⟨s, .resume, some ⟨err, data⟩, s'⟩ i err

/-- `OS_OK` means that the caller owns the mutex, `OS_ERR_UNAVAILABLE` that it does not. -/
def TruthfulLock (l : Label) : Prop :=
  ∀ i err, LockReturns l i err →
    (err = .ok → (l.post.kernel.mutexes i).owner = some l.pre.kernel.currentTask) ∧
    (err = .unavailable → (l.post.kernel.mutexes i).owner ≠ some l.pre.kernel.currentTask)

section Records

variable {k : Kernel} {t : TaskId} {i : MutexId} {j : Nat}

theorem Owning.ownedAt_iff (h : Owning k) : OwnedAt k t i j ↔ (k.owned t)[j]? = some i := by
  have hOwns := h.listed t
  rw [OwnedAt, hOwns.count]
  constructor
  · rintro ⟨hj, hEntry⟩
    rw [← hOwns.entry j hj]
    exact hEntry
  · intro hGet
    have hj := (List.getElem?_eq_some_iff.mp hGet).1
    exact ⟨hj, (hOwns.entry j hj).trans hGet⟩

theorem Locks.ownershipInvariant {s : Sys} (h : Locks s) : OwnershipInvariant s.kernel where
  unlocked_iff := h.owning.unlocked
  owner_iff i t := by
    rw [show (s.kernel.mutexes i).owner = some t ↔ i ∈ s.kernel.owned t from
      h.owning.fibers.mem_iff.symm, List.mem_iff_getElem?]
    exact exists_congr fun j => h.owning.ownedAt_iff.symm
  once i t t' j j' hAt hAt' := by
    have hj := h.owning.ownedAt_iff.mp hAt
    have hj' := h.owning.ownedAt_iff.mp hAt'
    obtain rfl := h.owning.fibers.unique (List.mem_of_getElem? hj') (List.mem_of_getElem? hj)
    have hLt := (List.getElem?_eq_some_iff.mp hj').1
    exact ⟨rfl, (List.getElem?_inj hLt (h.owning.fibers.nodup t')).mp (hj'.trans hj.symm)⟩
  waiting_locked i hWaiters := by
    have hWaiting := h.sound.waiting
    obtain ⟨t, ht⟩ : ∃ t, t ∈ s.kernel.waiters (.mutex i) := by
      apply List.exists_mem_of_ne_nil
      intro hNil
      have hCount : (s.kernel.mutexes i).waitlist.waitCount = _ :=
        hWaiting.waitCount_eq (w := .mutex i)
      rw [hCount, hNil] at hWaiters
      exact hWaiters rfl
    cases hState : (s.kernel.mutexes i).state with
    | locked => rfl
    | unlocked =>
      exact absurd (hWaiting.mem_waiters.mp ht) (h.unwanted ((h.owning.unlocked i).mp hState) t)

end Records

section HandOff

variable {k : Kernel} {t : TaskId} {i : MutexId} {j : Nat} {s : Sys}

theorem osMutexUnlock_handOff (hOwner : (k.mutexes i).owner = some k.currentTask)
    (hChosen : Chosen k (.mutex i) j t) :
    osMutexUnlock k (some i) = some ((handOff k i j t).portYield, .ret .ok) := by
  have hRanks : SameRanks k (k.modifyTask k.currentTask (removeOwnedMutex i)) := .removeOwnedMutex
  have hChosen' : Chosen (k.modifyTask k.currentTask (removeOwnedMutex i)) (.mutex i) j t :=
    hChosen.congr (Kernel.waitlist_modifyTask).symm hRanks.eff.symm
  have hUnblock : waitlistUnblock (k.modifyTask k.currentTask (removeOwnedMutex i)) (.mutex i) =
      some (releaseOwned k i j t, some t) := by
    unfold waitlistUnblock
    dsimp only
    rw [if_neg hChosen'.waiting, hChosen'.select, Option.bind_eq_bind, Option.bind_some,
      hChosen'.entry]
    rfl
  simp only [osMutexUnlock, hOwner, ne_eq, not_true, if_false]
  exact Option.bind_eq_some_iff.mpr ⟨_, hUnblock, rfl⟩

theorem Locks.handsOver (h : Locks s) (hRanks : Ranks s) (i : MutexId) : HandsOver s i := by
  intro hRun hFree hCreated hOwner hWaiters
  have hWaiting := h.sound.waiting
  have hne : s.kernel.waiters (.mutex i) ≠ [] := by
    intro hNil
    have hCount : (s.kernel.mutexes i).waitlist.waitCount = _ :=
      hWaiting.waitCount_eq (w := .mutex i)
    rw [hCount, hNil] at hWaiters
    exact hWaiters rfl
  obtain ⟨j, hSelect, hUrgent⟩ := waitlistSelect_of_priority (hWaiting.listed (.mutex i))
    (h.policy hCreated) hne fun t ht =>
      hRanks.user (hWaiting.blocked (hWaiting.mem_waiters.mp ht)).1
  obtain ⟨t, ht, _⟩ := id hUrgent
  have hChosen : Chosen s.kernel (.mutex i) j t :=
    ⟨hWaiters, hSelect, (hWaiting.listed (.mutex i)).entry j ▸ ht⟩
  have hOwners := (h.owning.afterHandOff (j := j) (t := t) hOwner).2
  refine ⟨s.afterPiece (handOff s.kernel i j t).portYield (.ret .ok), t, ?_, ⟨j, ht, hUrgent⟩, ?_⟩
  · simp [step, hRun, hFree, Objects.allows, Objects.hasOptional, hCreated, runCall,
      osMutexUnlock_handOff hOwner hChosen, settle_eq, Flow.ret, Flow.result]
  · have hNew := congrFun hOwners i
    rw [Function.update_self] at hNew
    exact hNew

end HandOff

section Results

variable {s s' : Sys} {e : Event} {out : Option Ret} {k' : Kernel} {i : MutexId} {err : OsErr}
  {data : List U8} {n : U32}

theorem Locks.truthful_call (h : Locks s)
    (hs : Section s.kernel (.call (.mutexLock (some i) n)) k' (.returned err data)) :
    (err = .ok → k'.ownerOf i = some s.kernel.currentTask) ∧
    (err = .unavailable → k'.ownerOf i ≠ some s.kernel.currentTask) := by
  cases hs with
  | refuse hRefused =>
    cases hRefused with
    | recursive => exact ⟨nofun, nofun⟩
    | lockBusy _ hOwner => exact ⟨nofun, fun _ => hOwner⟩
    | listFull => exact ⟨nofun, nofun⟩
    | sendFull hPiece => cases hPiece.locks
    | recvEmpty hPiece => cases hPiece.locks
  | serve hTraffic => cases hTraffic.locks
  | wake hTraffic => cases hTraffic.locks
  | acquire hFree =>
    refine ⟨fun _ => ?_, nofun⟩
    rw [(h.owning.afterAcquire hFree).2, Function.update_self]

theorem Locks.truthful_rest (h : Locks s) (hRun : s.kernel.pendSV = false) {r : OsErr}
    {st : LockStage} (hPending : s.pending s.kernel.currentTask = some (.mutexLock i r st))
    (hs : Section s.kernel (.rest (.mutexLock i r st)) k' (.returned err data)) :
    (err = .ok → k'.ownerOf i = some s.kernel.currentTask) ∧
    (err = .unavailable → k'.ownerOf i ≠ some s.kernel.currentTask) := by
  have hOn : s.kernel.blockedOn s.kernel.currentTask = none :=
    h.sound.waiting.free_of_not_blocked (h.sound.current_free hRun)
  have hTruth := h.truth hPending hOn
  cases hs with
  | refuse hRefused =>
    cases hRefused with
    | lockOver =>
      unfold timeoutResult Kernel.current
      cases hTimeout : (s.kernel.userTasks s.kernel.currentTask).timeout with
      | false => exact ⟨fun _ => hTruth.mp hTimeout, nofun⟩
      | true =>
        refine ⟨nofun, fun _ hOwner => ?_⟩
        rw [hTruth.mpr hOwner] at hTimeout
        cases hTimeout
    | lockFailed hErr => exact absurd (h.sound.lock_ok hPending) hErr
    | sendFull hPiece => cases hPiece.locks
    | recvEmpty hPiece => cases hPiece.locks
    | listFull hBlocks => cases hBlocks.locks
  | serve hTraffic => cases hTraffic.locks
  | wake hTraffic => cases hTraffic.locks

theorem Locks.truthful (h : Locks s) (hMove : Move s e s' out) :
    TruthfulLock ⟨s, e, out, s'⟩ := by
  intro i err hReturns
  generalize hLabel : (⟨s, e, out, s'⟩ : Label) = l at hReturns
  cases hReturns with
  | call =>
    cases hLabel
    generalize hOut : some (⟨err, _⟩ : Ret) = out at hMove
    cases hMove with
    | @call _ k' f _ _ _ hSection =>
      cases f with
      | returned =>
        cases hOut
        exact h.truthful_call hSection
      | suspended => cases hOut
  | resume hPending =>
    cases hLabel
    generalize hOut : some (⟨err, _⟩ : Ret) = out at hMove
    cases hMove with
    | @resume _ k' f hRun hRest hSection =>
      rw [hPending] at hRest
      cases hRest
      cases f with
      | returned =>
        cases hOut
        exact h.truthful_rest hRun hPending hSection
      | suspended => cases hOut

end Results

/-- As long as the idle task does not block: ownership is recorded consistently, an unlock
hands the mutex to the most urgent waiter, and the results of `os_mutex_lock` are true. -/
theorem mutex_ownership_truthful {trace : List Label} {s : Sys} (h : Reaches trace s)
    (hUsed : ∀ l ∈ trace, WellUsed l) :
    OwnershipInvariant s.kernel ∧ (∀ i, HandsOver s i) ∧ ∀ l ∈ trace, TruthfulLock l := by
  have hUser : ∀ l ∈ trace, UserBlocks l := fun l hl => (hUsed l hl).1
  have hLocks := h.locks hUser
  refine ⟨hLocks.ownershipInvariant, hLocks.handsOver (h.ranks hUser), fun l hl => ?_⟩
  obtain ⟨image, calls, start, hBoot, hRun⟩ := h
  obtain ⟨hTaken, before, after, hTrace, hBefore⟩ := hRun.split hl
  have hPre : Locks l.pre := locks_of_run hBefore (locks_of_boot hBoot) fun l' hl' =>
    hUser l' (hTrace ▸ List.mem_append_left _ hl')
  exact hPre.truthful (move_of_step hTaken)

/-- Task 2 waits for the mutex of task 1, is handed it and returns with it. -/
theorem mutex_ownership_truthful_handedOver :
    ∃ trace s, Reaches trace s ∧ (s.kernel.mutexes 0).owner = some 2 ∧
      OwnershipInvariant s.kernel ∧ (∀ i, HandsOver s i) ∧ ∀ l ∈ trace, TruthfulLock l := by
  have hCheck : checkBoot sampleImage [sampleTask 5, sampleTask 4, .mutex (some 0)]
      [.call (.taskDelay 1), .pendSV, .call (.mutexLock (some 0) 0), .tick, .pendSV, .resume,
        .call (.mutexLock (some 0) osWaitForever), .pendSV, .call (.mutexUnlock (some 0)),
        .pendSV, .resume, .resume, .resume, .resume, .resume]
      (fun l => decide (WellUsed l)) (fun s => (s.kernel.mutexes 0).owner == some 2) = true := by
    decide +kernel
  obtain ⟨trace, s, hReaches, _, hUsed, hFinal⟩ := reaches_of_checkBoot hCheck
  have hTruthful := mutex_ownership_truthful hReaches fun l hl => of_decide_eq_true (hUsed l hl)
  exact ⟨trace, s, hReaches, by simpa using hFinal, hTruthful⟩

def aboutToReturn (s : Sys) (i : MutexId) : Bool :=
  match s.pending s.kernel.currentTask with
  | some (.mutexLock j .ok .recomputed) => j == i
  | _ => false

theorem step_aboutToReturn {s : Sys} {i : MutexId} (h : aboutToReturn s i = true)
    (hRun : s.kernel.pendSV = false) (hTimeout : s.kernel.current.timeout = false) :
    s.pending s.kernel.currentTask = some (.mutexLock i .ok .recomputed) ∧
      step s .resume = some (s.afterPiece s.kernel (.ret .ok), some ⟨.ok, []⟩) := by
  have hPending : s.pending s.kernel.currentTask = some (.mutexLock i .ok .recomputed) := by
    unfold aboutToReturn at h
    split at h
    · rename_i hPending
      rw [hPending, eq_of_beq h]
    · cases h
  refine ⟨hPending, ?_⟩
  simp [step, hRun, hPending, resumePending, resumeMutexLock, hTimeout, settle_eq, Flow.ret,
    Flow.result]

/-- The idle task blocks on a mutex that task 1 owns, is dispatched all the same, and is told
that the mutex is its own. -/
theorem mutex_lock_untrue :
    ¬ ∀ trace s, Reaches trace s → (∀ l ∈ trace, WithinMutexLimit l.post.kernel) →
      OwnershipInvariant s.kernel ∧ (∀ i, HandsOver s i) ∧ ∀ l ∈ trace, TruthfulLock l := by
  intro hClaim
  have hCheck : checkBoot sampleImage [sampleTask 1, .mutex (some 0)]
      [.call (.mutexLock (some 0) 0), .call (.taskDelay osWaitForever), .pendSV,
        .call (.mutexLock (some 0) osWaitForever), .pendSV, .resume, .resume, .resume, .resume]
      (fun l => decide (WithinMutexLimit l.post.kernel))
      (fun s => aboutToReturn s 0 && !s.kernel.pendSV && !s.kernel.current.timeout &&
        s.kernel.currentTask == 0 && (s.kernel.mutexes 0).owner == some 1 &&
        decide (WithinMutexLimit s.kernel)) = true := by
    decide +kernel
  obtain ⟨trace, s, hReaches, _, hUsed, hFinal⟩ := reaches_of_checkBoot hCheck
  simp only [Bool.and_eq_true, Bool.not_eq_true', beq_iff_eq, decide_eq_true_eq] at hFinal
  obtain ⟨⟨⟨⟨⟨hReturn, hRun⟩, hTimeout⟩, hIdle⟩, hOwner⟩, hLimit⟩ := hFinal
  obtain ⟨hPending, hStep⟩ := step_aboutToReturn hReturn hRun hTimeout
  let l : Label := ⟨s, .resume, some ⟨.ok, []⟩, s.afterPiece s.kernel (.ret .ok)⟩
  obtain ⟨image, calls, start, hBoot, hRun⟩ := hReaches
  have hAfter : Reaches (trace ++ [l]) l.post :=
    ⟨image, calls, start, hBoot, .snoc hRun hStep⟩
  have hLimits : ∀ l' ∈ trace ++ [l], WithinMutexLimit l'.post.kernel := by
    intro l' hl'
    obtain hl' | hl' := List.mem_append.mp hl'
    · exact of_decide_eq_true (hUsed l' hl')
    · obtain rfl := List.mem_singleton.mp hl'
      exact hLimit
  obtain ⟨_, _, hTruthful⟩ := hClaim _ _ hAfter hLimits
  have hReturns : LockReturns l 0 .ok := .resume hPending
  have hTold := (hTruthful l (by simp) 0 .ok hReturns).1 rfl
  have hOwner' : (l.post.kernel.mutexes 0).owner = some 1 := hOwner
  have hCaller : l.pre.kernel.currentTask = 0 := hIdle
  rw [hOwner', hCaller] at hTold
  cases hTold

end KoRTOS
