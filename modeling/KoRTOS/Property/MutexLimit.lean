import KoRTOS.Evaluation
import KoRTOS.Invariant.Entries
import KoRTOS.Invariant.Graph

/-!
# Room for owned mutexes

`owned_mutexes` has room for `OS_MAX_MTX_PER_TASK` mutexes, and neither a lock nor
a hand-off looks at `owned_mutex_count` before it writes. A task that waits for a
mutex owns no more when it is handed it than when it called, so the room is kept
if every task has some left when it asks for a mutex.
-/

namespace KoRTOS

/-- The index in `owned_mutexes` of its new owner at which a call writes a mutex. -/
def pushIndex (k : Kernel) : ApiCall → Option Nat
  | .mutexLock (some i) _ =>
    if (k.mutexes i).state = .unlocked then some k.current.ownedMutexCount else none
  | .mutexUnlock (some i) =>
    if (k.mutexes i).owner ≠ some k.currentTask then none
    else match waitlistUnblock (k.modifyTask k.currentTask (removeOwnedMutex i)) (.mutex i) with
      | some (k, some nextOwner) =>
        let k := mutexRecomputeOwnerPriority k (k.mutexes i).owner
        some (k.userTasks nextOwner).ownedMutexCount
      | _ => none
  | _ => none

/-- A task without room takes a mutex or goes to wait for one, or the idle task goes to wait. -/
def overreaches (l : Label) : Bool :=
  match l.event with
  | .call (.mutexLock (some i) timeout) =>
    let k := l.pre.kernel
    if (k.mutexes i).state = .unlocked then decide (osMaxMtxPerTask ≤ k.current.ownedMutexCount)
    else (k.mutexes i).owner != some k.currentTask && timeout != 0 &&
      (k.currentTask == idleTaskIdx || decide (osMaxMtxPerTask ≤ k.current.ownedMutexCount))
  | _ => false

/-- No task owns too many mutexes, and those that wait for one have room for it. -/
structure MutexRoom (k : Kernel) : Prop where
  owned_le : ∀ t, (k.userTasks t).ownedMutexCount ≤ osMaxMtxPerTask
  waiting : ∀ {i t}, t ∈ k.waiters (.mutex i) →
    t ≠ idleTaskIdx ∧ (k.userTasks t).ownedMutexCount < osMaxMtxPerTask

section Room

variable {k k' : Kernel} {t : TaskId} {i : MutexId} {j : Nat} {piece : Piece} {f : Flow}
  {s s' : Sys} {e : Event} {out : Option Ret}

theorem MutexRoom.mono (h : MutexRoom k)
    (hCount : ∀ t, (k'.userTasks t).ownedMutexCount ≤ (k.userTasks t).ownedMutexCount)
    (hWaiters : ∀ i t, t ∈ k'.waiters (.mutex i) → t ∈ k.waiters (.mutex i)) : MutexRoom k' where
  owned_le t := (hCount t).trans (h.owned_le t)
  waiting ht := by
    obtain ⟨hUser, hLt⟩ := h.waiting (hWaiters _ _ ht)
    exact ⟨hUser, (hCount _).trans_lt hLt⟩

theorem count_removeOwnedMutex_le (tcb : Tcb) :
    (removeOwnedMutex i tcb).ownedMutexCount ≤ tcb.ownedMutexCount := by
  unfold removeOwnedMutex
  split
  · exact Nat.sub_le _ _
  · exact le_rfl

theorem count_releaseOwned_le :
    ((releaseOwned k i j t).userTasks u).ownedMutexCount ≤ (k.userTasks u).ownedMutexCount := by
  rw [releaseOwned, releaseTask_eq, SameOwning.leaveWaitlist.count, Kernel.userTasks_modifyTask]
  split
  · subst u
    exact count_removeOwnedMutex_le _
  · exact le_rfl

theorem count_handOff_le :
    ((handOff k i j t).userTasks u).ownedMutexCount ≤
      (k.userTasks u).ownedMutexCount + if u = t then 1 else 0 := by
  rw [handOff_eq, (SameOwning.recompute _ _).count, giveMutex, Kernel.userTasks_setOwner,
    Kernel.userTasks_modifyTask]
  split
  · subst u
    rw [pushOwnedMutex, (SameOwning.recompute _ _).count]
    exact Nat.add_le_add_right count_releaseOwned_le 1
  · rw [(SameOwning.recompute _ _).count]
    exact count_releaseOwned_le

theorem MutexRoom.afterHandOff (h : MutexRoom k) (hEntries : UserEntries k)
    (hChosen : Chosen k (.mutex i) j t) : MutexRoom (handOff k i j t) := by
  obtain ⟨hj, hAt⟩ := hEntries.listed.chosen hChosen
  obtain ⟨hUser, hLt⟩ := h.waiting (hAt ▸ List.getElem_mem hj : t ∈ k.waiters (.mutex i))
  have hLeft := (hEntries.afterLeave (b := false) ⟨hj, hAt⟩).congr handOff_blocking
  have hGone : ∀ w, t ∉ (handOff k i j t).waiters w := by
    intro w hMem
    have hOn := (hLeft.blocked hUser hMem).2.1
    rw [handOff_blocking.blockedOn, blockedOn_leaveWaitlist, Function.update_self] at hOn
    cases hOn
  constructor
  · intro u
    have hu := count_handOff_le (k := k) (i := i) (j := j) (t := t) (u := u)
    split at hu
    · subst u
      omega
    · exact hu.trans (h.owned_le u)
  · intro m u hu
    have hne : u ≠ t := by
      rintro rfl
      exact hGone _ hu
    have hOld : u ∈ k.waiters (.mutex m) := by
      rw [handOff_blocking.waiters, hEntries.listed.leave hj, Function.update_apply] at hu
      split at hu
      · rename_i hEq
        exact hEq ▸ (List.eraseIdx_sublist _ _).subset hu
      · exact hu
    obtain ⟨huUser, huLt⟩ := h.waiting hOld
    have hCount := count_handOff_le (k := k) (i := i) (j := j) (t := t) (u := u)
    rw [if_neg hne, Nat.add_zero] at hCount
    exact ⟨huUser, hCount.trans_lt huLt⟩

theorem Section.waits_room (h : Listed k) (hs : Section k piece k' f)
    (hRoom : ∀ i n, piece = .call (.mutexLock (some i) n) → (k.mutexes i).state = .locked →
      (k.mutexes i).owner ≠ some k.currentTask → n ≠ 0 →
      k.currentTask ≠ idleTaskIdx ∧ k.current.ownedMutexCount < osMaxMtxPerTask)
    (ht : t ∈ k'.waiters (.mutex i)) :
    t ∈ k.waiters (.mutex i) ∨
      (t = k.currentTask ∧ t ≠ idleTaskIdx ∧ (k.userTasks t).ownedMutexCount < osMaxMtxPerTask) := by
  by_cases hEnds : f.rest = none
  · exact .inl ((hs.reblocks h).waiters h (absurd hEnds) ht)
  · by_cases hCurrent : t = k.currentTask
    · subst hCurrent
      cases hs with
      | lockBlock hLocked hOwner hTimeout =>
        exact .inr ⟨rfl, hRoom _ _ rfl hLocked hOwner hTimeout⟩
      | block hBlocks =>
        left
        rw [waiters_enqueueCurrent h, Function.update_apply] at ht
        split at ht
        · cases hBlocks <;> contradiction
        · exact ht
      | delay =>
        rw [delayCurrent, (SameShape.portYield _).waiters] at ht
        exact .inl ht
      | lockFull => exact .inl ((Reranked.mutexDonatePriority k _).waiters ▸ ht)
      | stage => exact .inl ht
      | write => exact .inl ((Reranked.setEffectivePriority k _ _).waiters ▸ ht)
      | _ => exact absurd rfl hEnds
    · exact .inl ((hs.reblocks h).waiters h (fun _ => hCurrent) ht)

theorem MutexRoom.afterSection (h : MutexRoom k) (hEntries : UserEntries k)
    (hs : Section k piece k' f)
    (hTakes : ∀ i n, piece = .call (.mutexLock (some i) n) → (k.mutexes i).state = .unlocked →
      k.current.ownedMutexCount < osMaxMtxPerTask ∧
        ∀ w, k.currentTask ∈ k.waiters w → k.currentTask = idleTaskIdx)
    (hWaits : ∀ i n, piece = .call (.mutexLock (some i) n) → (k.mutexes i).state = .locked →
      (k.mutexes i).owner ≠ some k.currentTask → n ≠ 0 →
      k.currentTask ≠ idleTaskIdx ∧ k.current.ownedMutexCount < osMaxMtxPerTask) :
    MutexRoom k' := by
  have hTransfer := hs.transfer
  cases hTransfer with
  | stay hSame =>
    constructor
    · intro t
      rw [hSame.count]
      exact h.owned_le t
    · intro i t ht
      rw [hSame.count]
      obtain hOld | ⟨_, hNew⟩ := hs.waits_room hEntries.listed hWaits ht
      · exact h.waiting hOld
      · exact hNew
  | @acquire i n hFree =>
    obtain ⟨hRoom, hAbsent⟩ := hTakes i n rfl hFree
    have hCount : ∀ t, ((acquire k i).userTasks t).ownedMutexCount =
        (k.userTasks t).ownedMutexCount + if t = k.currentTask then 1 else 0 := by
      intro t
      rw [acquire, Kernel.userTasks_setOwner, Kernel.userTasks_modifyTask]
      split
      · subst t
        rfl
      · rfl
    constructor
    · intro t
      rw [hCount]
      split
      · subst t
        exact hRoom
      · exact h.owned_le t
    · intro m t ht
      rw [acquire_blocking.waiters] at ht
      obtain ⟨hUser, hLt⟩ := h.waiting ht
      rw [hCount]
      split
      · subst t
        exact absurd (hAbsent _ ht) hUser
      · exact ⟨hUser, hLt⟩
  | free =>
    refine h.mono (fun t => ?_) fun i t ht => ?_
    · rw [KoRTOS.free, Kernel.userTasks_setOwner, Kernel.userTasks_modifyTask]
      split
      · subst t
        exact count_removeOwnedMutex_le _
      · exact le_rfl
    · exact free_blocking.waiters ▸ ht
  | handOff _ hChosen =>
    exact (h.afterHandOff hEntries hChosen).mono (fun _ => le_rfl) fun _ _ ht => ht

theorem ownedMutexCount_osTick :
    ((osTick k).userTasks t).ownedMutexCount = (k.userTasks t).ownedMutexCount := by
  have hTask : ∀ k i, ((unblockTask k i).userTasks t).ownedMutexCount =
      (k.userTasks t).ownedMutexCount := by
    intro k i
    unfold unblockTask removeFromWaitlist
    split
    · dsimp only
      split
      · split <;>
        · simp only [Kernel.userTasks_modifyTask, Kernel.userTasks_setWaitlist]
          split <;> simp [*]
      · simp only [Kernel.userTasks_modifyTask]
        split <;> simp [*]
    · rfl
  have hFold : ∀ (l : List TaskId) k, ((l.foldl unblockTask k).userTasks t).ownedMutexCount =
      (k.userTasks t).ownedMutexCount := by
    intro l
    induction l with
    | nil => exact fun _ => rfl
    | cons i l ih => exact fun k => (ih _).trans (hTask k i)
  rw [osTick, Kernel.userTasks_portYield, unblockTasks]
  split
  · rfl
  · exact hFold _ (updateTickCount k)

theorem MutexRoom.afterMove (h : MutexRoom s.kernel) (hSeated : Seated s.kernel)
    (hMove : Move s e s' out) (hReach : overreaches ⟨s, e, out, s'⟩ = false) :
    MutexRoom s'.kernel := by
  cases hMove with
  | create _ _ _ hCreation =>
    refine h.mono (fun t => ?_) fun i t ht => ?_
    · dsimp only [Sys.afterCreate]
      obtain ⟨hTasks, _⟩ | ⟨_, _, _, _, _, _, hTasks⟩ := userTasks_creation hCreation
      · rw [hTasks]
      · rw [hTasks]
        split <;> exact le_rfl
    · obtain hSame | hEmpty := waiters_creation hCreation (.mutex i)
      · exact hSame ▸ ht
      · rw [Sys.afterCreate, hEmpty] at ht
        cases ht
  | call hRun _ _ hSection =>
    have hAbsent : ∀ w, s.kernel.currentTask ∈ s.kernel.waiters w →
        s.kernel.currentTask = idleTaskIdx := fun w hMem =>
      of_not_not fun hUser => hSeated.entries.absent hUser (hSeated.current_free hRun hUser) hMem
    refine h.afterSection hSeated.entries hSection ?_ ?_
    · rintro i n ⟨⟩ hFree
      have hRoom : decide (osMaxMtxPerTask ≤ s.kernel.current.ownedMutexCount) = false := by
        simpa only [overreaches, hFree, if_true] using hReach
      exact ⟨Nat.lt_of_not_le (of_decide_eq_false hRoom), hAbsent⟩
    · rintro i n ⟨⟩ hLocked hOwner hTimeout
      have hWaits : n ≠ 0#32 := hTimeout
      simpa [overreaches, hLocked, hOwner, hWaits] using hReach
  | resume _ _ hSection => exact h.afterSection hSeated.entries hSection (by simp) (by simp)
  | @isrSend queue _ k' _ _ _ hSection =>
    have hAfter := h.afterSection hSeated.entries hSection (by simp) (by simp)
    split
    · have hQuiet := quiet_countDropped k' queue
      exact hAfter.mono (fun _ => hQuiet.ownedMutexCount.le) fun _ _ ht => hQuiet.waiters ▸ ht
    · exact hAfter
  | isrRecv _ hSection => exact h.afterSection hSeated.entries hSection (by simp) (by simp)
  | tick =>
    exact h.mono (fun _ => ownedMutexCount_osTick.le) fun i _ ht =>
      (hSeated.entries.afterTick.2 _).subset ht
  | pendSV =>
    have hSame : SameButStates { s.kernel with pendSV := false } (pendSVHandler s.kernel) :=
      sameButStates_osScheduleNextTask
    exact h.mono (fun _ => hSame.ownedMutexCount.le) fun _ _ ht => hSame.waiters ▸ ht

theorem MutexRoom.pushIndex_lt (h : MutexRoom s.kernel) (hSeated : Seated s.kernel) {c : ApiCall}
    (hReach : overreaches ⟨s, .call c, out, s'⟩ = false) {n : Nat}
    (hIndex : pushIndex s.kernel c = some n) : n < osMaxMtxPerTask := by
  unfold pushIndex at hIndex
  split at hIndex
  · split at hIndex
    · rename_i hFree
      cases hIndex
      have hRoom : decide (osMaxMtxPerTask ≤ s.kernel.current.ownedMutexCount) = false := by
        simpa only [overreaches, hFree, if_true] using hReach
      exact Nat.lt_of_not_le (of_decide_eq_false hRoom)
    · cases hIndex
  · rename_i i
    split at hIndex
    · cases hIndex
    · split at hIndex
      · rename_i k t hUnblock
        cases hIndex
        obtain ⟨_, _, hNone⟩ | ⟨j, _, ⟨⟩, hChosen, rfl⟩ := waitlistUnblock_cases hUnblock
        · cases hNone
        have hSame : SameRanks s.kernel
            (s.kernel.modifyTask s.kernel.currentTask (removeOwnedMutex i)) := .removeOwnedMutex
        obtain ⟨hj, hAt⟩ := hSeated.entries.listed.chosen
          (hChosen.congr Kernel.waitlist_modifyTask hSame.eff)
        have hRoom := (h.waiting (hAt ▸ List.getElem_mem hj : t ∈ _)).2
        rw [(SameOwning.recompute _ _).count]
        exact count_releaseOwned_le.trans_lt hRoom
      · cases hIndex
  · cases hIndex

end Room

theorem mutexRoom_of_boot {image : Image} {calls : List CreateCall} {start : Sys}
    (h : boot image calls = some start) : MutexRoom start.kernel := by
  have hWaiters := (idle_of_boot h).1
  obtain ⟨s, _, hBooting, rfl⟩ := boot_induction (P := fun _ _ => True) h trivial
    fun _ _ _ _ _ _ _ _ _ => trivial
  constructor
  · intro t
    have hSame := sameButStates_osScheduleNextTask
      (k := initIdleTask s.kernel image.idleTaskHandler image.idleTaskStack)
    have hNone : ((initIdleTask s.kernel image.idleTaskHandler image.idleTaskStack).userTasks
        t).ownedMutexCount = 0 := by
      rw [initIdleTask, Kernel.userTasks_modifyTask]
      split
      · subst t
        exact hBooting.unowning idleTaskIdx
      · exact hBooting.unowning t
    exact (hSame.ownedMutexCount.trans hNone).le.trans (Nat.zero_le _)
  · intro i t ht
    rw [hWaiters] at ht
    cases ht

/-- If every task has room for the mutexes it takes or waits for, then no task owns more than
`OS_MAX_MTX_PER_TASK` mutexes and none is written beyond the end of `owned_mutexes`. -/
theorem owned_mutexes_in_bounds {trace : List Label} {s : Sys} (h : Reaches trace s)
    (hRoom : ∀ l ∈ trace, overreaches l = false) :
    (∀ t, (s.kernel.userTasks t).ownedMutexCount ≤ osMaxMtxPerTask) ∧
    ∀ l ∈ trace, ∀ c n, l.event = .call c → pushIndex l.pre.kernel c = some n →
      n < osMaxMtxPerTask := by
  obtain ⟨image, calls, start, hBoot, hRun⟩ := h
  have hAll := hRun.historyInvariant
    (I := fun trace s => Seated s.kernel ∧ MutexRoom s.kernel ∧
      ∀ l ∈ trace, ∀ c n, l.event = .call c → pushIndex l.pre.kernel c = some n →
        n < osMaxMtxPerTask)
    (C := fun l => overreaches l = false)
    ⟨.of_sound (sound_of_boot hBoot), mutexRoom_of_boot hBoot, by simp⟩
    (fun trace l hTaken hC hPre => by
      obtain ⟨hSeated, hMutexRoom, hWrites⟩ := hPre
      have hMove := move_of_step hTaken
      refine ⟨hSeated.afterMove hMove, hMutexRoom.afterMove hSeated hMove hC, ?_⟩
      intro l' hl c n hEvent hIndex
      obtain hl | hl := List.mem_append.mp hl
      · exact hWrites l' hl c n hEvent hIndex
      · obtain rfl := List.mem_singleton.mp hl
        obtain ⟨pre, e, out, post⟩ := l'
        obtain rfl : e = .call c := hEvent
        exact hMutexRoom.pushIndex_lt hSeated hC hIndex)
    hRoom
  exact ⟨hAll.2.1.owned_le, hAll.2.2⟩

/-- Task 1 owns three mutexes when it waits for a fourth, which task 2 hands it. -/
theorem owned_mutexes_in_bounds_handedOver :
    ∃ trace s, Reaches trace s ∧ (s.kernel.userTasks 1).ownedMutexCount = 4 ∧
      ∀ t, (s.kernel.userTasks t).ownedMutexCount ≤ osMaxMtxPerTask := by
  have hCheck : checkBoot sampleImage
      [sampleTask 4, sampleTask 5, .mutex (some 0), .mutex (some 1), .mutex (some 2),
        .mutex (some 3)]
      [.call (.taskDelay 1), .pendSV, .call (.mutexLock (some 3) 0), .tick, .pendSV, .resume,
        .call (.mutexLock (some 0) 0), .call (.mutexLock (some 1) 0),
        .call (.mutexLock (some 2) 0), .call (.mutexLock (some 3) osWaitForever), .pendSV,
        .call (.mutexUnlock (some 3))]
      (fun l => !overreaches l) (fun s => (s.kernel.userTasks 1).ownedMutexCount == 4) = true := by
    decide +kernel
  obtain ⟨trace, s, hReaches, _, hEach, hFinal⟩ := reaches_of_checkBoot hCheck
  have hBounds := owned_mutexes_in_bounds hReaches fun l hl => by simpa using hEach l hl
  exact ⟨trace, s, hReaches, by simpa using hFinal, hBounds.1⟩

def pushesAt (n : Nat) (l : Label) : Bool :=
  match l.event with
  | .call c => pushIndex l.pre.kernel c == some n
  | _ => false

/-- A task locks five mutexes, and the last one is written behind the end of the array. -/
theorem owned_mutexes_overflow :
    ¬ ∀ trace s, Reaches trace s →
      (∀ t, (s.kernel.userTasks t).ownedMutexCount ≤ osMaxMtxPerTask) ∧
      ∀ l ∈ trace, ∀ c n, l.event = .call c → pushIndex l.pre.kernel c = some n →
        n < osMaxMtxPerTask := by
  intro hClaim
  have hTally : (boot sampleImage
      [sampleTask 4, .mutex (some 0), .mutex (some 1), .mutex (some 2), .mutex (some 3),
        .mutex (some 4)]).any
      (fun s => tallyRun (fun _ => true) (pushesAt osMaxMtxPerTask) 1 0 s
        [.call (.mutexLock (some 0) 0), .call (.mutexLock (some 1) 0),
          .call (.mutexLock (some 2) 0), .call (.mutexLock (some 3) 0),
          .call (.mutexLock (some 4) 0)]) = true := by
    decide +kernel
  obtain ⟨start, hBoot, hRuns⟩ := (Option.any_eq_true _ _).mp hTally
  obtain ⟨trace, s, hRun, _, hCount⟩ := run_of_tallyRun hRuns
  have hSome : 0 < trace.countP (pushesAt osMaxMtxPerTask) := by omega
  obtain ⟨l, hl, hPushes⟩ := List.countP_pos_iff.mp hSome
  unfold pushesAt at hPushes
  split at hPushes
  · rename_i c hEvent
    have hLt := (hClaim trace s ⟨_, _, start, hBoot, hRun⟩).2 l hl c _ hEvent
      (beq_iff_eq.mp hPushes)
    exact absurd hLt (lt_irrefl _)
  · cases hPushes

end KoRTOS
