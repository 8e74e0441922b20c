import KoRTOS.Conditions
import KoRTOS.Invariant.Moves
import KoRTOS.Invariant.Ticks

/-!
# The invariant of all well-used runs

As long as the idle task makes no call that blocks, every reachable state is
`Sound`: the representation of blocking is consistent, a task that waits is
inside the call that made it wait, and the running task is not blocked unless a
switch is pending.
-/

namespace KoRTOS

def Pending.uses : Pending → Option WaitlistRef
  | .taskDelay => none
  | .semWait i => some (.sem i)
  | .mutexLock i _ _ => some (.mutex i)
  | .queueSend q _ _ _ => some (.queueSend q)
  | .queueRecv q _ _ => some (.queueRecv q)

/-- The waitlist that a call in progress can be blocked on. -/
def Pending.waitsOn : Pending → Option WaitlistRef
  | .taskDelay => none
  | .semWait i => some (.sem i)
  | .mutexLock i r st => if r = .ok ∧ st = .woken then some (.mutex i) else none
  | .queueSend q _ _ _ => some (.queueSend q)
  | .queueRecv q _ _ => some (.queueRecv q)

theorem Pending.uses_of_waitsOn {rest : Pending} {w : WaitlistRef}
    (hWaits : rest.waitsOn = some w) : rest.uses = some w := by
  cases rest with
  | mutexLock i r st =>
    simp only [Pending.waitsOn] at hWaits
    split at hWaits
    · exact hWaits
    · cases hWaits
  | _ => exact hWaits

def Piece.uses : Piece → Option WaitlistRef
  | .call (.semWait sem _) => sem.map .sem
  | .call (.mutexLock mtx _) => mtx.map .mutex
  | .call (.queueSend queue _ _) => queue.map .queueSend
  | .call (.queueRecv queue _ _) => queue.map .queueRecv
  | .call _ => none
  | .rest p => p.uses

def PendingCreated (s : Sys) : Prop :=
  ∀ t rest w, s.pending t = some rest → rest.uses = some w → s.created.has w = true

structure Sound (s : Sys) : Prop where
  waiting : Waiting s.kernel
  current_lt : s.kernel.currentTask < s.kernel.taskCount
  current_free : s.kernel.pendSV = false → s.kernel.current.currentState ≠ .blocked
  pending_waits : ∀ {t w}, s.kernel.blockedOn t = some w →
    ∃ rest, s.pending t = some rest ∧ rest.waitsOn = some w
  pending_created : PendingCreated s
  lock_ok : ∀ {t i r st}, s.pending t = some (.mutexLock i r st) → r = .ok
  pending_user : ∀ {t rest}, s.pending t = some rest →
    t ≠ idleTaskIdx ∧ t < s.kernel.taskCount
  delay_pending : ∀ {t}, (s.kernel.userTasks t).blockReason = .delay →
    s.pending t = some .taskDelay

/-- What a piece of code does to who is blocked where. -/
inductive Reblocks (k : Kernel) : Kernel → Option Pending → Prop
  | same {k' rest} (h : SameBlocking k k') : Reblocks k k' rest
  | leave {k' rest w j t} (hj : ∃ hj : j < (k.waiters w).length, (k.waiters w)[j] = t)
      (h : SameBlocking (leaveWaitlist k w j t false) k') : Reblocks k k' rest
  | delay {n} (hUser : k.currentTask ≠ idleTaskIdx) :
      Reblocks k (delayCurrent k n) (some .taskDelay)
  | enter {k₀ w n rest} (h : SameBlocking k k₀) (hCurrent : k₀.currentTask = k.currentTask)
      (hWaits : rest.waitsOn = some w) :
      Reblocks k (enqueueCurrent k₀ w n w.blockReason) (some rest)

section Sections

variable {k k' : Kernel} {f : Flow} {w : WaitlistRef} {piece : Piece} {j : Nat} {t : TaskId}
  {b : Bool}

theorem SameBlocking.leaveWaitlist (h : SameBlocking k k') :
    SameBlocking (leaveWaitlist k w j t b) (leaveWaitlist k' w j t b) where
  taskCount := by simpa using h.taskCount
  currentState u := by
    rw [userTasks_leaveWaitlist, userTasks_leaveWaitlist]
    split
    · rfl
    · exact h.currentState u
  blockReason u := by
    rw [userTasks_leaveWaitlist, userTasks_leaveWaitlist]
    split
    · rfl
    · exact h.blockReason u
  wakeupTick u := by
    rw [userTasks_leaveWaitlist, userTasks_leaveWaitlist]
    split
    · rfl
    · exact h.wakeupTick u
  timeout u := by
    rw [userTasks_leaveWaitlist, userTasks_leaveWaitlist]
    split
    · rfl
    · exact h.timeout u
  blockedOn := by rw [blockedOn_leaveWaitlist, blockedOn_leaveWaitlist, h.blockedOn]
  waitlist := by
    funext w'
    rw [waitlist_leaveWaitlist, waitlist_leaveWaitlist, h.waitlist]

theorem Traffic.quiet {data : List U8} (h : Traffic k piece w k' data) : Quiet k k' := by
  cases h with
  | post => exact .refl k
  | push => exact .setQueue rfl rfl
  | pop => exact .setQueue rfl rfl

theorem releaseOwned_blocking {i : MutexId} :
    SameBlocking (leaveWaitlist k (.mutex i) j t false) (releaseOwned k i j t) :=
  SameBlocking.removeOwnedMutex.leaveWaitlist

theorem giveMutex_blocking {i : MutexId} : SameBlocking k (giveMutex k i t) :=
  SameBlocking.pushOwnedMutex.trans (.setOwner _ _)

theorem owner_releaseOwned {i i' : MutexId} :
    ((releaseOwned k i j t).mutexes i').owner = (k.mutexes i').owner := by
  rw [releaseOwned, releaseTask_eq, owner_leaveWaitlist, Kernel.mutexes_modifyTask]

theorem owner_giveMutex {i i' : MutexId} :
    ((giveMutex k i t).mutexes i').owner = if i' = i then some t else (k.mutexes i').owner := by
  rw [giveMutex, Kernel.owner_setOwner, Kernel.mutexes_modifyTask]

theorem handOff_eq {i : MutexId} :
    handOff k i j t =
      mutexRecomputeOwnerPriority
        (giveMutex (mutexRecomputeOwnerPriority (releaseOwned k i j t) (k.mutexes i).owner) i t)
        (some t) := by
  unfold handOff
  dsimp only
  rw [owner_giveMutex, if_pos rfl, owner_releaseOwned]

theorem handOff_blocking {i : MutexId} :
    SameBlocking (leaveWaitlist k (.mutex i) j t false) (handOff k i j t) := by
  have hRecompute := fun k o => (Reranked.mutexRecomputeOwnerPriority k o).sameBlocking
  rw [handOff_eq]
  refine releaseOwned_blocking.trans ?_
  refine (hRecompute _ (k.mutexes i).owner).trans ?_
  refine (giveMutex_blocking (i := i) (t := t)).trans ?_
  exact hRecompute _ _

theorem quiet_takeToken {i : SemId} : Quiet k (takeToken k i) := Quiet.setSemaphore rfl

theorem quiet_addToken {i : SemId} : Quiet k (addToken k i) := Quiet.setSemaphore rfl

theorem quiet_countDropped (k : Kernel) (queue : Option QueueId) :
    Quiet k (countDropped k queue) := by
  cases queue with
  | none => exact .refl k
  | some q => exact .setQueue rfl rfl

theorem acquire_blocking {i : MutexId} : SameBlocking k (acquire k i) :=
  SameBlocking.pushOwnedMutex.trans (.setOwner _ _)

theorem free_blocking {i : MutexId} : SameBlocking k (free k i) :=
  SameBlocking.removeOwnedMutex.trans (.setOwner _ _)

theorem Blocks.waitsOn {n : U32} {rest : Pending} (h : Blocks k piece w n rest) :
    rest.waitsOn = some w := by
  cases h <;> rfl

theorem Section.reblocks (h : Listed k) (hs : Section k piece k' f) : Reblocks k k' f.rest := by
  cases hs with
  | refuse => exact .same (SameShape.refl k).sameBlocking
  | take => exact .same quiet_takeToken.sameBlocking
  | post => exact .same quiet_addToken.sameBlocking
  | serve hTraffic => exact .same hTraffic.quiet.sameBlocking
  | @wake _ w k₁ _ j t hTraffic hChosen =>
    have hQuiet := hTraffic.quiet
    have hj := (h.congr hQuiet.sameBlocking).chosen hChosen
    rw [hQuiet.waiters] at hj
    refine .leave hj ?_
    exact hQuiet.sameBlocking.leaveWaitlist.trans (SameShape.portYield _).sameBlocking
  | acquire => exact .same acquire_blocking
  | free => exact .same free_blocking
  | handOff _ hChosen =>
    exact .leave (h.chosen hChosen)
      (handOff_blocking.trans (SameShape.portYield _).sameBlocking)
  | delay hUser => exact .delay hUser
  | block hBlocks => exact .enter (SameShape.refl k).sameBlocking rfl hBlocks.waitsOn
  | lockBlock =>
    have hRanks := Reranked.mutexDonatePriority k
    exact .enter (w := .mutex _) (hRanks _).sameBlocking (hRanks _).currentTask rfl
  | lockFull => exact .same (Reranked.mutexDonatePriority k _).sameBlocking
  | stage => exact .same (SameShape.refl k).sameBlocking
  | write => exact .same (Reranked.setEffectivePriority _ _ _).sameBlocking

@[simp] theorem currentTask_handOff {i : MutexId} :
    (handOff k i j t).currentTask = k.currentTask := by
  have hRecompute := fun k o => (Reranked.mutexRecomputeOwnerPriority k o).currentTask
  simp [handOff, hRecompute, giveMutex, releaseOwned, releaseTask_eq]

@[simp] theorem taskCount_handOff {i : MutexId} :
    (handOff k i j t).taskCount = k.taskCount := by
  have hRecompute := fun k o => (Reranked.mutexRecomputeOwnerPriority k o).taskCount
  simp [handOff, hRecompute, giveMutex, releaseOwned, releaseTask_eq]

theorem Section.current (hs : Section k piece k' f) :
    k'.currentTask = k.currentTask ∧ k'.taskCount = k.taskCount := by
  cases hs with
  | serve hTraffic => exact ⟨hTraffic.quiet.currentTask, hTraffic.quiet.taskCount⟩
  | wake hTraffic =>
    rw [releaseTask_eq]
    simp [hTraffic.quiet.currentTask, hTraffic.quiet.taskCount]
  | handOff => simp
  | lockBlock =>
    have hRanks := Reranked.mutexDonatePriority k
    simp [(hRanks _).currentTask, (hRanks _).taskCount]
  | lockFull =>
    have hRanks := Reranked.mutexDonatePriority k
    exact ⟨(hRanks _).currentTask, (hRanks _).taskCount⟩
  | block => exact ⟨currentTask_enqueueCurrent, taskCount_enqueueCurrent⟩
  | _ => exact ⟨rfl, rfl⟩

theorem Section.systickCount (hs : Section k piece k' f) : k'.systickCount = k.systickCount := by
  cases hs with
  | serve hTraffic => exact hTraffic.quiet.systickCount
  | wake hTraffic =>
    rw [releaseTask_eq]
    simp [hTraffic.quiet.systickCount]
  | handOff =>
    have hRecompute := fun k o => (Reranked.mutexRecomputeOwnerPriority k o).systickCount
    simp [KoRTOS.handOff, hRecompute, giveMutex, releaseOwned, releaseTask_eq]
  | lockBlock =>
    have hRanks := Reranked.mutexDonatePriority k
    simp [(hRanks _).systickCount]
  | lockFull => exact (Reranked.mutexDonatePriority k _).systickCount
  | write => exact (Reranked.setEffectivePriority _ _ _).systickCount
  | block => simp
  | _ => rfl

theorem Section.current_free (hs : Section k piece k' f)
    (hFree : k.current.currentState ≠ .blocked) (hRun : k'.pendSV = false) :
    k'.current.currentState ≠ .blocked := by
  have hCurrent := hs.current.1
  unfold Kernel.current at hFree ⊢
  rw [hCurrent]
  cases hs with
  | serve hTraffic =>
    rw [hTraffic.quiet.userTasks]
    exact hFree
  | acquire =>
    rw [acquire_blocking.currentState]
    exact hFree
  | free =>
    rw [free_blocking.currentState]
    exact hFree
  | lockFull =>
    rw [(Reranked.mutexDonatePriority k _).currentState]
    exact hFree
  | write =>
    rw [(Reranked.setEffectivePriority k _ _).currentState]
    exact hFree
  | wake => cases hRun
  | handOff => cases hRun
  | delay => cases hRun
  | block => cases hRun
  | lockBlock => cases hRun
  | _ => exact hFree

theorem Section.pendSV (hs : Section k piece k' f) (hRun : k'.pendSV = false) :
    k.pendSV = false := by
  cases hs with
  | serve hTraffic =>
    rw [← hTraffic.quiet.pendSV]
    exact hRun
  | lockFull =>
    rw [← (Reranked.mutexDonatePriority k _).pendSV]
    exact hRun
  | wake => cases hRun
  | handOff => cases hRun
  | delay => cases hRun
  | block => cases hRun
  | lockBlock => cases hRun
  | _ => exact hRun

theorem Blocks.uses {n : U32} {rest : Pending} (h : Blocks k piece w n rest) :
    rest.uses = piece.uses := by
  cases h with
  | sem => rfl
  | send hPiece => cases hPiece <;> rfl
  | recv hPiece => cases hPiece <;> rfl

theorem Section.uses {rest : Pending} (hs : Section k piece k' f) (hRest : f.rest = some rest) :
    rest.uses = piece.uses := by
  cases hs with
  | block hBlocks =>
    cases hRest
    exact hBlocks.uses
  | refuse => cases hRest
  | take => cases hRest
  | post => cases hRest
  | serve => cases hRest
  | wake => cases hRest
  | acquire => cases hRest
  | free => cases hRest
  | handOff => cases hRest
  | _ =>
    cases hRest
    rfl

end Sections

section Pending

variable {s s' : Sys} {k' : Kernel} {piece : Piece} {f : Flow} {t : TaskId} {w : WaitlistRef}

theorem pending_afterPiece (hSection : Section s.kernel piece k' f) :
    (s.afterPiece k' f).pending t =
      if t = s.kernel.currentTask then f.rest else s.pending t := by
  rw [Sys.afterPiece, hSection.current.1]
  exact Function.update_apply ..

theorem has_of_hasOptional {objects : Objects} (g : Nat → WaitlistRef) {o : Option Nat}
    (hAllowed : Objects.hasOptional (fun i => objects.has (g i)) o = true)
    (hUses : o.map g = some w) : objects.has w = true := by
  cases o with
  | none => cases hUses
  | some i =>
    cases hUses
    exact hAllowed

theorem uses_allowed {c : ApiCall} {objects : Objects} (hAllowed : objects.allows c = true)
    (hUses : (Piece.call c).uses = some w) : objects.has w = true := by
  cases c with
  | semWait => exact has_of_hasOptional .sem hAllowed hUses
  | mutexLock => exact has_of_hasOptional .mutex hAllowed hUses
  | queueSend => exact has_of_hasOptional .queueSend hAllowed hUses
  | queueRecv => exact has_of_hasOptional .queueRecv hAllowed hUses
  | _ => cases hUses

theorem PendingCreated.afterPiece (h : PendingCreated s)
    (hSection : Section s.kernel piece k' f)
    (hCreated : ∀ w, piece.uses = some w → s.created.has w = true) :
    PendingCreated (s.afterPiece k' f) := by
  intro t rest w hPending hUses
  rw [pending_afterPiece hSection] at hPending
  split at hPending
  · exact hCreated w (hSection.uses hPending ▸ hUses)
  · exact h _ _ _ hPending hUses

theorem PendingCreated.afterMove {e : Event} {out : Option Ret} (h : PendingCreated s)
    (hMove : Move s e s' out) : PendingCreated s' := by
  cases hMove with
  | create =>
    intro t rest w hPending hUses
    have hHas := h _ _ _ hPending hUses
    rw [Sys.afterCreate]
    dsimp only
    split
    · exact has_add hHas
    · exact hHas
  | call _ _ hAllowed hSection =>
    exact h.afterPiece hSection fun w hUses => uses_allowed hAllowed hUses
  | resume _ hPending hSection =>
    exact h.afterPiece hSection fun w hUses => h _ _ _ hPending hUses
  | isrSend => exact h
  | isrRecv => exact h
  | tick => exact h
  | pendSV => exact h

end Pending

section Kept

variable {k k' : Kernel} {rest : Option Pending} {t : TaskId} {w : WaitlistRef}

theorem blockedOn_delayCurrent {n : U32} : (delayCurrent k n).blockedOn = k.blockedOn := by
  funext t
  rw [delayCurrent, (SameShape.portYield _).blockedOn, Kernel.blockedOn,
    Kernel.userTasks_modifyTask]
  split
  · subst t
    rfl
  · rfl

theorem Reblocks.waiting (hr : Reblocks k k' rest) (h : Waiting k)
    (hLt : k.currentTask < k.taskCount)
    (hUser : rest ≠ none →
      k.currentTask ≠ idleTaskIdx ∧ k.current.currentState ≠ .blocked) : Waiting k' := by
  cases hr with
  | same hSame => exact h.congr hSame
  | leave hj hSame => exact (h.afterLeave hj).congr hSame
  | delay hIdle =>
    have hNone : k.blockedOn k.currentTask = none :=
      h.free_of_not_blocked (hUser (by simp)).2
    exact (h.modifyTask hNone (by exact hNone) (.inl ⟨hIdle, hLt, rfl, rfl⟩)).congr
      (SameShape.portYield _).sameBlocking
  | @enter k₀ w n rest hSame hCurrent =>
    obtain ⟨hIdle, hFree⟩ := hUser (by simp)
    apply (h.congr hSame).afterEnqueue
    · rw [hCurrent]
      exact hIdle
    · rw [hCurrent, hSame.taskCount]
      exact hLt
    · rw [hCurrent, hSame.blockedOn]
      exact h.free_of_not_blocked hFree

theorem Section.lock_ok {i : MutexId} {r : OsErr} {st : LockStage} {f : Flow} {piece : Piece}
    (h : Waiting k) (hs : Section k piece k' f) (hRest : f.rest = some (.mutexLock i r st))
    (hPiece : ∀ i r st, piece = .rest (.mutexLock i r st) → r = .ok) : r = .ok := by
  cases hs with
  | block hBlocks => cases hBlocks <;> cases hRest
  | lockBlock =>
    cases hRest
    rfl
  | lockFull _ _ _ hFull => exact absurd h.waitCount_lt (Nat.not_lt.mpr hFull)
  | stage =>
    cases hRest
    exact hPiece _ _ _ rfl
  | write =>
    cases hRest
    exact hPiece _ _ _ rfl
  | _ => cases hRest

theorem Reblocks.blockedOn (hr : Reblocks k k' rest) (ht : k'.blockedOn t = some w) :
    k.blockedOn t = some w ∨ (t = k.currentTask ∧ ∃ r, rest = some r ∧ r.waitsOn = some w) := by
  cases hr with
  | same hSame =>
    rw [hSame.blockedOn] at ht
    exact .inl ht
  | leave hj hSame =>
    rw [hSame.blockedOn, blockedOn_leaveWaitlist, Function.update_apply] at ht
    split at ht
    · cases ht
    · exact .inl ht
  | delay hUser =>
    rw [blockedOn_delayCurrent] at ht
    exact .inl ht
  | enter hSame hCurrent hWaits =>
    rw [blockedOn_enqueueCurrent, Function.update_apply, hCurrent, hSame.blockedOn] at ht
    split at ht
    · cases ht
      exact .inr ⟨‹_›, _, rfl, hWaits⟩
    · exact .inl ht

theorem Reblocks.other (hr : Reblocks k k' rest) (hne : rest ≠ none → t ≠ k.currentTask) :
    (k'.blockedOn t = k.blockedOn t ∧
      (k'.userTasks t).timeout = (k.userTasks t).timeout ∧
      (k'.userTasks t).wakeupTick = (k.userTasks t).wakeupTick ∧
      (k'.userTasks t).currentState = (k.userTasks t).currentState) ∨
    (∃ w, t ∈ k.waiters w ∧ k'.blockedOn t = none ∧
      (k'.userTasks t).timeout = false ∧ (k'.userTasks t).currentState = .ready) := by
  cases hr with
  | same hSame =>
    exact .inl ⟨congrFun hSame.blockedOn t, hSame.timeout t, hSame.wakeupTick t,
      hSame.currentState t⟩
  | @leave _ _ w j u hj hSame =>
    rw [hSame.blockedOn, hSame.timeout, hSame.wakeupTick, hSame.currentState,
      blockedOn_leaveWaitlist, userTasks_leaveWaitlist, Function.update_apply]
    by_cases hEq : t = u
    · obtain ⟨hj, hu⟩ := hj
      have hMem : t ∈ k.waiters w := by
        rw [hEq, ← hu]
        exact List.getElem_mem hj
      rw [if_pos hEq, if_pos hEq]
      exact .inr ⟨w, hMem, rfl, rfl, rfl⟩
    · rw [if_neg hEq, if_neg hEq]
      exact .inl ⟨rfl, rfl, rfl, rfl⟩
  | delay =>
    left
    rw [blockedOn_delayCurrent, delayCurrent, Kernel.userTasks_portYield,
      Kernel.userTasks_modifyTask, if_neg (hne (by simp))]
    exact ⟨rfl, rfl, rfl, rfl⟩
  | enter hSame hCurrent =>
    have hne := hne (by simp)
    left
    rw [blockedOn_enqueueCurrent, userTasks_enqueueCurrent, hCurrent, if_neg hne,
      Function.update_of_ne hne]
    exact ⟨congrFun hSame.blockedOn t, hSame.timeout t, hSame.wakeupTick t, hSame.currentState t⟩

theorem Reblocks.task (hr : Reblocks k k' rest) (h : Waiting k)
    (hne : rest ≠ none → t ≠ k.currentTask) :
    (k'.blockedOn t = k.blockedOn t ∧
      (k'.userTasks t).timeout = (k.userTasks t).timeout ∧
      (k'.userTasks t).wakeupTick = (k.userTasks t).wakeupTick ∧
      (k'.userTasks t).currentState = (k.userTasks t).currentState) ∨
    (∃ w, k.blockedOn t = some w ∧ k'.blockedOn t = none ∧
      (k'.userTasks t).timeout = false ∧ (k'.userTasks t).currentState = .ready) := by
  rcases hr.other hne with hSame | ⟨w, hMem, hLeft⟩
  · exact .inl hSame
  · exact .inr ⟨w, h.mem_waiters.mp hMem, hLeft⟩

theorem Reblocks.waiters_cases (hr : Reblocks k k' rest) (h : Listed k) (w : WaitlistRef) :
    (k'.waiters w).Sublist (k.waiters w) ∨
      (rest ≠ none ∧ k'.waiters w = k.waiters w ++ [k.currentTask]) := by
  cases hr with
  | same hSame =>
    rw [hSame.waiters]
    exact .inl (List.Sublist.refl _)
  | leave hj hSame =>
    rw [hSame.waiters, h.leave hj.1, Function.update_apply]
    split
    · subst w
      exact .inl (List.eraseIdx_sublist _ _)
    · exact .inl (List.Sublist.refl _)
  | delay =>
    rw [delayCurrent, (SameShape.portYield _).waiters, Kernel.waiters, Kernel.waitlist_modifyTask,
      Kernel.waiters]
    exact .inl (List.Sublist.refl _)
  | enter hSame hCurrent =>
    rw [waiters_enqueueCurrent (h.congr hSame), Function.update_apply, hSame.waiters, hCurrent]
    split
    · subst w
      exact .inr ⟨by simp, rfl⟩
    · exact .inl (List.Sublist.refl _)

theorem Reblocks.waiters (hr : Reblocks k k' rest) (h : Listed k)
    (hne : rest ≠ none → t ≠ k.currentTask) (ht : t ∈ k'.waiters w) : t ∈ k.waiters w := by
  obtain hSub | ⟨hRest, hEnd⟩ := hr.waiters_cases h w
  · exact hSub.subset ht
  · rw [hEnd] at ht
    obtain ht | ht := List.mem_append.mp ht
    · exact ht
    · exact absurd (List.mem_singleton.mp ht) (hne hRest)

theorem Reblocks.delayed (hr : Reblocks k k' rest)
    (ht : (k'.userTasks t).blockReason = .delay) :
    (k.userTasks t).blockReason = .delay ∨ (t = k.currentTask ∧ rest = some .taskDelay) := by
  cases hr with
  | same hSame =>
    rw [hSame.blockReason] at ht
    exact .inl ht
  | leave hj hSame =>
    rw [hSame.blockReason, userTasks_leaveWaitlist] at ht
    split at ht
    · cases ht
    · exact .inl ht
  | delay hUser =>
    by_cases hEq : t = k.currentTask
    · exact .inr ⟨hEq, rfl⟩
    · left
      rw [delayCurrent, Kernel.userTasks_portYield, Kernel.userTasks_modifyTask,
        if_neg hEq] at ht
      exact ht
  | @enter k₀ w _ _ hSame hCurrent =>
    rw [userTasks_enqueueCurrent] at ht
    split at ht
    · cases w <;> cases ht
    · rw [hSame.blockReason] at ht
      exact .inl ht

theorem blockedOn_creation (h : Waiting k) {c : CreateCall} {err : OsErr}
    (hCreation : Creation k c k' err) : k'.blockedOn = k.blockedOn := by
  funext t
  rcases userTasks_creation hCreation with ⟨hTasks, _⟩ | ⟨_, _, _, _, _, _, hTasks⟩
  · rw [Kernel.blockedOn, hTasks, Kernel.blockedOn]
  · rw [Kernel.blockedOn, hTasks]
    split
    · rename_i hNew
      cases hOn : k.blockedOn t with
      | none => rfl
      | some w => exact absurd (h.blocked hOn).2.1 (hNew ▸ Nat.lt_irrefl _)
    · rfl

namespace Sound

variable {s s' : Sys} {piece : Piece} {f : Flow} {e : Event} {out : Option Ret}

theorem idle_pending (h : Sound s) : s.pending idleTaskIdx = none := by
  cases hPending : s.pending idleTaskIdx with
  | none => rfl
  | some rest => exact absurd rfl (h.pending_user hPending).1

theorem afterPiece (h : Sound s) (hRun : s.kernel.pendSV = false)
    (hSection : Section s.kernel piece k' f)
    (hCreated : PendingCreated (s.afterPiece k' f))
    (hLock : ∀ i r st, piece = .rest (.mutexLock i r st) → r = .ok)
    (hUser : f.rest ≠ none → s.kernel.currentTask ≠ idleTaskIdx) :
    Sound (s.afterPiece k' f) := by
  have hFree := h.current_free hRun
  have hReblocks := hSection.reblocks h.waiting.listed
  obtain ⟨hCurrent, hCount⟩ := hSection.current
  refine ⟨hReblocks.waiting h.waiting h.current_lt fun hRest => ⟨hUser hRest, hFree⟩,
    ?_, hSection.current_free hFree, ?_, hCreated, ?_, ?_, ?_⟩
  · rw [Sys.afterPiece, hCurrent, hCount]
    exact h.current_lt
  · intro t w ht
    rw [pending_afterPiece hSection]
    rcases hReblocks.blockedOn ht with hOn | ⟨rfl, hWaits⟩
    · have hne : t ≠ s.kernel.currentTask := by
        rintro rfl
        exact hFree (h.waiting.blocked hOn).2.2.1
      rw [if_neg hne]
      exact h.pending_waits hOn
    · rw [if_pos rfl]
      exact hWaits
  · intro t i r st hPending
    rw [pending_afterPiece hSection] at hPending
    split at hPending
    · exact hSection.lock_ok h.waiting hPending hLock
    · exact h.lock_ok hPending
  · intro t rest hPending
    rw [pending_afterPiece hSection] at hPending
    rw [Sys.afterPiece, hCount]
    split at hPending
    · rename_i hEq
      rw [hEq]
      exact ⟨hUser (by simp [hPending]), h.current_lt⟩
    · exact h.pending_user hPending
  · intro t ht
    rw [pending_afterPiece hSection]
    rcases hReblocks.delayed ht with hDelayed | ⟨rfl, hRest⟩
    · have hne : t ≠ s.kernel.currentTask := by
        rintro rfl
        have hNone : s.kernel.current.blockReason = .none := h.waiting.reason_none hFree
        exact absurd (hDelayed.symm.trans hNone) (by simp)
      rw [if_neg hne]
      exact h.delay_pending hDelayed
    · rw [if_pos rfl]
      exact hRest

theorem afterIsr {err : OsErr} {data : List U8} (h : Sound s)
    (hSection : Section s.kernel piece k' (.returned err data)) :
    Sound { s with kernel := k' } := by
  have hReblocks := hSection.reblocks h.waiting.listed
  obtain ⟨hCurrent, hCount⟩ := hSection.current
  refine ⟨hReblocks.waiting h.waiting h.current_lt fun hRest => absurd rfl hRest, ?_, ?_, ?_,
    h.pending_created, h.lock_ok, ?_, ?_⟩
  · dsimp only
    rw [hCurrent, hCount]
    exact h.current_lt
  · intro hRun
    exact hSection.current_free (h.current_free (hSection.pendSV hRun)) hRun
  · intro t w ht
    rcases hReblocks.blockedOn ht with hOn | ⟨_, _, hRest, _⟩
    · exact h.pending_waits hOn
    · cases hRest
  · intro t rest hPending
    dsimp only
    rw [hCount]
    exact h.pending_user hPending
  · intro t ht
    rcases hReblocks.delayed ht with hDelayed | ⟨_, hRest⟩
    · exact h.delay_pending hDelayed
    · cases hRest

theorem congr (h : Sound s) (hSame : SameBlocking s.kernel k')
    (hCurrent : k'.currentTask = s.kernel.currentTask) (hRun : k'.pendSV = s.kernel.pendSV) :
    Sound { s with kernel := k' } where
  waiting := h.waiting.congr hSame
  current_lt := by
    rw [hCurrent, hSame.taskCount]
    exact h.current_lt
  current_free hPendSV := by
    rw [Kernel.current, hCurrent, hSame.currentState]
    exact h.current_free (hRun ▸ hPendSV)
  pending_waits ht := h.pending_waits (hSame.blockedOn ▸ ht)
  pending_created := h.pending_created
  lock_ok := h.lock_ok
  pending_user hPending := by
    dsimp only
    rw [hSame.taskCount]
    exact h.pending_user hPending
  delay_pending ht := h.delay_pending (hSame.blockReason _ ▸ ht)

theorem afterTick (h : Sound s) : Sound { s with kernel := osTick s.kernel } := by
  have hTicked := h.waiting.updateTickCount.ticked_unblockTasks
  refine ⟨h.waiting.afterTick, ?_, ?_, ?_, h.pending_created, h.lock_ok, ?_, ?_⟩
  · have hCount : (osTick s.kernel).taskCount = s.kernel.taskCount := hTicked.taskCount
    have hCurrent : (osTick s.kernel).currentTask = s.kernel.currentTask := hTicked.currentTask
    dsimp only
    rw [hCount, hCurrent]
    exact h.current_lt
  · intro hRun
    cases hRun
  · intro t w ht
    exact h.pending_waits (hTicked.blockedOn_eq_some ht).1
  · intro t rest hPending
    have hCount : (osTick s.kernel).taskCount = s.kernel.taskCount := hTicked.taskCount
    dsimp only
    rw [hCount]
    exact h.pending_user hPending
  · intro t ht
    have ht : ((unblockTasks (updateTickCount s.kernel)).userTasks t).blockReason = .delay := ht
    rcases hTicked.tasks t with hSame | ⟨_, hWoken⟩
    · rw [hSame] at ht
      exact h.delay_pending ht
    · rw [hWoken] at ht
      cases ht

theorem afterPendSV (h : Sound s) : Sound { s with kernel := pendSVHandler s.kernel } := by
  have hWaiting : Waiting { s.kernel with pendSV := false } :=
    h.waiting.congr (.of_userTasks rfl rfl (by funext w; cases w <;> rfl))
  have hSame := sameButStates_osScheduleNextTask (k := { s.kernel with pendSV := false })
  exact {
    waiting := hWaiting.afterSchedule h.current_lt
    current_lt := currentTask_schedule_lt (k := { s.kernel with pendSV := false }) h.current_lt
    current_free := fun _ => hWaiting.schedule_current h.current_lt
    pending_waits := fun ht => h.pending_waits (by
      rw [pendSVHandler, hSame.blockedOn] at ht
      exact ht)
    pending_created := h.pending_created
    lock_ok := h.lock_ok
    pending_user := fun hPending => by
      have hCount : (pendSVHandler s.kernel).taskCount = s.kernel.taskCount := hSame.taskCount
      dsimp only
      rw [hCount]
      exact h.pending_user hPending
    delay_pending := fun ht => h.delay_pending (by
      rw [pendSVHandler, hSame.blockReason] at ht
      exact ht) }

theorem not_blocked (h : Sound s) {rest : Pending} (hPending : s.pending t = some rest)
    (hRest : rest ≠ .taskDelay) (hOn : s.kernel.blockedOn t = none) :
    (s.kernel.userTasks t).currentState ≠ .blocked := by
  rcases h.waiting.unlisted hOn with ⟨_, _, _, hDelay⟩ | ⟨hFree, _⟩
  · rw [h.delay_pending hDelay] at hPending
    exact absurd (Option.some.inj hPending).symm hRest
  · exact hFree

theorem waiters_absent (h : Sound s) (hAbsent : s.created.has w = false) :
    s.kernel.waiters w = [] := by
  apply List.eq_nil_iff_forall_not_mem.mpr
  intro t ht
  obtain ⟨rest, hPending, hWaits⟩ := h.pending_waits (h.waiting.mem_waiters.mp ht)
  have hUses := Pending.uses_of_waitsOn hWaits
  rw [h.pending_created _ _ _ hPending hUses] at hAbsent
  cases hAbsent

theorem waiters_creation (h : Sound s) {c : CreateCall} {err : OsErr}
    (hFresh : s.created.fresh c = true) (hCreation : Creation s.kernel c k' err) :
    k'.waiters = s.kernel.waiters ∧ ∀ w, (k'.waitlist w).Represents (k'.waiters w) := by
  have hEach : ∀ w, k'.waiters w = s.kernel.waiters w ∧
      (k'.waitlist w).Represents (k'.waiters w) := by
    intro w
    rcases waitlist_creation hCreation w with hEq | ⟨hAbsent, policy, hEq⟩
    · rw [Kernel.waiters, hEq]
      exact ⟨rfl, h.waiting.listed w⟩
    · rw [h.waiters_absent (hAbsent _ hFresh), Kernel.waiters, hEq, Waitlist.tasks_init]
      exact ⟨rfl, Waitlist.represents_init policy⟩
  exact ⟨funext fun w => (hEach w).1, fun w => (hEach w).2⟩

theorem waiting_creation (h : Sound s) {c : CreateCall} {err : OsErr}
    (hFresh : s.created.fresh c = true) (hCreation : Creation s.kernel c k' err) :
    Waiting k' := by
  have hOn := blockedOn_creation h.waiting hCreation
  obtain ⟨hWaiters, hListed⟩ := h.waiters_creation hFresh hCreation
  have hFibers : FiberLists.Fibers k'.blockedOn k'.waiters := by
    rw [hOn, hWaiters]
    exact h.waiting.fibers
  rcases userTasks_creation hCreation with
    ⟨hTasks, hCount⟩ | ⟨handler, sp, p, hRoom, _, hCount, hTasks⟩
  · refine ⟨hCount ▸ h.waiting.taskCount_pos, hCount ▸ h.waiting.taskCount_le, hListed, hFibers,
      ?_, ?_⟩
    · intro t w ht
      rw [hCount, hTasks]
      exact h.waiting.blocked (hOn ▸ ht)
    · intro t ht
      rw [hCount, hTasks]
      exact h.waiting.unlisted (hOn ▸ ht)
  · refine ⟨hCount ▸ Nat.succ_pos _, hCount ▸ hRoom, hListed, hFibers, ?_, ?_⟩
    · intro t w ht
      obtain ⟨hUser, hLt, hState⟩ := h.waiting.blocked (hOn ▸ ht)
      rw [hCount, hTasks, if_neg (Nat.ne_of_lt hLt)]
      exact ⟨hUser, Nat.lt_succ_of_lt hLt, hState⟩
    · intro t ht
      rw [hCount, hTasks]
      split
      · exact .inr ⟨by simp [freshTcb], rfl⟩
      · rcases h.waiting.unlisted (hOn ▸ ht) with ⟨hUser, hLt, hState⟩ | hState
        · exact .inl ⟨hUser, Nat.lt_succ_of_lt hLt, hState⟩
        · exact .inr hState

theorem afterCreate (h : Sound s) {c : CreateCall} {err : OsErr}
    (hFresh : s.created.fresh c = true) (hCreation : Creation s.kernel c k' err)
    (hCreated : PendingCreated (s.afterCreate c k' err)) : Sound (s.afterCreate c k' err) := by
  obtain ⟨hCurrent, hRun, _⟩ := current_creation hCreation
  have hTask := userTasks_creation_old hCreation h.current_lt
  have hCount := taskCount_creation hCreation
  refine ⟨h.waiting_creation hFresh hCreation, ?_, ?_, ?_, hCreated, h.lock_ok, ?_, ?_⟩
  · rw [Sys.afterCreate, hCurrent]
    exact Nat.lt_of_lt_of_le h.current_lt hCount
  · intro hPendSV
    rw [Sys.afterCreate, Kernel.current, hCurrent, hTask]
    exact h.current_free (hRun ▸ hPendSV)
  · intro t w ht
    exact h.pending_waits (blockedOn_creation h.waiting hCreation ▸ ht)
  · intro t rest hPending
    obtain ⟨hUser, hLt⟩ := h.pending_user hPending
    exact ⟨hUser, Nat.lt_of_lt_of_le hLt hCount⟩
  · intro t ht
    apply h.delay_pending
    have ht : (k'.userTasks t).blockReason = .delay := ht
    rcases userTasks_creation hCreation with ⟨hTasks, _⟩ | ⟨_, _, _, _, _, _, hTasks⟩
    · rw [hTasks] at ht
      exact ht
    · rw [hTasks] at ht
      split at ht
      · cases ht
      · exact ht

theorem afterMove (h : Sound s) (hMove : Move s e s' out)
    (hUser : UserBlocks ⟨s, e, out, s'⟩) : Sound s' := by
  have hCreated := h.pending_created.afterMove hMove
  cases hMove with
  | create _ _ hFresh hCreation => exact h.afterCreate hFresh hCreation hCreated
  | @call c _ f hRun _ _ hSection =>
    apply h.afterPiece hRun hSection hCreated
    · intro i r st hPiece
      cases hPiece
    · intro hRest
      cases f with
      | returned => exact absurd rfl hRest
      | suspended => exact hUser.user
  | resume hRun hPending hSection =>
    apply h.afterPiece hRun hSection hCreated
    · intro i r st hPiece
      cases hPiece
      exact h.lock_ok hPending
    · intro _ hIdle
      rw [hIdle, h.idle_pending] at hPending
      cases hPending
  | @isrSend queue item k' err data _ hSection =>
    have hIsr := h.afterIsr hSection
    split
    · have hQuiet := quiet_countDropped k' queue
      exact hIsr.congr hQuiet.sameBlocking hQuiet.currentTask hQuiet.pendSV
    · exact hIsr
  | isrRecv _ hSection => exact h.afterIsr hSection
  | tick => exact h.afterTick
  | pendSV => exact h.afterPendSV

end Sound
end Kept

theorem Booting.waiting {s : Sys} (h : Booting s) : Waiting s.kernel where
  taskCount_pos := h.taskCount_pos
  taskCount_le := h.taskCount_le
  listed w := by
    rw [Kernel.waiters, (h.empty w).tasks_eq]
    exact h.empty w
  fibers := by
    refine ⟨fun w => ?_, fun {t w} => ?_⟩
    · rw [Kernel.waiters, (h.empty w).tasks_eq]
      exact List.nodup_nil
    · rw [Kernel.waiters, (h.empty w).tasks_eq, Kernel.blockedOn, h.free t]
      simp
  blocked {t w} ht := by
    rw [Kernel.blockedOn, h.free] at ht
    cases ht
  unlisted {t} _ := .inr ⟨by simp [h.ready t], h.reason t⟩

theorem Booting.waiting_initIdleTask {s : Sys} (h : Booting s) (handler stack : U32) :
    Waiting (initIdleTask s.kernel handler stack) := by
  have hMemory : ∀ memory, Waiting { s.kernel with memory := memory } := fun memory =>
    h.waiting.congr (.of_userTasks rfl rfl (by funext w; cases w <;> rfl))
  unfold initIdleTask
  apply (hMemory _).modifyTask
  · exact h.free idleTaskIdx
  · rfl
  · exact .inr ⟨by simp, rfl⟩

theorem Booting.sound {s : Sys} (h : Booting s) (handler stack : U32) :
    Sound { s with kernel := osKernelStart s.kernel handler stack } := by
  have hWaiting := h.waiting_initIdleTask handler stack
  have hLt : (initIdleTask s.kernel handler stack).currentTask <
      (initIdleTask s.kernel handler stack).taskCount := by
    have hIdle : (initIdleTask s.kernel handler stack).currentTask = idleTaskIdx := h.currentTask
    rw [hIdle]
    exact h.taskCount_pos
  have hSame := sameButStates_osScheduleNextTask (k := initIdleTask s.kernel handler stack)
  refine ⟨hWaiting.afterSchedule hLt, currentTask_schedule_lt hLt,
    fun _ => hWaiting.schedule_current hLt, ?_, ?_, ?_, ?_, ?_⟩
  · intro t w ht
    have hFree : (initIdleTask s.kernel handler stack).blockedOn t = none := by
      rw [initIdleTask, Kernel.blockedOn, Kernel.userTasks_modifyTask]
      split
      · rfl
      · exact h.free t
    rw [osKernelStart, hSame.blockedOn, hFree] at ht
    cases ht
  · intro t rest w hPending
    rw [h.pending] at hPending
    cases hPending
  · intro t i r st hPending
    rw [h.pending] at hPending
    cases hPending
  · intro t rest hPending
    rw [h.pending] at hPending
    cases hPending
  · intro t ht
    rw [osKernelStart, hSame.blockReason, initIdleTask, Kernel.userTasks_modifyTask] at ht
    split at ht
    · cases ht
    · rw [h.reason] at ht
      cases ht

theorem sound_of_boot {image : Image} {calls : List CreateCall} {start : Sys}
    (h : boot image calls = some start) : Sound start := by
  obtain ⟨s, _, hBooting, rfl⟩ := boot_induction (P := fun _ _ => True) h trivial
    fun _ _ _ _ _ _ _ _ _ => trivial
  exact hBooting.sound _ _

theorem idle_of_boot {image : Image} {calls : List CreateCall} {start : Sys}
    (h : boot image calls = some start) :
    (∀ w, start.kernel.waiters w = []) ∧ ∀ t, start.pending t = none := by
  obtain ⟨s, _, hBooting, rfl⟩ := boot_induction (P := fun _ _ => True) h trivial
    fun _ _ _ _ _ _ _ _ _ => trivial
  refine ⟨fun w => ?_, hBooting.pending⟩
  have hWaiters : (osKernelStart s.kernel image.idleTaskHandler image.idleTaskStack).waiters =
      (initIdleTask s.kernel image.idleTaskHandler image.idleTaskStack).waiters :=
    sameButStates_osScheduleNextTask.waiters
  dsimp only
  rw [hWaiters]
  exact (hBooting.empty w).tasks_eq

theorem sound_of_run {start s : Sys} {trace : List Label} (hRun : Run start trace s)
    (hStart : Sound start) (hUser : ∀ l ∈ trace, UserBlocks l) : Sound s :=
  hRun.invariant hStart (fun _ hTaken hUser hPre => hPre.afterMove (move_of_step hTaken) hUser) hUser

theorem Reaches.sound {trace : List Label} {s : Sys} (h : Reaches trace s)
    (hUser : ∀ l ∈ trace, UserBlocks l) : Sound s := by
  obtain ⟨image, calls, start, hBoot, hRun⟩ := h
  exact sound_of_run hRun (sound_of_boot hBoot) hUser

end KoRTOS
