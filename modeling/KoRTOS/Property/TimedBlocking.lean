import KoRTOS.Evaluation
import KoRTOS.Invariant.Entries

/-!
# How long a time-out lasts

A task that blocks for `n` ticks stores the tick at which it is to wake, modulo
`2 ^ 32`, and a tick compares by the sign of the difference. The stored tick 0
means that the task never wakes, and a difference beyond half the range has the
wrong sign.
-/

namespace KoRTOS

def timeoutOf : ApiCall → Option U32
  | .taskDelay n => some n
  | .semWait _ n => some n
  | .mutexLock _ n => some n
  | _ => none

def isPostOrUnlock : Event → Bool
  | .call (.semPost _) => true
  | .call (.mutexUnlock _) => true
  | _ => false

def isTick : Event → Bool
  | .tick => true
  | _ => false

/-- Task `t` was blocked, and a post or an unlock has made it ready. -/
def ReleasedBy (t : TaskId) (l : Label) : Prop :=
  isPostOrUnlock l.event = true ∧ (l.pre.kernel.userTasks t).currentState = .blocked ∧
    (l.post.kernel.userTasks t).currentState ≠ .blocked

def ticks (trace : List Label) : Nat := trace.countP fun l => isTick l.event

/-- Unless a post or an unlock releases it, task `t` stays blocked through the first `m - 1`
ticks after `start` and is made ready by the next. -/
def Lasts (t : TaskId) (start : Sys) (m : Nat) : Prop :=
  ∀ trace s, Run start trace s → (∀ l ∈ trace, ¬ ReleasedBy t l) →
    (ticks trace < m → (s.kernel.userTasks t).currentState = .blocked) ∧
    (ticks trace + 1 = m → ((osTick s.kernel).userTasks t).currentState = .ready)

/-- The test of `unblock_tasks` is met `j` ticks after `systick_count` was `start`. -/
def Due (start wake : U32) (j : Nat) : Prop :=
  wake ≠ 0 ∧ 0 ≤ (start + BitVec.ofNat 32 j - wake).toInt

section Arithmetic

variable {start n : U32} {j : Nat}

theorem due_iff (hj : j < 2 ^ 32) : Due start (start + n) j ↔
    start + n ≠ 0 ∧ (n.toNat ≤ j ∧ j < n.toNat + 2 ^ 31 ∨ j + 2 ^ 31 < n.toNat) := by
  have hDiff : start + BitVec.ofNat 32 j - (start + n) = BitVec.ofNat 32 j - n := by
    bv_omega
  have hn := n.isLt
  rw [Due, hDiff, BitVec.toInt_eq_toNat_cond, BitVec.toNat_sub, BitVec.toNat_ofNat,
    Nat.mod_eq_of_lt hj]
  refine and_congr_right fun _ => ?_
  split <;> omega

theorem not_due_zero (h : start + n = 0) : ¬ Due start (start + n) j := fun hDue => hDue.1 h

theorem due_first (h : start + n ≠ 0) (hn : n.toNat ≤ 2 ^ 31 + 1) :
    Due start (start + n) (max n.toNat 1) ∧
      ∀ j, 1 ≤ j → j < max n.toNat 1 → ¬ Due start (start + n) j := by
  constructor
  · rw [due_iff (by omega)]
    exact ⟨h, by omega⟩
  · intro j hj hLt
    rw [due_iff (by omega)]
    rintro ⟨_, hDue⟩
    omega

theorem due_at_once (h : start + n ≠ 0) (hn : 2 ^ 31 + 1 < n.toNat) :
    Due start (start + n) 1 := by
  rw [due_iff (by decide)]
  exact ⟨h, by omega⟩

end Arithmetic

/-- Task `t` is blocked until tick `wake`, and waits for no queue. -/
structure Asleep (t : TaskId) (wake : U32) (k : Kernel) : Prop where
  user : t ≠ idleTaskIdx
  known : t < k.taskCount
  blocked : (k.userTasks t).currentState = .blocked
  wakeupTick : (k.userTasks t).wakeupTick = wake
  noQueue : ∀ q, t ∉ k.waiters (.queueSend q) ∧ t ∉ k.waiters (.queueRecv q)

section Sections

variable {k k' : Kernel} {piece : Piece} {f : Flow} {t : TaskId} {wake : U32} {w : WaitlistRef}

theorem Section.wakes (hs : Section k piece k' f) (hListed : Listed k)
    (hOther : f.rest ≠ none → t ≠ k.currentTask)
    (hOld : (k.userTasks t).currentState = .blocked)
    (hNew : (k'.userTasks t).currentState ≠ .blocked) :
    (∃ sem, piece = .call (.semPost sem)) ∨ (∃ mtx, piece = .call (.mutexUnlock mtx)) ∨
      ∃ q, t ∈ k.waiters (.queueSend q) ∨ t ∈ k.waiters (.queueRecv q) := by
  have hSame : SameBlocking k k' → False := fun h => hNew ((h.currentState t).trans hOld)
  cases hs with
  | refuse => exact absurd hOld hNew
  | take => exact (hSame quiet_takeToken.sameBlocking).elim
  | post => exact .inl ⟨_, rfl⟩
  | serve hTraffic => exact (hSame hTraffic.quiet.sameBlocking).elim
  | @wake _ w k₁ _ j u hTraffic hChosen =>
    have hQuiet := hTraffic.quiet
    have hEq : t = u := by
      by_contra hne
      rw [Kernel.userTasks_portYield, releaseTask_eq, userTasks_leaveWaitlist, if_neg hne,
        hQuiet.userTasks] at hNew
      exact hNew hOld
    have hMem : t ∈ k.waiters w := by
      obtain ⟨hj, hAt⟩ := (hListed.congr hQuiet.sameBlocking).chosen hChosen
      rw [hEq, ← hAt, ← hQuiet.waiters]
      exact List.getElem_mem hj
    cases hTraffic with
    | post => exact .inl ⟨_, rfl⟩
    | push => exact .inr (.inr ⟨_, .inr hMem⟩)
    | pop => exact .inr (.inr ⟨_, .inl hMem⟩)
  | acquire => exact (hSame acquire_blocking).elim
  | free => exact .inr (.inl ⟨_, rfl⟩)
  | handOff => exact .inr (.inl ⟨_, rfl⟩)
  | delay =>
    rw [delayCurrent, Kernel.userTasks_portYield, Kernel.userTasks_modifyTask,
      if_neg (hOther (by simp [Flow.rest]))] at hNew
    exact absurd hOld hNew
  | block =>
    rw [userTasks_enqueueCurrent, if_neg (hOther (by simp [Flow.rest]))] at hNew
    exact absurd hOld hNew
  | @lockBlock i =>
    have hRanks := Reranked.mutexDonatePriority k (k.mutexes i).owner
    rw [userTasks_enqueueCurrent, hRanks.currentTask, if_neg (hOther (by simp [Flow.rest])),
      hRanks.currentState] at hNew
    exact absurd hOld hNew
  | lockFull => exact (hSame (Reranked.mutexDonatePriority k _).sameBlocking).elim
  | stage => exact absurd hOld hNew
  | write => exact (hSame (Reranked.setEffectivePriority _ _ _).sameBlocking).elim

theorem Asleep.afterSection (h : Asleep t wake k) (hSeated : Seated k)
    (hs : Section k piece k' f) (hOther : f.rest ≠ none → t ≠ k.currentTask)
    (hKept : (∃ sem, piece = .call (.semPost sem)) ∨ (∃ mtx, piece = .call (.mutexUnlock mtx)) →
      (k'.userTasks t).currentState = .blocked) : Asleep t wake k' := by
  have hListed := hSeated.entries.listed
  have hReblocks := hs.reblocks hListed
  have hBlocked : (k'.userTasks t).currentState = .blocked := by
    by_contra hWoken
    obtain hPost | hUnlock | ⟨q, hQueue⟩ := hs.wakes hListed hOther h.blocked hWoken
    · exact hWoken (hKept (.inl hPost))
    · exact hWoken (hKept (.inr hUnlock))
    · obtain hSend | hRecv := hQueue
      · exact (h.noQueue q).1 hSend
      · exact (h.noQueue q).2 hRecv
  refine ⟨h.user, ?_, hBlocked, ?_, ?_⟩
  · rw [hs.current.2]
    exact h.known
  · obtain ⟨_, _, hTick, _⟩ | ⟨_, _, _, _, hReady⟩ := hReblocks.other hOther
    · exact hTick.trans h.wakeupTick
    · exact absurd (hReady.symm.trans hBlocked) (by simp)
  · intro q
    constructor
    · intro hMem
      exact (h.noQueue q).1 (hReblocks.waiters hListed hOther hMem)
    · intro hMem
      exact (h.noQueue q).2 (hReblocks.waiters hListed hOther hMem)

theorem Asleep.congr (h : Asleep t wake k) (hSame : SameBlocking k k') : Asleep t wake k' where
  user := h.user
  known := hSame.taskCount ▸ h.known
  blocked := (hSame.currentState t).trans h.blocked
  wakeupTick := (hSame.wakeupTick t).trans h.wakeupTick
  noQueue := by
    rw [hSame.waiters]
    exact h.noQueue

end Sections

section Runs

variable {s s' : Sys} {e : Event} {out : Option Ret} {t : TaskId} {wake : U32} {l : Label}
  {trace : List Label}

theorem Asleep.afterCreate {k k' : Kernel} {c : CreateCall} {err : OsErr} (h : Asleep t wake k)
    (hCreation : Creation k c k' err) : Asleep t wake k' := by
  have hTask := userTasks_creation_old hCreation h.known
  have hWaiters : ∀ w, t ∈ k'.waiters w → t ∈ k.waiters w := by
    intro w hMem
    obtain hSame | hEmpty := waiters_creation hCreation w
    · exact hSame ▸ hMem
    · rw [hEmpty] at hMem
      cases hMem
  refine ⟨h.user, h.known.trans_le (taskCount_creation hCreation), ?_, ?_, fun q => ?_⟩
  · rw [hTask]
    exact h.blocked
  · rw [hTask]
    exact h.wakeupTick
  · exact ⟨fun hMem => (h.noQueue q).1 (hWaiters _ hMem),
      fun hMem => (h.noQueue q).2 (hWaiters _ hMem)⟩

theorem Asleep.afterSchedule {k : Kernel} (h : Asleep t wake k)
    (hCurrent : k.currentTask < k.taskCount) : Asleep t wake (osScheduleNextTask k) := by
  have hSame := sameButStates_osScheduleNextTask (k := k)
  refine ⟨h.user, hSame.taskCount ▸ h.known, blocked_schedule hCurrent h.user h.blocked,
    hSame.wakeupTick.trans h.wakeupTick, ?_⟩
  rw [hSame.waiters]
  exact h.noQueue

theorem Asleep.afterMove (h : Asleep t wake s.kernel) (hSeated : Seated s.kernel)
    (hMove : Move s e s' out) (hTick : isTick e = false)
    (hKept : ¬ ReleasedBy t ⟨s, e, out, s'⟩) :
    Asleep t wake s'.kernel ∧ s'.kernel.systickCount = s.kernel.systickCount := by
  have hOther : s.kernel.pendSV = false → t ≠ s.kernel.currentTask := by
    rintro hRun rfl
    exact hSeated.current_free hRun h.user h.blocked
  cases hMove with
  | create _ _ _ hCreation =>
    exact ⟨h.afterCreate hCreation, (current_creation hCreation).2.2⟩
  | call hRun _ _ hSection =>
    refine ⟨h.afterSection hSeated hSection (fun _ => hOther hRun) ?_, hSection.systickCount⟩
    rintro (⟨sem, hPiece⟩ | ⟨mtx, hPiece⟩) <;>
    · cases hPiece
      by_contra hWoken
      exact hKept ⟨rfl, h.blocked, hWoken⟩
  | resume hRun _ hSection =>
    refine ⟨h.afterSection hSeated hSection (fun _ => hOther hRun) ?_, hSection.systickCount⟩
    rintro (⟨_, hPiece⟩ | ⟨_, hPiece⟩) <;> cases hPiece
  | @isrSend queue _ k' err _ _ hSection =>
    have hAfter : Asleep t wake k' := h.afterSection hSeated hSection
      (fun hRest => absurd rfl hRest)
      (by rintro (⟨_, hPiece⟩ | ⟨_, hPiece⟩) <;> cases hPiece)
    dsimp only
    split
    · have hQuiet := quiet_countDropped k' queue
      exact ⟨hAfter.congr hQuiet.sameBlocking, hQuiet.systickCount.trans hSection.systickCount⟩
    · exact ⟨hAfter, hSection.systickCount⟩
  | isrRecv _ hSection =>
    exact ⟨h.afterSection hSeated hSection (fun hRest => absurd rfl hRest)
      (by rintro (⟨_, hPiece⟩ | ⟨_, hPiece⟩) <;> cases hPiece), hSection.systickCount⟩
  | tick => cases hTick
  | pendSV =>
    have hSame : Asleep t wake { s.kernel with pendSV := false } :=
      h.congr (SameBlocking.of_userTasks rfl rfl (by funext w; cases w <;> rfl))
    exact ⟨hSame.afterSchedule hSeated.current_lt, sameButStates_osScheduleNextTask.systickCount⟩

theorem wakeupReached_iff {k : Kernel} {start : U32} {j : Nat}
    (hBlocked : (k.userTasks t).currentState = .blocked)
    (hClock : k.systickCount = start + BitVec.ofNat 32 j) :
    wakeupReached (updateTickCount k) t ↔ Due start (k.userTasks t).wakeupTick (j + 1) := by
  have hNow : (updateTickCount k).systickCount = start + BitVec.ofNat 32 (j + 1) := by
    change k.systickCount + 1 = _
    rw [hClock]
    bv_omega
  have hTask : (updateTickCount k).userTasks t = k.userTasks t := rfl
  rw [wakeupReached, hTask, hBlocked, hNow, Due]
  simp

theorem Asleep.reached_iff {start : U32} {j : Nat} (h : Asleep t wake s.kernel)
    (hClock : s.kernel.systickCount = start + BitVec.ofNat 32 j) :
    wakeupReached (updateTickCount s.kernel) t ↔ Due start wake (j + 1) := by
  rw [wakeupReached_iff h.blocked hClock, h.wakeupTick]

theorem Asleep.afterTick (h : Asleep t wake s.kernel) (hSeated : Seated s.kernel)
    (hNot : ¬ wakeupReached (updateTickCount s.kernel) t) : Asleep t wake (osTick s.kernel) := by
  have hTask := (userTasks_osTick h.user h.known).2 hNot
  have hSub := hSeated.entries.afterTick.2
  refine ⟨h.user, ?_, hTask ▸ h.blocked, hTask ▸ h.wakeupTick, fun q => ?_⟩
  · rw [frame_osTick.2.1]
    exact h.known
  · exact ⟨fun hMem => (h.noQueue q).1 ((hSub _).subset hMem),
      fun hMem => (h.noQueue q).2 ((hSub _).subset hMem)⟩

theorem ticks_snoc : ticks (trace ++ [l]) = ticks trace + if isTick l.event then 1 else 0 := by
  rw [ticks, List.countP_append, List.countP_singleton, ticks]

theorem Move.of_tick (hMove : Move s e s' out) (hTick : isTick e = true) :
    s'.kernel = osTick s.kernel := by
  cases hMove with
  | tick => rfl
  | _ => cases hTick

/-- As long as the time-out has not been due, the task sleeps. -/
theorem asleep_of_run {start s : Sys} (hRun : Run start trace s) (hSeated : Seated start.kernel)
    (hStart : Asleep t wake start.kernel) (hKept : ∀ l ∈ trace, ¬ ReleasedBy t l)
    (hNotYet : ∀ j, 1 ≤ j → j ≤ ticks trace → ¬ Due start.kernel.systickCount wake j) :
    Asleep t wake s.kernel ∧
      s.kernel.systickCount = start.kernel.systickCount + BitVec.ofNat 32 (ticks trace) := by
  induction hRun with
  | nil => exact ⟨hStart, by simp [ticks]⟩
  | @snoc trace l hRun hTaken ih =>
    rw [ticks_snoc] at hNotYet ⊢
    obtain ⟨hAsleep, hClock⟩ := ih (fun l hl => hKept l (List.mem_append_left _ hl))
      fun j hj hLe => hNotYet j hj (hLe.trans (Nat.le_add_right _ _))
    have hPre := seated_of_run hRun hSeated
    have hMove := move_of_step hTaken
    cases hTick : isTick l.event with
    | true =>
      have hPost := hMove.of_tick hTick
      have hNot : ¬ wakeupReached (updateTickCount l.pre.kernel) t := by
        rw [hAsleep.reached_iff hClock]
        exact hNotYet _ (Nat.le_add_left _ _) (by simp [hTick])
      rw [hPost]
      refine ⟨hAsleep.afterTick hPre hNot, ?_⟩
      rw [frame_osTick.2.2, hClock, if_pos rfl]
      bv_omega
    | false =>
      obtain ⟨hStill, hSame⟩ := hAsleep.afterMove hPre hMove hTick (hKept l (by simp))
      exact ⟨hStill, by rw [hSame, hClock]; simp⟩

theorem ticks_possible (start : Sys) (j : Nat) :
    ∃ trace s, Run start trace s ∧ ticks trace = j ∧ ∀ l ∈ trace, ¬ ReleasedBy t l := by
  induction j with
  | zero => exact ⟨[], start, .nil, rfl, by simp⟩
  | succ j ih =>
    obtain ⟨trace, s, hRun, hTicks, hKept⟩ := ih
    let l : Label := ⟨s, .tick, none, { s with kernel := osTick s.kernel }⟩
    have hTaken : Transition.Taken step l := rfl
    refine ⟨trace ++ [l], _, .snoc hRun hTaken, ?_, ?_⟩
    · rw [ticks_snoc, hTicks]
      rfl
    · intro l' hl'
      obtain hl' | hl' := List.mem_append.mp hl'
      · exact hKept l' hl'
      · obtain rfl := List.mem_singleton.mp hl'
        rintro ⟨hPost, _⟩
        cases hPost

theorem asleep_enqueueCurrent {k : Kernel} {w : WaitlistRef} {n : U32} {reason : BlockReason}
    (hListed : Listed k) (hLt : k.currentTask < k.taskCount) (hUser : k.currentTask ≠ idleTaskIdx)
    (hAbsent : ∀ w, k.currentTask ∉ k.waiters w) (hFinite : n ≠ osWaitForever)
    (hw : ∀ q, w ≠ .queueSend q ∧ w ≠ .queueRecv q) :
    Asleep k.currentTask (k.systickCount + n) (enqueueCurrent k w n reason) := by
  refine ⟨hUser, by simpa using hLt, ?_, ?_, fun q => ?_⟩
  · rw [userTasks_enqueueCurrent, if_pos rfl]
  · rw [userTasks_enqueueCurrent, if_pos rfl]
    exact if_neg hFinite
  · rw [waiters_enqueueCurrent hListed, Function.update_of_ne (hw q).1.symm,
      Function.update_of_ne (hw q).2.symm]
    exact ⟨hAbsent _, hAbsent _⟩

theorem Traffic.timeoutOf {k k' : Kernel} {c : ApiCall} {w : WaitlistRef} {data : List U8}
    (h : Traffic k (.call c) w k' data) : timeoutOf c = none := by
  cases h with
  | post => rfl
  | push hPiece =>
    cases hPiece
    rfl
  | pop hPiece =>
    cases hPiece
    rfl

theorem Section.asleep {k k' : Kernel} {c : ApiCall} {f : Flow} {n : U32}
    (hs : Section k (.call c) k' f) (hSeated : Seated k) (hRun : k.pendSV = false)
    (hUser : k.currentTask ≠ idleTaskIdx) (hTimeout : timeoutOf c = some n)
    (hFinite : n ≠ osWaitForever)
    (hBlocked : (k'.userTasks k.currentTask).currentState = .blocked) :
    Asleep k.currentTask (k.systickCount + n) k' := by
  have hFree := hSeated.current_free hRun hUser
  have hSame : SameBlocking k k' → False := fun h => hFree ((h.currentState _).symm.trans hBlocked)
  have hAbsent : ∀ w, k.currentTask ∉ k.waiters w := fun w => hSeated.entries.absent hUser hFree
  have hListed := hSeated.entries.listed
  cases hs with
  | refuse => exact absurd hBlocked hFree
  | take => exact (hSame quiet_takeToken.sameBlocking).elim
  | post => cases hTimeout
  | serve hTraffic => exact (hSame hTraffic.quiet.sameBlocking).elim
  | wake hTraffic =>
    rw [hTraffic.timeoutOf] at hTimeout
    cases hTimeout
  | acquire => exact (hSame acquire_blocking).elim
  | free => cases hTimeout
  | handOff => cases hTimeout
  | delay =>
    cases hTimeout
    have hWaiters : (delayCurrent k n).waiters = k.waiters := (SameShape.portYield _).waiters
    refine ⟨hUser, hSeated.current_lt, hBlocked, ?_, fun q => ?_⟩
    · simp [delayCurrent, wakeupTickOf, hFinite]
    · rw [hWaiters]
      exact ⟨hAbsent _, hAbsent _⟩
  | block hBlocks =>
    cases hBlocks with
    | sem =>
      cases hTimeout
      exact asleep_enqueueCurrent hListed hSeated.current_lt hUser hAbsent hFinite (by simp)
    | send hPiece =>
      cases hPiece
      cases hTimeout
    | recv hPiece =>
      cases hPiece
      cases hTimeout
  | @lockBlock i =>
    cases hTimeout
    have hRanks := Reranked.mutexDonatePriority k (k.mutexes i).owner
    have hDonated : Listed (mutexDonatePriority k (k.mutexes i).owner) := by
      intro w
      rw [hRanks.waitlist, hRanks.waiters]
      exact hListed w
    rw [← hRanks.currentTask, ← hRanks.systickCount]
    apply asleep_enqueueCurrent hDonated
    · rw [hRanks.currentTask, hRanks.taskCount]
      exact hSeated.current_lt
    · rw [hRanks.currentTask]
      exact hUser
    · rw [hRanks.currentTask, hRanks.waiters]
      exact hAbsent
    · exact hFinite
    · simp
  | lockFull => exact (hSame (Reranked.mutexDonatePriority k _).sameBlocking).elim

end Runs

theorem Asleep.lasts {t : TaskId} {start : Sys} {n : U32} (hSeated : Seated start.kernel)
    (h : Asleep t (start.kernel.systickCount + n) start.kernel)
    (hWake : start.kernel.systickCount + n ≠ 0) (hn : n.toNat ≤ 2 ^ 31 + 1) :
    Lasts t start (max n.toNat 1) := by
  obtain ⟨hDue, hNotYet⟩ := due_first hWake hn
  intro trace s hRun hKept
  constructor
  · intro hLt
    have hAsleep := asleep_of_run hRun hSeated h hKept fun j hj hLe =>
      hNotYet j hj (hLe.trans_lt hLt)
    exact hAsleep.1.blocked
  · intro hLast
    obtain ⟨hAsleep, hClock⟩ := asleep_of_run hRun hSeated h hKept fun j hj hLe =>
      hNotYet j hj (by omega)
    rw [← hLast] at hDue
    exact (userTasks_osTick hAsleep.user hAsleep.known).1 ((hAsleep.reached_iff hClock).mpr hDue)

theorem Asleep.wake_ne_zero {t : TaskId} {start : Sys} {n : U32} (hSeated : Seated start.kernel)
    (h : Asleep t (start.kernel.systickCount + n) start.kernel)
    (hLasts : Lasts t start (max n.toNat 1)) : start.kernel.systickCount + n ≠ 0 := by
  intro hZero
  obtain ⟨trace, s, hRun, hTicks, hKept⟩ := ticks_possible (t := t) start (max n.toNat 1 - 1)
  obtain ⟨hAsleep, hClock⟩ := asleep_of_run hRun hSeated h hKept fun _ _ _ => not_due_zero hZero
  have hReady := (hLasts trace s hRun hKept).2 (by omega)
  have hNot : ¬ wakeupReached (updateTickCount s.kernel) t := by
    rw [hAsleep.reached_iff hClock]
    exact not_due_zero hZero
  rw [(userTasks_osTick hAsleep.user hAsleep.known).2 hNot, hAsleep.blocked] at hReady
  cases hReady

theorem Asleep.wake_within {t : TaskId} {start : Sys} {n : U32}
    (h : Asleep t (start.kernel.systickCount + n) start.kernel)
    (hWake : start.kernel.systickCount + n ≠ 0) (hLasts : Lasts t start (max n.toNat 1)) :
    n.toNat ≤ 2 ^ 31 + 1 := by
  by_contra hLong
  let l : Label := ⟨start, .tick, none, { start with kernel := osTick start.kernel }⟩
  have hTaken : Transition.Taken step l := rfl
  have hRun : Run start ([] ++ [l]) l.post := .snoc .nil hTaken
  have hKept : ∀ l' ∈ [] ++ [l], ¬ ReleasedBy t l' := by
    rintro l' hl' ⟨hPost, _⟩
    obtain rfl := List.mem_singleton.mp hl'
    cases hPost
  have hBlocked := (hLasts _ _ hRun hKept).1 (by
    rw [ticks_snoc]
    simp only [ticks, l, isTick, List.countP_nil, if_true]
    omega)
  have hClock : start.kernel.systickCount = start.kernel.systickCount + BitVec.ofNat 32 0 := by
    simp
  have hReached := (h.reached_iff hClock).mpr (due_at_once hWake (by omega))
  have hReady := (userTasks_osTick h.user h.known).1 hReached
  exact absurd (hReady.symm.trans hBlocked) (by simp)

/-- A user task that blocks for `n` ticks wakes after exactly `n` ticks (at the first one for
`n = 0`) if and only if the tick to wake at is not stored as 0 and `n` is not beyond half the
range of the counter and one. -/
theorem timed_blocking_exact {trace : List Label} {s s' : Sys} (h : Reaches trace s)
    {c : ApiCall} {n : U32} (hTimeout : timeoutOf c = some n) (hFinite : n ≠ osWaitForever)
    {out : Option Ret} (hStep : step s (.call c) = some (s', out))
    (hUser : s.kernel.currentTask ≠ idleTaskIdx)
    (hBlocked : (s'.kernel.userTasks s.kernel.currentTask).currentState = .blocked) :
    Lasts s.kernel.currentTask s' (max n.toNat 1) ↔
      s.kernel.systickCount + n ≠ 0 ∧ n.toNat ≤ 2 ^ 31 + 1 := by
  have hSeated := h.seated
  have hMove := move_of_step hStep
  have hSeated' := hSeated.afterMove hMove
  have hAsleep : Asleep s.kernel.currentTask (s.kernel.systickCount + n) s'.kernel ∧
      s'.kernel.systickCount = s.kernel.systickCount := by
    cases hMove with
    | create => cases hTimeout
    | call hRun _ _ hSection =>
      exact ⟨hSection.asleep hSeated hRun hUser hTimeout hFinite hBlocked, hSection.systickCount⟩
  obtain ⟨hAsleep, hClock⟩ := hAsleep
  rw [← hClock] at hAsleep ⊢
  constructor
  · intro hLasts
    have hWake := hAsleep.wake_ne_zero hSeated' hLasts
    exact ⟨hWake, hAsleep.wake_within hWake hLasts⟩
  · rintro ⟨hWake, hn⟩
    exact hAsleep.lasts hSeated' hWake hn

/-- A task that waits for a semaphore with a time-out of 3, called at tick 1. -/
theorem timed_blocking_exact_sem :
    ∃ trace s s' out, Reaches trace s ∧ s.kernel.systickCount = 1 ∧
      step s (.call (.semWait (some 0) 3)) = some (s', out) ∧ Lasts 1 s' 3 := by
  have hCheck : checkBoot sampleImage [sampleTask 1, .sem (some 0) 0 (some .fifo)]
      [.tick, .pendSV] (fun _ => true)
      (fun s => s.kernel.currentTask == 1 && s.kernel.systickCount == 1 &&
        (step s (.call (.semWait (some 0) 3))).any fun next =>
          (next.1.kernel.userTasks 1).currentState == .blocked) = true := by
    decide +kernel
  obtain ⟨trace, s, hReaches, _, _, hFinal⟩ := reaches_of_checkBoot hCheck
  simp only [Bool.and_eq_true, beq_iff_eq, Option.any_eq_true] at hFinal
  obtain ⟨⟨hCurrent, hClock⟩, ⟨s', out⟩, hStep, hBlocked⟩ := hFinal
  rw [← hCurrent] at hBlocked
  have hExact := timed_blocking_exact hReaches rfl (by decide) hStep
    (by rw [hCurrent]; decide) hBlocked
  rw [hCurrent, hClock] at hExact
  exact ⟨trace, s, s', out, hReaches, hClock, hStep, hExact.mpr (by decide)⟩

/-- A task that calls `os_task_delay(0)` before the first tick is not woken by that tick. -/
theorem timed_blocking_forever :
    ¬ ∀ trace s s' c n out, Reaches trace s → timeoutOf c = some n → n ≠ osWaitForever →
      step s (.call c) = some (s', out) → s.kernel.currentTask ≠ idleTaskIdx →
      (s'.kernel.userTasks s.kernel.currentTask).currentState = .blocked →
        Lasts s.kernel.currentTask s' (max n.toNat 1) := by
  intro hClaim
  have hCheck : checkBoot sampleImage [sampleTask 1] [] (fun _ => true)
      (fun s => s.kernel.currentTask == 1 &&
        (step s (.call (.taskDelay 0))).any fun next =>
          (next.1.kernel.userTasks 1).currentState == .blocked &&
            ((osTick next.1.kernel).userTasks 1).currentState == .blocked) = true := by
    decide +kernel
  obtain ⟨trace, s, hReaches, _, _, hFinal⟩ := reaches_of_checkBoot hCheck
  simp only [Bool.and_eq_true, beq_iff_eq, Option.any_eq_true] at hFinal
  obtain ⟨hCurrent, ⟨s', out⟩, hStep, hBlocked, hStill⟩ := hFinal
  have hUser : s.kernel.currentTask ≠ idleTaskIdx := by
    rw [hCurrent]
    decide
  rw [← hCurrent] at hBlocked
  have hLasts := hClaim trace s s' _ 0 out hReaches rfl (by decide) hStep hUser hBlocked
  rw [hCurrent] at hLasts
  have hReady := (hLasts [] s' .nil (by simp)).2 rfl
  exact absurd (hReady.symm.trans hStill) (by decide)

end KoRTOS
