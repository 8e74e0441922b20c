import KoRTOS.System
import KoRTOS.Invariant.Frame

/-!
# What a piece of code can do

Every piece of code that runs between two switching points is one of a few
kinds. `Section` lists them with the conditions under which each is taken, and
`Move` does the same for the transitions of the system. Everything that is
proved about all runs is proved by cases on these two.
-/

namespace KoRTOS

/-- Code of the running task: the start of a call, or what is left of one. -/
inductive Piece where
  | call (call : ApiCall)
  | rest (rest : Pending)

/-- The piece is a round of the loop of `os_queue_send_from_task`. -/
inductive Sending (k : Kernel) : Piece → QueueId → (Nat → U8) → U32 → U32 → Prop
  | call {q item n} : Sending k (.call (.queueSend (some q) (some item) n)) q item n
      (deadlineTickOf k.systickCount n)
  | rest {q item n d} (hTimeout : k.current.timeout = false) :
      Sending k (.rest (.queueSend q item n d)) q item n d

/-- The piece is a round of the loop of `os_queue_recv_from_task`. -/
inductive Receiving (k : Kernel) : Piece → QueueId → U32 → U32 → Prop
  | call {q n} : Receiving k (.call (.queueRecv (some q) false n)) q n
      (deadlineTickOf k.systickCount n)
  | rest {q n d} (hTimeout : k.current.timeout = false) :
      Receiving k (.rest (.queueRecv q n d)) q n d

/-- A round that finds no room (no item) ends the call instead of blocking. -/
def GivesUp (k : Kernel) (timeout deadlineTick : U32) : Prop :=
  timeout = 0 ∨ (deadlineTick ≠ 0 ∧ 0 ≤ (k.systickCount - deadlineTick).toInt)

def remainingTimeout (k : Kernel) (deadlineTick : U32) : U32 :=
  if deadlineTick ≠ 0 then deadlineTick - k.systickCount else osWaitForever

/-- The piece blocks on a waitlist other than a mutex's. -/
inductive Blocks (k : Kernel) : Piece → WaitlistRef → U32 → Pending → Prop
  | sem {i n} (hEmpty : (k.semaphores i).count = 0) (hTimeout : n ≠ 0) :
      Blocks k (.call (.semWait (some i) n)) (.sem i) n (.semWait i)
  | send {piece q item n d} (hPiece : Sending k piece q item n d)
      (hFull : (k.queues q).maxItems ≤ (k.queues q).count) (hStay : ¬ GivesUp k n d) :
      Blocks k piece (.queueSend q) (remainingTimeout k d) (.queueSend q item n d)
  | recv {piece q n d} (hPiece : Receiving k piece q n d)
      (hEmpty : (k.queues q).count = 0) (hStay : ¬ GivesUp k n d) :
      Blocks k piece (.queueRecv q) (remainingTimeout k d) (.queueRecv q n d)

def timeoutResult (k : Kernel) : OsErr := if k.current.timeout then .unavailable else .ok

/-- The piece ends its call without changing anything. -/
inductive Refused (k : Kernel) : Piece → OsErr → Prop
  | nullSemWait {n} : Refused k (.call (.semWait none n)) .nullPtr
  | nullSemPost : Refused k (.call (.semPost none)) .nullPtr
  | nullLock {n} : Refused k (.call (.mutexLock none n)) .nullPtr
  | nullUnlock : Refused k (.call (.mutexUnlock none)) .nullPtr
  | nullSend {queue item n} (hNull : queue = none ∨ item = none) :
      Refused k (.call (.queueSend queue item n)) .nullPtr
  | nullRecv {queue itemNull n} (hNull : queue = none ∨ itemNull = true) :
      Refused k (.call (.queueRecv queue itemNull n)) .nullPtr
  | idleDelay {n} (hIdle : k.currentTask = idleTaskIdx) : Refused k (.call (.taskDelay n)) .ok
  | semEmpty {i} (hEmpty : (k.semaphores i).count = 0) :
      Refused k (.call (.semWait (some i) 0)) .unavailable
  | recursive {i n} (hOwner : (k.mutexes i).owner = some k.currentTask) :
      Refused k (.call (.mutexLock (some i) n)) .mtxRecursiveLock
  | lockBusy {i} (hLocked : (k.mutexes i).state = .locked)
      (hOwner : (k.mutexes i).owner ≠ some k.currentTask) :
      Refused k (.call (.mutexLock (some i) 0)) .unavailable
  | notOwner {i} (hOwner : (k.mutexes i).owner ≠ some k.currentTask) :
      Refused k (.call (.mutexUnlock (some i))) .mtxNotOwner
  | sendFull {piece q item n d} (hPiece : Sending k piece q item n d)
      (hFull : (k.queues q).maxItems ≤ (k.queues q).count) (hGiveUp : GivesUp k n d) :
      Refused k piece .unavailable
  | recvEmpty {piece q n d} (hPiece : Receiving k piece q n d)
      (hEmpty : (k.queues q).count = 0) (hGiveUp : GivesUp k n d) : Refused k piece .unavailable
  | listFull {piece w n rest} (hBlocks : Blocks k piece w n rest)
      (hFull : osMaxTasks ≤ (k.waitlist w).waitCount) : Refused k piece .waitlistFull
  | delayOver : Refused k (.rest .taskDelay) .ok
  | semOver {i} : Refused k (.rest (.semWait i)) (timeoutResult k)
  | lockOver {i} : Refused k (.rest (.mutexLock i .ok .recomputed)) (timeoutResult k)
  | lockFailed {i err} (hErr : err ≠ .ok) : Refused k (.rest (.mutexLock i err .recomputed)) err
  | sendOver {q item n d} (hTimeout : k.current.timeout = true) :
      Refused k (.rest (.queueSend q item n d)) .unavailable
  | recvOver {q n d} (hTimeout : k.current.timeout = true) :
      Refused k (.rest (.queueRecv q n d)) .unavailable

/-- What the piece does before it looks for a waiter to wake, the waitlist it looks at and
the bytes it hands back. -/
inductive Traffic (k : Kernel) : Piece → WaitlistRef → Kernel → List U8 → Prop
  | post {i} : Traffic k (.call (.semPost (some i))) (.sem i) k []
  | push {piece q item n d} (hPiece : Sending k piece q item n d)
      (hRoom : (k.queues q).count < (k.queues q).maxItems) :
      Traffic k piece (.queueRecv q) (k.setQueue q ((k.queues q).pushItem item)) []
  | pop {piece q n d} (hPiece : Receiving k piece q n d) (hItem : (k.queues q).count ≠ 0) :
      Traffic k piece (.queueSend q) (k.setQueue q (k.queues q).popItem) (k.queues q).frontItem

/-- The steps of `mutex_recompute_owner_priority` that write nothing. -/
inductive LockNext (k : Kernel) (i : MutexId) : LockStage → LockStage → Prop
  | start : LockNext k i .woken (.visit (k.mutexes i).owner 0)
  | scan {o n} (hMore : n < osMaxTasks) :
      LockNext k i (.visit (some o) n) (.scanned o n (scanOwner k o))
  | next {o n} (hBlocked : (k.userTasks o).blockReason = .mutex) :
      LockNext k i (.written o n) (.visit (nextOwner k o) (n + 1))
  | chainEnd {n} : LockNext k i (.visit none n) .recomputed
  | roundsEnd {o n} (hMore : osMaxTasks ≤ n) : LockNext k i (.visit (some o) n) .recomputed
  | ownerFree {o n} (hFree : (k.userTasks o).blockReason ≠ .mutex) :
      LockNext k i (.written o n) .recomputed

/-- The choice of `waitlist_unblock`. -/
structure Chosen (k : Kernel) (w : WaitlistRef) (j : Nat) (t : TaskId) : Prop where
  waiting : (k.waitlist w).waitCount ≠ 0
  select : waitlistSelect k (k.waitlist w) = some j
  entry : (k.waitlist w).taskWaitlist j = some t

def takeToken (k : Kernel) (i : SemId) : Kernel :=
  k.setSemaphore i { k.semaphores i with count := (k.semaphores i).count - 1 }

def addToken (k : Kernel) (i : SemId) : Kernel :=
  k.setSemaphore i { k.semaphores i with count := ((k.semaphores i).count + 1) % 2 ^ 8 }

def delayCurrent (k : Kernel) (n : U32) : Kernel :=
  (k.modifyTask k.currentTask fun tcb =>
    { tcb with
      wakeupTick := wakeupTickOf k.systickCount n
      blockReason := .delay
      currentState := .blocked }).portYield

def acquire (k : Kernel) (i : MutexId) : Kernel :=
  (k.modifyTask k.currentTask (pushOwnedMutex i)).setOwner i (some k.currentTask) .locked

def free (k : Kernel) (i : MutexId) : Kernel :=
  (k.modifyTask k.currentTask (removeOwnedMutex i)).setOwner i none .unlocked

/-- The waiter `t` at position `j` leaves the mutex that the current task gives up. -/
def releaseOwned (k : Kernel) (i : MutexId) (j : Nat) (t : TaskId) : Kernel :=
  releaseTask (k.modifyTask k.currentTask (removeOwnedMutex i)) (.mutex i) j t

def giveMutex (k : Kernel) (i : MutexId) (t : TaskId) : Kernel :=
  let k := k.modifyTask t (pushOwnedMutex i)
  k.setOwner i (some t) (k.mutexes i).state

/-- The hand-off of `os_mutex_unlock` to the waiter `t` at position `j`, up to the yield. -/
def handOff (k : Kernel) (i : MutexId) (j : Nat) (t : TaskId) : Kernel :=
  let k := releaseOwned k i j t
  let k := mutexRecomputeOwnerPriority k (k.mutexes i).owner
  let k := giveMutex k i t
  mutexRecomputeOwnerPriority k (k.mutexes i).owner

inductive Section (k : Kernel) : Piece → Kernel → Flow → Prop
  | refuse {piece err} (h : Refused k piece err) : Section k piece k (.ret err)
  | take {i n} (hCount : 0 < (k.semaphores i).count) :
      Section k (.call (.semWait (some i) n)) (takeToken k i) (.ret .ok)
  | post {i} (hEmpty : (k.waitlist (.sem i)).waitCount = 0) :
      Section k (.call (.semPost (some i))) (addToken k i) (.ret .ok)
  | serve {piece w k' data} (hTraffic : Traffic k piece w k' data) (hQueue : ∀ i, w ≠ .sem i)
      (hEmpty : (k'.waitlist w).waitCount = 0) : Section k piece k' (.returned .ok data)
  | wake {piece w k' data j t} (hTraffic : Traffic k piece w k' data) (hChosen : Chosen k' w j t) :
      Section k piece (releaseTask k' w j t).portYield (.returned .ok data)
  | acquire {i n} (hFree : (k.mutexes i).state = .unlocked) :
      Section k (.call (.mutexLock (some i) n)) (acquire k i) (.ret .ok)
  | free {i} (hOwner : (k.mutexes i).owner = some k.currentTask)
      (hEmpty : (k.waitlist (.mutex i)).waitCount = 0) :
      Section k (.call (.mutexUnlock (some i))) (free k i) (.ret .ok)
  | handOff {i j t} (hOwner : (k.mutexes i).owner = some k.currentTask)
      (hChosen : Chosen k (.mutex i) j t) :
      Section k (.call (.mutexUnlock (some i))) (handOff k i j t).portYield (.ret .ok)
  | delay {n} (hUser : k.currentTask ≠ idleTaskIdx) :
      Section k (.call (.taskDelay n)) (delayCurrent k n) (.suspended .taskDelay)
  | block {piece w n rest} (hBlocks : Blocks k piece w n rest)
      (hRoom : (k.waitlist w).waitCount < osMaxTasks) :
      Section k piece (enqueueCurrent k w n w.blockReason) (.suspended rest)
  | lockBlock {i n} (hLocked : (k.mutexes i).state = .locked)
      (hOwner : (k.mutexes i).owner ≠ some k.currentTask) (hTimeout : n ≠ 0)
      (hRoom : (k.waitlist (.mutex i)).waitCount < osMaxTasks) :
      Section k (.call (.mutexLock (some i) n))
        (enqueueCurrent (mutexDonatePriority k (k.mutexes i).owner) (.mutex i) n .mutex)
        (.suspended (.mutexLock i .ok .woken))
  | lockFull {i n} (hLocked : (k.mutexes i).state = .locked)
      (hOwner : (k.mutexes i).owner ≠ some k.currentTask) (hTimeout : n ≠ 0)
      (hFull : osMaxTasks ≤ (k.waitlist (.mutex i)).waitCount) :
      Section k (.call (.mutexLock (some i) n)) (mutexDonatePriority k (k.mutexes i).owner)
        (.suspended (.mutexLock i .waitlistFull .woken))
  | stage {i r st st'} (h : LockNext k i st st') :
      Section k (.rest (.mutexLock i r st)) k (.suspended (.mutexLock i r st'))
  | write {i r o n v} :
      Section k (.rest (.mutexLock i r (.scanned o n v))) (k.setEffectivePriority o v)
        (.suspended (.mutexLock i r (.written o n)))

section Inversion

variable {k k' : Kernel} {f : Flow} {w : WaitlistRef} {piece : Piece}

theorem waitlistUnblock_cases {r : Option TaskId} (h : waitlistUnblock k w = some (k', r)) :
    ((k.waitlist w).waitCount = 0 ∧ k' = k ∧ r = none) ∨
    ∃ j t, r = some t ∧ Chosen k w j t ∧ k' = releaseTask k w j t := by
  unfold waitlistUnblock at h
  dsimp only at h
  split at h
  · rename_i hZero
    cases h
    exact .inl ⟨hZero, rfl, rfl⟩
  · rename_i hPos
    obtain ⟨j, hSelect, h⟩ := Option.bind_eq_some_iff.mp h
    obtain ⟨t, hEntry, h⟩ := Option.bind_eq_some_iff.mp h
    cases h
    exact .inr ⟨j, t, rfl, ⟨hPos, hSelect, hEntry⟩, rfl⟩

theorem Chosen.head {j : Nat} {t : TaskId} (h : Chosen k w j t)
    (hPolicy : (k.waitlist w).schedulePolicy = .fifo) : j = 0 := by
  have hSelect := h.select
  rw [waitlistSelect, hPolicy] at hSelect
  exact (Option.some.inj hSelect).symm

theorem waitlistSelect_congr {wl : Waitlist} (h : k'.eff = k.eff) :
    waitlistSelect k' wl = waitlistSelect k wl := by
  have hEff : ∀ t, (k'.userTasks t).effectivePriority = (k.userTasks t).effectivePriority :=
    fun t => congrFun h t
  have hStep : selectStep k' wl = selectStep k wl := by
    funext best i
    simp only [selectStep, hEff]
  simp only [waitlistSelect, hStep]

theorem Chosen.congr {j : Nat} {t : TaskId} (h : Chosen k' w j t)
    (hWaitlist : k'.waitlist = k.waitlist) (hEff : k'.eff = k.eff) : Chosen k w j t := by
  refine ⟨?_, ?_, ?_⟩
  · rw [← hWaitlist]
    exact h.waiting
  · rw [← waitlistSelect_congr hEff, ← hWaitlist]
    exact h.select
  · rw [← hWaitlist]
    exact h.entry

theorem section_osTaskDelay {n : U32} (h : osTaskDelay k n = (k', f)) :
    Section k (.call (.taskDelay n)) k' f := by
  unfold osTaskDelay at h
  split at h
  · rename_i hUser
    cases h
    exact .delay hUser
  · rename_i hIdle
    cases h
    exact .refuse (.idleDelay (not_not.mp hIdle))

theorem waitlistBlockCurrent_cases (n : U32) (reason : BlockReason) :
    ((k.waitlist w).waitCount < osMaxTasks ∧
      waitlistBlockCurrent k w n reason = (enqueueCurrent k w n reason, .ok)) ∨
    (osMaxTasks ≤ (k.waitlist w).waitCount ∧
      waitlistBlockCurrent k w n reason = (k, .waitlistFull)) := by
  by_cases hFull : osMaxTasks ≤ (k.waitlist w).waitCount
  · exact .inr ⟨hFull, if_pos hFull⟩
  · exact .inl ⟨Nat.lt_of_not_le hFull, if_neg hFull⟩

theorem section_osSemWait {sem : Option SemId} {n : U32} (h : osSemWait k sem n = (k', f)) :
    Section k (.call (.semWait sem n)) k' f := by
  cases sem with
  | none =>
    cases h
    exact .refuse .nullSemWait
  | some i =>
    simp only [osSemWait] at h
    split at h
    · rename_i hCount
      cases h
      exact .take hCount
    · rename_i hCount
      have hEmpty : (k.semaphores i).count = 0 := Nat.eq_zero_of_not_pos hCount
      split at h
      · rename_i hZero
        subst hZero
        cases h
        exact .refuse (.semEmpty hEmpty)
      · rename_i hTimeout
        have hBlocks : Blocks k (.call (.semWait (some i) n)) (.sem i) n (.semWait i) :=
          .sem hEmpty hTimeout
        rcases waitlistBlockCurrent_cases (k := k) (w := .sem i) n .sem with
          ⟨hRoom, hEq⟩ | ⟨hFull, hEq⟩
        · rw [hEq] at h
          cases h
          exact .block hBlocks hRoom
        · rw [hEq] at h
          cases h
          exact .refuse (.listFull hBlocks hFull)

theorem section_osSemPost {sem : Option SemId} (h : osSemPost k sem = some (k', f)) :
    Section k (.call (.semPost sem)) k' f := by
  cases sem with
  | none =>
    cases h
    exact .refuse .nullSemPost
  | some i =>
    obtain ⟨⟨k₁, r⟩, hU, h⟩ := Option.bind_eq_some_iff.mp h
    rcases waitlistUnblock_cases hU with ⟨hEmpty, rfl, rfl⟩ | ⟨j, t, rfl, hChosen, rfl⟩
    · cases h
      exact .post hEmpty
    · cases h
      exact .wake .post hChosen

theorem section_osMutexLock {mtx : Option MutexId} {n : U32} (h : osMutexLock k mtx n = (k', f)) :
    Section k (.call (.mutexLock mtx n)) k' f := by
  cases mtx with
  | none =>
    cases h
    exact .refuse .nullLock
  | some i =>
    simp only [osMutexLock] at h
    split at h
    · rename_i hFree
      cases h
      exact .acquire hFree
    · rename_i hState
      have hLocked : (k.mutexes i).state = .locked := by
        cases hEq : (k.mutexes i).state with
        | unlocked => exact absurd hEq hState
        | locked => rfl
      split at h
      · rename_i hOwner
        cases h
        exact .refuse (.recursive hOwner)
      · rename_i hOwner
        split at h
        · rename_i hZero
          subst hZero
          cases h
          exact .refuse (.lockBusy hLocked hOwner)
        · rename_i hTimeout
          have hShape := Reranked.mutexDonatePriority k (k.mutexes i).owner
          rcases waitlistBlockCurrent_cases (k := mutexDonatePriority k (k.mutexes i).owner)
            (w := .mutex i) n .mutex with ⟨hRoom, hEq⟩ | ⟨hFull, hEq⟩
          · rw [hEq] at h
            rw [hShape.waitlist] at hRoom
            cases h
            exact .lockBlock hLocked hOwner hTimeout hRoom
          · rw [hEq] at h
            rw [hShape.waitlist] at hFull
            cases h
            exact .lockFull hLocked hOwner hTimeout hFull

theorem section_osMutexUnlock {mtx : Option MutexId} (h : osMutexUnlock k mtx = some (k', f)) :
    Section k (.call (.mutexUnlock mtx)) k' f := by
  cases mtx with
  | none =>
    cases h
    exact .refuse .nullUnlock
  | some i =>
    simp only [osMutexUnlock] at h
    split at h
    · rename_i hOwner
      cases h
      exact .refuse (.notOwner hOwner)
    · rename_i hOwner
      obtain ⟨⟨k₁, r⟩, hU, h⟩ := Option.bind_eq_some_iff.mp h
      rcases waitlistUnblock_cases hU with ⟨hEmpty, rfl, rfl⟩ | ⟨j, t, rfl, hChosen, rfl⟩
      · rw [Kernel.waitlist_modifyTask] at hEmpty
        cases h
        exact .free (not_not.mp hOwner) hEmpty
      · have hEff : (k.modifyTask k.currentTask (removeOwnedMutex i)).eff = k.eff := by
          funext u
          simp only [Kernel.eff, Kernel.userTasks_modifyTask]
          split
          · subst u
            unfold removeOwnedMutex
            split <;> rfl
          · rfl
        cases h
        exact .handOff (not_not.mp hOwner) (hChosen.congr Kernel.waitlist_modifyTask hEff)

theorem queueBlock_cases {n d : U32} {rest : Pending} (h : queueBlock k w n d rest = (k', f)) :
    (GivesUp k n d ∧ k' = k ∧ f = .ret .unavailable) ∨
    (¬ GivesUp k n d ∧ (k.waitlist w).waitCount < osMaxTasks ∧
      k' = enqueueCurrent k w (remainingTimeout k d) w.blockReason ∧ f = .suspended rest) ∨
    (¬ GivesUp k n d ∧ osMaxTasks ≤ (k.waitlist w).waitCount ∧ k' = k ∧
      f = .ret .waitlistFull) := by
  unfold queueBlock at h
  split at h
  · rename_i hZero
    cases h
    exact .inl ⟨.inl hZero, rfl, rfl⟩
  · rename_i hZero
    split at h
    · rename_i hOver
      cases h
      exact .inl ⟨.inr hOver, rfl, rfl⟩
    · rename_i hOver
      have hStay : ¬ GivesUp k n d := fun hGive => hGive.elim hZero hOver
      dsimp only at h
      rw [← remainingTimeout] at h
      rcases waitlistBlockCurrent_cases (k := k) (w := w) (remainingTimeout k d) w.blockReason with
        ⟨hRoom, hEq⟩ | ⟨hFull, hEq⟩
      · rw [hEq] at h
        cases h
        exact .inr (.inl ⟨hStay, hRoom, rfl, rfl⟩)
      · rw [hEq] at h
        cases h
        exact .inr (.inr ⟨hStay, hFull, rfl, rfl⟩)

theorem queueWake_cases (h : queueWake k w = some k') :
    ((k.waitlist w).waitCount = 0 ∧ k' = k) ∨
    ∃ j t, Chosen k w j t ∧ k' = (releaseTask k w j t).portYield := by
  obtain ⟨⟨k₁, r⟩, hU, h⟩ := Option.bind_eq_some_iff.mp h
  rcases waitlistUnblock_cases hU with ⟨hEmpty, rfl, rfl⟩ | ⟨j, t, rfl, hChosen, rfl⟩
  · cases h
    exact .inl ⟨hEmpty, rfl⟩
  · cases h
    exact .inr ⟨j, t, hChosen, rfl⟩

theorem section_of_queueWake {k₀ : Kernel} {data : List U8} (hTraffic : Traffic k piece w k₀ data)
    (hQueue : ∀ i, w ≠ .sem i) (h : queueWake k₀ w = some k') :
    Section k piece k' (.returned .ok data) := by
  rcases queueWake_cases h with ⟨hEmpty, rfl⟩ | ⟨j, t, hChosen, rfl⟩
  · exact .serve hTraffic hQueue hEmpty
  · exact .wake hTraffic hChosen

theorem section_queueSendRound {q : QueueId} {item : Nat → U8} {n d : U32}
    (hPiece : Sending k piece q item n d) (h : queueSendRound k q item n d = some (k', f)) :
    Section k piece k' f := by
  unfold queueSendRound at h
  split at h
  · rename_i hFull
    rcases queueBlock_cases (Option.some.inj h) with ⟨hGiveUp, rfl, rfl⟩ | ⟨hStay, hRoom, rfl, rfl⟩ |
      ⟨hStay, hListFull, rfl, rfl⟩
    · exact .refuse (.sendFull hPiece hFull hGiveUp)
    · exact .block (.send hPiece hFull hStay) hRoom
    · exact .refuse (.listFull (.send hPiece hFull hStay) hListFull)
  · rename_i hRoom
    obtain ⟨k₁, hWake, h⟩ := Option.bind_eq_some_iff.mp h
    cases h
    exact section_of_queueWake (.push hPiece (Nat.lt_of_not_le hRoom)) (by simp) hWake

theorem section_queueRecvRound {q : QueueId} {n d : U32}
    (hPiece : Receiving k piece q n d) (h : queueRecvRound k q n d = some (k', f)) :
    Section k piece k' f := by
  unfold queueRecvRound at h
  split at h
  · rename_i hEmpty
    rcases queueBlock_cases (Option.some.inj h) with ⟨hGiveUp, rfl, rfl⟩ | ⟨hStay, hRoom, rfl, rfl⟩ |
      ⟨hStay, hListFull, rfl, rfl⟩
    · exact .refuse (.recvEmpty hPiece hEmpty hGiveUp)
    · exact .block (.recv hPiece hEmpty hStay) hRoom
    · exact .refuse (.listFull (.recv hPiece hEmpty hStay) hListFull)
  · rename_i hItem
    obtain ⟨k₁, hWake, h⟩ := Option.bind_eq_some_iff.mp h
    cases h
    exact section_of_queueWake (.pop hPiece hItem) (by simp) hWake

theorem section_osQueueSendFromTask {queue : Option QueueId} {item : Option (Nat → U8)} {n : U32}
    (h : osQueueSendFromTask k queue item n = some (k', f)) :
    Section k (.call (.queueSend queue item n)) k' f := by
  cases queue with
  | none =>
    cases h
    exact .refuse (.nullSend (.inl rfl))
  | some q =>
    cases item with
    | none =>
      cases h
      exact .refuse (.nullSend (.inr rfl))
    | some item => exact section_queueSendRound .call h

theorem section_osQueueRecvFromTask {queue : Option QueueId} {itemNull : Bool} {n : U32}
    (h : osQueueRecvFromTask k queue itemNull n = some (k', f)) :
    Section k (.call (.queueRecv queue itemNull n)) k' f := by
  cases queue with
  | none =>
    cases h
    exact .refuse (.nullRecv (.inl rfl))
  | some q =>
    cases itemNull with
    | true =>
      cases h
      exact .refuse (.nullRecv (.inr rfl))
    | false => exact section_queueRecvRound .call h

theorem section_of_runCall {c : ApiCall} (h : runCall k c = some (k', f)) :
    Section k (.call c) k' f := by
  cases c with
  | create _ => cases h
  | taskDelay n => exact section_osTaskDelay (Option.some.inj h)
  | semWait sem n => exact section_osSemWait (Option.some.inj h)
  | semPost sem => exact section_osSemPost h
  | mutexLock mtx n => exact section_osMutexLock (Option.some.inj h)
  | mutexUnlock mtx => exact section_osMutexUnlock h
  | queueSend queue item n => exact section_osQueueSendFromTask h
  | queueRecv queue itemNull n => exact section_osQueueRecvFromTask h

theorem section_resumeMutexLock {i : MutexId} {r : OsErr} {st : LockStage}
    (h : resumeMutexLock k i r st = (k', f)) : Section k (.rest (.mutexLock i r st)) k' f := by
  cases st with
  | woken =>
    cases h
    exact .stage .start
  | visit owner n =>
    cases owner with
    | none =>
      cases h
      exact .stage .chainEnd
    | some o =>
      simp only [resumeMutexLock] at h
      split at h
      · rename_i hMore
        cases h
        exact .stage (.scan hMore)
      · rename_i hMore
        cases h
        exact .stage (.roundsEnd (Nat.le_of_not_lt hMore))
  | scanned o n v =>
    cases h
    exact .write
  | written o n =>
    simp only [resumeMutexLock] at h
    split at h
    · rename_i hFree
      cases h
      exact .stage (.ownerFree hFree)
    · rename_i hBlocked
      cases h
      exact .stage (.next (not_not.mp hBlocked))
  | recomputed =>
    simp only [resumeMutexLock] at h
    split at h
    · rename_i hErr
      cases h
      exact .refuse (.lockFailed hErr)
    · rename_i hOk
      obtain rfl := not_not.mp hOk
      have hResult : (k, Flow.ret (timeoutResult k)) = (k', f) := by
        rw [← h, timeoutResult]
        split <;> rfl
      cases hResult
      exact .refuse .lockOver

theorem section_of_resumePending {rest : Pending} (h : resumePending k rest = some (k', f)) :
    Section k (.rest rest) k' f := by
  cases rest with
  | taskDelay =>
    cases h
    exact .refuse .delayOver
  | semWait i =>
    have hResult : (k, Flow.ret (timeoutResult k)) = (k', f) := by
      rw [← Option.some.inj h, timeoutResult]
      split <;> rfl
    cases hResult
    exact .refuse .semOver
  | mutexLock i r st => exact section_resumeMutexLock (Option.some.inj h)
  | queueSend q item n d =>
    simp only [resumePending] at h
    split at h
    · rename_i hTimeout
      cases h
      exact .refuse (.sendOver hTimeout)
    · rename_i hTimeout
      exact section_queueSendRound (.rest (by simpa using hTimeout)) h
  | queueRecv q n d =>
    simp only [resumePending] at h
    split at h
    · rename_i hTimeout
      cases h
      exact .refuse (.recvOver hTimeout)
    · rename_i hTimeout
      exact section_queueRecvRound (.rest (by simpa using hTimeout)) h

end Inversion
end KoRTOS
