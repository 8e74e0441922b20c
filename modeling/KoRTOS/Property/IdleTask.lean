import KoRTOS.Property.MutexOwnership
import KoRTOS.Property.QueueFifo
import KoRTOS.Property.SemaphoreTokens

/-!
# The idle task

The scheduler falls back on the idle task without looking at its state, so that
it must never be blocked. `os_task_delay` sees to that, the other calls do not:
they switch their caller out whoever it is. As long as the idle task makes none
that has to wait, only tasks that can run are dispatched, and nobody is told
that he got what he did not get.
-/

namespace KoRTOS

instance (k : Kernel) (timeout deadlineTick : U32) : Decidable (GivesUp k timeout deadlineTick) :=
  inferInstanceAs (Decidable (_ ∨ _))

/-- The call finds nothing to take, and would wait for it. -/
def waitsIn (k : Kernel) : ApiCall → Bool
  | .semWait (some i) timeout => (k.semaphores i).count == 0 && timeout != 0
  | .mutexLock (some i) timeout =>
    (k.mutexes i).state == .locked && (k.mutexes i).owner != some k.currentTask && timeout != 0
  | .queueSend (some q) (some _) timeout =>
    decide ((k.queues q).maxItems ≤ (k.queues q).count) &&
      !decide (GivesUp k timeout (deadlineTickOf k.systickCount timeout))
  | .queueRecv (some q) false timeout =>
    (k.queues q).count == 0 && !decide (GivesUp k timeout (deadlineTickOf k.systickCount timeout))
  | _ => false

/-- The hook of the idle task makes a call that has to wait. -/
def idleWaits (l : Label) : Bool :=
  match l.event with
  | .call c => l.pre.kernel.currentTask == idleTaskIdx && waitsIn l.pre.kernel c
  | _ => false

/-- No task that is running in `k'` was blocked in `k`. -/
def DispatchesRunnable (k k' : Kernel) : Prop :=
  ∀ t, (k'.userTasks t).currentState = .running → (k.userTasks t).currentState ≠ .blocked

/-- Whoever is told `OS_OK` by a call that may wait got what he waited for: a token, the
mutex, a slot for his item or the oldest item. -/
structure GrantedWaits (before : List Label) (l : Label) : Prop where
  sem : ∀ i t, waitResult i t l = some .ok → accounted i t (before ++ [l]) = 1
  mutex : ∀ i, LockReturns l i .ok → (l.post.kernel.mutexes i).owner = some l.pre.kernel.currentTask
  send : ∀ q data, sentItem q l = some data →
    (l.pre.kernel.queues q).count < (l.pre.kernel.queues q).maxItems ∧
      ∃ item, data = (List.range (l.pre.kernel.queues q).itemSize).map item ∧
        l.post.kernel.content q = (l.pre.kernel.content q).pushItem item
  recv : ∀ q data, receivedItem q l = some data →
    (l.pre.kernel.queues q).count ≠ 0 ∧ data = (l.pre.kernel.queues q).frontItem ∧
      l.post.kernel.content q = (l.pre.kernel.content q).popItem

section Idle

variable {s s' : Sys} {k k' : Kernel} {e : Event} {out : Option Ret} {trace : List Label}

theorem Section.ends {c : ApiCall} {f : Flow} (hs : Section k (.call c) k' f)
    (hWaits : waitsIn k c = false) (hIdle : k.currentTask = idleTaskIdx) : f.result ≠ none := by
  intro hNone
  cases hs with
  | delay hUser => exact hUser hIdle
  | block hBlocks =>
    cases hBlocks with
    | sem hEmpty hTimeout => exact hTimeout (by simpa [waitsIn, hEmpty] using hWaits)
    | send hPiece hFull hStay =>
      cases hPiece
      simp [waitsIn, hFull, hStay] at hWaits
    | recv hPiece hEmpty hStay =>
      cases hPiece
      simp [waitsIn, hEmpty, hStay] at hWaits
  | lockBlock hLocked hOwner hTimeout =>
    exact hTimeout (by simpa [waitsIn, hLocked, hOwner] using hWaits)
  | lockFull hLocked hOwner hTimeout =>
    exact hTimeout (by simpa [waitsIn, hLocked, hOwner] using hWaits)
  | _ => cases hNone

theorem userBlocks_of_idleWaits (hMove : Move s e s' out)
    (h : idleWaits ⟨s, e, out, s'⟩ = false) : UserBlocks ⟨s, e, out, s'⟩ := by
  cases e with
  | call c =>
    cases out with
    | some ret => rfl
    | none =>
      refine beq_eq_false_iff_ne.mpr fun hIdle => ?_
      have hEnds : s.kernel.currentTask = idleTaskIdx → waitsIn s.kernel c = false := by
        simpa [idleWaits] using h
      generalize hOut : (none : Option Ret) = out at hMove
      cases hMove with
      | create => cases hOut
      | call _ _ _ hSection => exact hSection.ends (hEnds hIdle) hIdle hOut.symm
  | _ => rfl

theorem Waiting.dispatchesRunnable (h : Waiting k) (hCurrent : k.currentTask < k.taskCount) :
    DispatchesRunnable k (osScheduleNextTask k) := by
  have hReadied : ∀ t, ((readied k).userTasks t).currentState ≠ .blocked →
      (k.userTasks t).currentState ≠ .blocked := by
    intro t ht
    rw [userTasks_readied] at ht
    split at ht
    · rename_i hRunning
      rw [hRunning.2]
      simp
    · exact ht
  have hRunning : ∀ t, ((readied k).userTasks t).currentState = .running →
      (k.userTasks t).currentState ≠ .blocked := fun t ht => hReadied t (by simp [ht])
  intro t ht
  rw [osScheduleNextTask_eq] at ht
  split at ht
  · exact hRunning t ht
  · rw [userTasks_dispatch] at ht
    split at ht
    · subst t
      exact hReadied _ (h.afterReadied.select_not_blocked (by simpa using hCurrent))
    · exact hRunning t ht

theorem Locks.grantedWaits (h : Locks s) (hBooks : ∀ i, WaitBooks i trace s)
    (hMove : Move s e s' out) : GrantedWaits trace ⟨s, e, out, s'⟩ where
  sem i t hResult := by
    obtain ⟨_, hOne⟩ | ⟨hErr, _⟩ := (hBooks i).result hMove hResult
    · exact hOne
    · cases hErr
  mutex i hReturns := (h.truthful hMove i .ok hReturns).1 rfl
  send q data hSent := by
    cases hCreated : s.created.queue q with
    | false =>
      rw [(hMove.absent h.sound.pending_created hCreated).1] at hSent
      cases hSent
    | true =>
      have hMoves := hMove.moves hCreated
      rw [hSent] at hMoves
      generalize receivedItem q _ = received at hMoves
      cases hMoves with
      | push hRoom hContent => exact ⟨hRoom, _, rfl, hContent⟩
  recv q data hReceived := by
    cases hCreated : s.created.queue q with
    | false =>
      rw [(hMove.absent h.sound.pending_created hCreated).2] at hReceived
      cases hReceived
    | true =>
      have hMoves := hMove.moves hCreated
      rw [hReceived] at hMoves
      generalize sentItem q _ = sent at hMoves
      cases hMoves with
      | pop hItem hContent => exact ⟨hItem, rfl, hContent⟩

end Idle

theorem waitBooks_of_run {i : SemId} {image : Image} {calls : List CreateCall} {start s : Sys}
    {trace : List Label} (hBoot : boot image calls = some start) (hRun : Run start trace s)
    (hUser : ∀ l ∈ trace, UserBlocks l) : WaitBooks i trace s :=
  hRun.historyInvariant (semHistory_of_boot hBoot).waitBooks
    (fun _ _ hTaken hUser hPre => hPre.afterMove (move_of_step hTaken) hUser) hUser

theorem start_dispatchesRunnable {image : Image} {calls : List CreateCall} {start : Sys}
    (h : boot image calls = some start) :
    ∃ k, start.kernel = osScheduleNextTask k ∧ DispatchesRunnable k start.kernel := by
  obtain ⟨s, _, hBooting, rfl⟩ := boot_induction (P := fun _ _ => True) h trivial
    fun _ _ _ _ _ _ _ _ _ => trivial
  refine ⟨_, rfl, fun t _ hBlocked => ?_⟩
  rw [initIdleTask, Kernel.userTasks_modifyTask] at hBlocked
  split at hBlocked
  · cases hBlocked
  · exact absurd ((hBooting.ready t).symm.trans hBlocked) (by simp)

/-- As long as the hook of the idle task makes no call that has to wait, the idle task is
never blocked, only tasks that can run are dispatched, and every wait that succeeds was
granted what it waited for. -/
theorem idle_never_blocks {image : Image} {calls : List CreateCall} {start s : Sys}
    {trace : List Label} (hBoot : boot image calls = some start) (hRun : Run start trace s)
    (hIdle : ∀ l ∈ trace, idleWaits l = false ∧ WithinMutexLimit l.post.kernel) :
    ((s.kernel.userTasks idleTaskIdx).currentState ≠ .blocked ∧
      ∀ w, idleTaskIdx ∉ s.kernel.waiters w) ∧
    ((∃ k, start.kernel = osScheduleNextTask k ∧ DispatchesRunnable k start.kernel) ∧
      ∀ l ∈ trace, l.event = .pendSV → DispatchesRunnable l.pre.kernel l.post.kernel) ∧
    ∀ before l after, trace = before ++ l :: after → GrantedWaits before l := by
  have hUser : ∀ l ∈ trace, UserBlocks l := fun l hl =>
    userBlocks_of_idleWaits (move_of_step (hRun.split hl).1) (hIdle l hl).1
  have hLocks := locks_of_boot hBoot
  have hWaiting := (locks_of_run hRun hLocks hUser).sound.waiting
  refine ⟨⟨hWaiting.idle_not_blocked, fun w hMem => ?_⟩, ⟨start_dispatchesRunnable hBoot, ?_⟩, ?_⟩
  · have hOn := hWaiting.mem_waiters.mp hMem
    rw [hWaiting.idle_free] at hOn
    cases hOn
  · rintro ⟨pre, e, out, post⟩ hl rfl
    obtain ⟨hTaken, before, after, rfl, hBefore⟩ := hRun.split hl
    have hSound := (locks_of_run hBefore hLocks fun l hl =>
      hUser l (List.mem_append_left _ hl)).sound
    have hMove : Move pre .pendSV post out := move_of_step hTaken
    cases hMove with
    | pendSV =>
      have hWaits : Waiting { pre.kernel with pendSV := false } :=
        hSound.waiting.congr (.of_userTasks rfl rfl (by funext w; cases w <;> rfl))
      exact hWaits.dispatchesRunnable hSound.current_lt
  · rintro before l after rfl
    obtain ⟨hTaken, hBefore⟩ := hRun.prefix
    have hPast : ∀ l ∈ before, UserBlocks l := fun l hl => hUser l (List.mem_append_left _ hl)
    exact (locks_of_run hBefore hLocks hPast).grantedWaits
      (fun _ => waitBooks_of_run hBoot hBefore hPast) (move_of_step hTaken)

/-- The hook of the idle task posts to a semaphore, which releases task 1, and fails to take
the token itself. -/
theorem idle_never_blocks_posting :
    ∃ start trace s, boot sampleImage [sampleTask 5, .sem (some 0) 0 (some .fifo)] = some start ∧
      Run start trace s ∧ s.kernel.currentTask = 1 ∧
      (s.kernel.userTasks idleTaskIdx).currentState ≠ .blocked := by
  have hCheck : checkBoot sampleImage [sampleTask 5, .sem (some 0) 0 (some .fifo)]
      [.call (.semWait (some 0) osWaitForever), .pendSV, .call (.semPost (some 0)), .pendSV,
        .resume, .call (.taskDelay 1), .pendSV, .call (.semWait (some 0) 0), .tick, .pendSV,
        .resume]
      (fun l => !idleWaits l && decide (WithinMutexLimit l.post.kernel))
      (fun s => s.kernel.currentTask == 1) = true := by
    decide +kernel
  obtain ⟨start, hBoot, hCheck⟩ := boot_of_checkBoot hCheck
  obtain ⟨trace, s, hRun, _, hEach, hFinal⟩ := run_of_checkRun hCheck
  simp only [Bool.and_eq_true, Bool.not_eq_true', beq_iff_eq, decide_eq_true_eq] at hEach hFinal
  exact ⟨start, trace, s, hBoot, hRun, hFinal, (idle_never_blocks hBoot hRun hEach).1.1⟩

/-- The hook of the idle task waits for a semaphore while no other task can run. -/
theorem idle_blocked :
    ¬ ∀ image calls start trace s, boot image calls = some start → Run start trace s →
      ((s.kernel.userTasks idleTaskIdx).currentState ≠ .blocked ∧
        ∀ w, idleTaskIdx ∉ s.kernel.waiters w) ∧
      ((∃ k, start.kernel = osScheduleNextTask k ∧ DispatchesRunnable k start.kernel) ∧
        ∀ l ∈ trace, l.event = .pendSV → DispatchesRunnable l.pre.kernel l.post.kernel) ∧
      ∀ before l after, trace = before ++ l :: after → GrantedWaits before l := by
  intro hClaim
  have hCheck : checkBoot sampleImage [sampleTask 5, .sem (some 0) 0 (some .fifo)]
      [.call (.taskDelay osWaitForever), .pendSV, .call (.semWait (some 0) osWaitForever)]
      (fun _ => true)
      (fun s => (s.kernel.userTasks idleTaskIdx).currentState == .blocked) = true := by
    decide +kernel
  obtain ⟨start, hBoot, hCheck⟩ := boot_of_checkBoot hCheck
  obtain ⟨trace, s, hRun, _, _, hFinal⟩ := run_of_checkRun hCheck
  exact (hClaim _ _ start trace s hBoot hRun).1.1 (beq_iff_eq.mp hFinal)

end KoRTOS
