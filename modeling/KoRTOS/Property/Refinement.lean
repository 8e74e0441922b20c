import KoRTOS.Evaluation
import KoRTOS.Property.ObjectSteps

/-!
# The kernel refines the objects it implements

Each transition of the system is one step of the objects that its state stands for, with the
answer that the call returns. Waitlists, control blocks, priorities, ring buffers and the
unprotected steps of `os_mutex_lock` are an implementation of them and show in no answer.
-/

namespace KoRTOS

section Transitions

variable {s s' : Sys} {e : Event} {out : Option Ret} {k' : Kernel} {c : CreateCall}
  {pending : TaskId → Option Pending}

theorem objectsOf_of_states {k : Kernel} (h : SameButStates k k') :
    objectsOf k' pending = objectsOf k pending := by
  have hTimeout : k'.timedOut = k.timedOut := by
    funext t
    obtain ⟨state, hTask⟩ := h.tasks t
    rw [Kernel.timedOut, hTask, Kernel.timedOut]
  have hContent : k'.content = k.content := content_congr h.queues
  rw [objectsOf_of_waitlist h.waitlist h.blockedOn hTimeout fun q => by rw [hContent], hContent,
    tokens_congr h.semaphores, (SameOwning.of_states h).ownerOf]
  rfl

/-- Every transition of the system is one step of the objects. -/
theorem Refining.step (h : Refining s) (hMove : Move s e s' out)
    (hFits : (pieceOf s e).all (Piece.fits s.kernel) = true) :
    Synchronization.Step s.kernel.eff s.objects (actionOf ⟨s, e, out, s'⟩) s'.objects := by
  cases hMove with
  | create _ _ hFresh hCreation =>
    exact h.locks.sound.creates (fun _ => h.locks.absent) hFresh hCreation
  | @call c k' f _ hFree hAllowed hs hCall =>
    have hAction : actionOf ⟨s, .call c, f.result, s.afterPiece k' f⟩ =
        askAction s.kernel (some s.kernel.currentTask) c f.result := by
      cases c with
      | create call => exact absurd rfl (hCall call)
      | _ => rfl
    rw [hAction]
    exact h.calls hFits hFree hAllowed hs
  | @resume rest k' f hRun hRest hs =>
    rw [pieceOf, hRest] at hFits
    exact h.resumes hFits hRun hRest hs
  | @isrSend queue item k' err data hAllowed hs =>
    have hCall : (Piece.call (.queueSend queue item 0)).fits s.kernel = true := hFits
    have hStep := h.handles hCall hAllowed ?_ hs
    · have hObjects : objectsOf (if err = .unavailable then countDropped k' queue else k')
          s.pending = objectsOf k' s.pending := by
        split
        · exact objectsOf_countDropped
        · rfl
      rw [← hObjects] at hStep
      exact hStep
    · intro r hRequest
      cases queue <;> cases item <;> cases hRequest
      rfl
  | @isrRecv queue itemNull _ _ _ hAllowed hs =>
    have hCall : (Piece.call (.queueRecv queue itemNull 0)).fits s.kernel = true := hFits
    refine h.handles hCall hAllowed ?_ hs
    intro r hRequest
    cases queue <;> cases itemNull <;> cases hRequest
    rfl
  | tick => exact h.ticks
  | pendSV =>
    have hSame : SameButStates { s.kernel with pendSV := false } (pendSVHandler s.kernel) :=
      sameButStates_osScheduleNextTask
    have hCleared : objectsOf { s.kernel with pendSV := false } s.pending = s.objects :=
      objectsOf_congr (.of_userTasks rfl rfl (by funext w; cases w <;> rfl)) rfl rfl rfl
    have hObjects : objectsOf (pendSVHandler s.kernel) s.pending = s.objects :=
      (objectsOf_of_states hSame).trans hCleared
    change Synchronization.Step _ _ _ (objectsOf (pendSVHandler s.kernel) s.pending)
    rw [hObjects]
    exact .silent

theorem Refining.of_run {image : Image} {calls : List CreateCall} {start : Sys}
    {trace : List Label} (hBoot : boot image calls = some start) (hRun : Run start trace s)
    (hUser : ∀ l ∈ trace, UserBlocks l) : Refining s where
  locks := locks_of_run hRun (locks_of_boot hBoot) hUser
  priorities := (Reaches.candidates ⟨image, calls, start, hBoot, hRun⟩).priorities
  rings {q} hCreated := .of_content
    ((queueHistory_of_run hRun (queueHistory_of_boot (q := q) hBoot)).ring hCreated)

theorem Booting.sound_setUp (h : Booting s) : Sound s where
  waiting := h.waiting
  current_lt := by
    rw [h.currentTask]
    exact h.taskCount_pos
  current_free _ := by
    rw [Kernel.current, h.ready]
    simp
  pending_waits hOn := by
    rw [Kernel.blockedOn, h.free] at hOn
    cases hOn
  pending_created t rest w hPending := by
    rw [h.pending] at hPending
    cases hPending
  lock_ok hPending := by
    rw [h.pending] at hPending
    cases hPending
  pending_user hPending := by
    rw [h.pending] at hPending
    cases hPending
  delay_pending hDelay := by
    rw [h.reason] at hDelay
    cases hDelay

theorem prepares_creationAction (ret : Ret) : (creationAction c ret).prepares = true := by
  unfold creationAction
  split
  · split <;> rfl
  · rfl

theorem Booting.objects_start (h : Booting s) (handler stack : U32) :
    objectsOf (osKernelStart s.kernel handler stack) s.pending = s.objects := by
  have hSame := sameButStates_osScheduleNextTask (k := initIdleTask s.kernel handler stack)
  have hWaitlist : (initIdleTask s.kernel handler stack).waitlist = s.kernel.waitlist := by
    funext w
    cases w <;> rfl
  have hWaiters : (initIdleTask s.kernel handler stack).waiters = s.kernel.waiters := by
    funext w
    rw [Kernel.waiters, hWaitlist, Kernel.waiters]
  have hPhase : ∀ k t, phaseOf k t (s.pending t) = .outside := by
    intro k t
    rw [h.pending]
    rfl
  refine (objectsOf_of_states hSame).trans ?_
  simp only [objectsOf, Sys.objects, hPhase, hWaiters, policy_of_waitlist hWaitlist]
  rfl

theorem objects_zeroSys (image : Image) : (zeroSys image).objects = .empty := by
  have hWaiters : ∀ w, (zeroKernel image).waiters w = [] := by
    intro w
    cases w <;> exact Waitlist.tasks_init _
  have hPolicy : ∀ w, (zeroKernel image).policy w = .fifo := by
    intro w
    cases w <;> rfl
  simp only [Sys.objects, zeroSys, objectsOf, hWaiters, hPolicy]
  rfl

theorem objects_of_boot {image : Image} {calls : List CreateCall} {start : Sys}
    (h : boot image calls = some start) :
    ∃ setUp, Synchronization.Run .empty setUp start.objects ∧
      ∀ step ∈ setUp, step.2.prepares = true := by
  have hBooted := boot_induction
    (P := fun _ s => ∃ setUp, Synchronization.Run .empty setUp s.objects ∧
      ∀ step ∈ setUp, step.2.prepares = true) h ?_ ?_
  · obtain ⟨s, hSetUp, hBooting, rfl⟩ := hBooted
    have hObjects := hBooting.objects_start image.idleTaskHandler image.idleTaskStack
    rw [← hObjects] at hSetUp
    exact hSetUp
  · refine ⟨[], ?_, by simp⟩
    rw [objects_zeroSys]
    exact .nil
  · rintro _ s c k' err ⟨setUp, hRun, hPrepares⟩ hBooting hFresh hCreation
    have hStep := hBooting.sound_setUp.creates (fun i _ => hBooting.unowned i) hFresh hCreation
    refine ⟨_, .snoc hRun hStep, fun step hMem => ?_⟩
    obtain hOld | hNew := List.mem_append.mp hMem
    · exact hPrepares step hOld
    · obtain rfl := List.mem_singleton.mp hNew
      exact prepares_creationAction _

end Transitions

end KoRTOS
