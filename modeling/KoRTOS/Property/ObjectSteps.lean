import KoRTOS.Property.ExpiredTasks
import KoRTOS.Property.Requests

/-!
# Transitions as steps of the objects

Which step of the objects a transition stands for, and that it is one: a call that creates
an object adds it, a call that starts asks, a task that was woken hears how it left its
waitlist or looks again, a handler asks for nobody, and a tick makes waiters give up.
-/

namespace KoRTOS

def creationAction (c : CreateCall) (ret : Ret) : SyncAction :=
  if ret.err = .ok then
    match c with
    | .sem (some i) n (some policy) => .newSemaphore i n policy.discipline
    | .mutex (some i) => .newMutex i .foremost
    | .queue (some q) _ _ maxItems (some policy) => .newQueue q maxItems.toNat policy.discipline
    | _ => .silent
  else .silent

def askAction (k : Kernel) (who : Option TaskId) (c : ApiCall) (out : Option Ret) : SyncAction :=
  match (Piece.call c).request k with
  | some r => .ask who r (out.map (answerOf r))
  | none => .silent

/-- The step of the objects that a transition of the system stands for. -/
def actionOf (l : Label) : SyncAction :=
  let k := l.pre.kernel
  match l.event with
  | .call (.create c) => (l.out.map (creationAction c)).getD .silent
  | .call c => askAction k (some k.currentTask) c l.out
  | .isrSend queue item => askAction k none (.queueSend queue item 0) l.out
  | .isrRecv queue itemNull => askAction k none (.queueRecv queue itemNull 0) l.out
  | .resume =>
    match (l.pre.pending k.currentTask).bind (Pending.request k) with
    | some r =>
      if l.out.isNone && !r.again then .silent
      else .goOn k.currentTask (l.out.map (answerOf r))
    | none => .silent
  | .tick => .clock
  | .pendSV => .silent

section Transitions

variable {s s' : Sys} {e : Event} {out : Option Ret} {k' : Kernel} {f : Flow} {piece : Piece}
  {r : SyncRequest} {pending pending' : TaskId → Option Pending} {c : CreateCall} {c' : ApiCall}
  {err : OsErr}

theorem update_discipline (L : WaitlistRef → SchedulePolicy)
    (p : SyncPlace) (policy : SchedulePolicy) :
    (fun p' => (Function.update L (waitlistOf p) policy (waitlistOf p')).discipline) =
      Function.update (fun p' => (L (waitlistOf p')).discipline) p policy.discipline := by
  funext p'
  have hHere := congrFun (update_waitlistOf L p policy) p'
  rw [hHere, Function.update_apply, Function.update_apply]
  split <;> rfl

theorem policy_setSemaphore {k : Kernel} {i : SemId} {sem : Semaphore} :
    (k.setSemaphore i sem).policy =
      Function.update k.policy (waitlistOf (.token i)) sem.waitlist.schedulePolicy := by
  funext w
  cases w with
  | sem j =>
    by_cases h : j = i
    · simp [h, Kernel.policy, Kernel.waitlist, Kernel.setSemaphore, waitlistOf]
    · simp [h, Kernel.policy, Kernel.waitlist, Kernel.setSemaphore, waitlistOf]
  | _ => rfl

theorem policy_setMutex {k : Kernel} {i : MutexId} {mtx : Mutex} :
    (k.setMutex i mtx).policy =
      Function.update k.policy (waitlistOf (.mutex i)) mtx.waitlist.schedulePolicy := by
  funext w
  cases w with
  | mutex j =>
    by_cases h : j = i
    · simp [h, Kernel.policy, Kernel.waitlist, Kernel.setMutex, waitlistOf]
    · simp [h, Kernel.policy, Kernel.waitlist, Kernel.setMutex, waitlistOf]
  | _ => rfl

theorem policy_setQueue {k : Kernel} {q : QueueId} {queue : Queue} :
    (k.setQueue q queue).policy =
      Function.update
        (Function.update k.policy (waitlistOf (.room q)) queue.sendWaitlist.schedulePolicy)
        (waitlistOf (.item q)) queue.recvWaitlist.schedulePolicy := by
  funext w
  cases w with
  | queueSend p =>
    by_cases h : p = q
    · simp [h, Kernel.policy, Kernel.waitlist, Kernel.setQueue, waitlistOf]
    · simp [h, Kernel.policy, Kernel.waitlist, Kernel.setQueue, waitlistOf]
  | queueRecv p =>
    by_cases h : p = q
    · simp [h, Kernel.policy, Kernel.waitlist, Kernel.setQueue, waitlistOf]
    · simp [h, Kernel.policy, Kernel.waitlist, Kernel.setQueue, waitlistOf]
  | _ => rfl

theorem content_creation {created : Objects} {k : Kernel} {q : QueueId}
    (hCreation : Creation k c k' err) (hFresh : created.fresh c = true)
    (hCreated : created.queue q = true) : k'.content q = k.content q := by
  cases hCreation with
  | @queue p =>
    rw [content_setQueue, if_neg]
    rintro rfl
    simp [Objects.fresh, hCreated] at hFresh
  | _ => rfl

theorem Sound.objectsOf_creation (h : Sound s) (hFresh : s.created.fresh c = true)
    (hCreation : Creation s.kernel c k' err) :
    objectsOf k' s.pending =
      { s.objects with
        tokens := k'.tokens
        owner := k'.ownerOf
        items := fun q => (k'.content q).items
        capacity := fun q => (k'.content q).maxItems
        discipline := fun p => (k'.policy (waitlistOf p)).discipline } := by
  have hWaiters := (h.waiters_creation hFresh hCreation).1
  have hPhase : ∀ t, phaseOf k' t (s.pending t) = phaseOf s.kernel t (s.pending t) := by
    intro t
    cases hPending : s.pending t with
    | none => rfl
    | some rest =>
      have hTask := userTasks_creation_old hCreation (h.pending_user hPending).2
      have hRequest : rest.request k' = rest.request s.kernel := by
        cases rest with
        | queueSend q =>
          have hCreated : s.created.queue q = true := h.pending_created _ _ _ hPending rfl
          rw [Pending.request, Pending.request, itemBytes, itemBytes,
            content_creation hCreation hFresh hCreated]
        | _ => rfl
      rw [phaseOf, phaseOf, Option.bind_some, Option.bind_some, hRequest, Kernel.blockedOn,
        Kernel.timedOut, hTask]
      rfl
  simp only [objectsOf, Sys.objects, hWaiters, hPhase]

theorem Sound.creates (h : Sound s)
    (hUnowned : ∀ i, s.created.mutex i = false → s.kernel.ownerOf i = none)
    (hFresh : s.created.fresh c = true) (hCreation : Creation s.kernel c k' err) :
    Synchronization.Step s.kernel.eff s.objects (creationAction c ⟨err, []⟩)
      (objectsOf k' s.pending) := by
  have hNone : ∀ w, s.created.has w = false → s.kernel.waiters w = [] :=
    fun w => h.waiters_absent
  have hObjects := h.objectsOf_creation hFresh hCreation
  cases hCreation with
  | fail hErr =>
    have hAction : creationAction c ⟨err, []⟩ = .silent := if_neg hErr
    rw [hAction]
    exact .silent
  | @task handler priority _ _ memory sp =>
    have hSame : (addTask s.kernel memory handler sp priority).policy = s.kernel.policy := by
      funext w
      cases w <;> rfl
    rw [hSame] at hObjects
    rw [hObjects]
    exact .silent
  | @sem i n policy =>
    have hAbsent : s.created.sem i = false := by simpa [Objects.fresh] using hFresh
    have hTokens : (s.kernel.setSemaphore i ⟨n, waitlistInit policy⟩).tokens =
        Function.update s.kernel.tokens i n := by
      funext j
      simp only [Kernel.tokens, Kernel.setSemaphore, Function.update_apply]
      split <;> rfl
    rw [hTokens, policy_setSemaphore, update_discipline] at hObjects
    rw [hObjects]
    exact .newSemaphore (hNone (.sem i) hAbsent)
  | @mutex i =>
    have hAbsent : s.created.mutex i = false := by simpa [Objects.fresh] using hFresh
    have hFree : s.kernel.ownerOf i = none := hUnowned i hAbsent
    have hOwner : (s.kernel.setMutex i ⟨none, .unlocked, waitlistInit .priority⟩).ownerOf =
        s.kernel.ownerOf := by
      funext j
      simp only [Kernel.ownerOf, Kernel.setMutex, Function.update_apply]
      split
      · subst j
        exact hFree.symm
      · rfl
    rw [hOwner, policy_setMutex, update_discipline] at hObjects
    rw [hObjects]
    exact .newMutex hFree (hNone (.mutex i) hAbsent)
  | @queue q buffer size max policy =>
    have hAbsent : s.created.queue q = false := by simpa [Objects.fresh] using hFresh
    have hContent : ∀ p, (s.kernel.setQueue q (emptyQueue buffer size max policy)).content p =
        if p = q then emptyQueue buffer size max .fifo else s.kernel.content p := by
      intro p
      rw [content_setQueue]
      rfl
    have hItems : (fun p => (if p = q then emptyQueue buffer size max .fifo
        else s.kernel.content p).items) =
          Function.update (fun p => (s.kernel.content p).items) q [] := by
      funext p
      rw [Function.update_apply]
      split <;> rfl
    have hCapacity : (fun p => (if p = q then emptyQueue buffer size max .fifo
        else s.kernel.content p).maxItems) =
          Function.update (fun p => (s.kernel.content p).maxItems) q max.toNat := by
      funext p
      rw [Function.update_apply]
      split <;> rfl
    simp only [hContent] at hObjects
    rw [hItems, hCapacity, policy_setQueue, update_discipline, update_discipline] at hObjects
    rw [hObjects]
    exact .newQueue (hNone (.queueSend q) hAbsent) (hNone (.queueRecv q) hAbsent)

theorem objectsOf_pending {k : Kernel}
    (h : ∀ t, (pending' t).bind (Pending.request k) = (pending t).bind (Pending.request k)) :
    objectsOf k pending' = objectsOf k pending := by
  have hPhase : ∀ t, phaseOf k t (pending' t) = phaseOf k t (pending t) := by
    intro t
    rw [phaseOf, phaseOf, h]
  simp only [objectsOf, hPhase]

theorem objects_afterPiece (hs : Section s.kernel piece k' f)
    (hRest : f.rest.bind (Pending.request k') =
      (s.pending s.kernel.currentTask).bind (Pending.request k')) :
    (s.afterPiece k' f).objects = objectsOf k' s.pending := by
  refine objectsOf_pending fun t => ?_
  rw [pending_afterPiece hs]
  split
  · rename_i hEq
    rw [hEq]
    exact hRest
  · rfl

theorem objects_afterPiece_leave (hs : Section s.kernel piece k' f) (hRest : f.rest = none) :
    (s.afterPiece k' f).objects =
      (objectsOf k' s.pending).leave (some s.kernel.currentTask) := by
  rw [← objectsOf_leave, Sys.objects, Sys.afterPiece, hs.current.1, hRest]

theorem objectsOf_delayCurrent {k : Kernel} {n : U32} :
    objectsOf (delayCurrent k n) pending = objectsOf k pending := by
  have hTimeout : (delayCurrent k n).timedOut = k.timedOut := by
    funext t
    simp only [delayCurrent, Kernel.timedOut, Kernel.userTasks_portYield,
      Kernel.userTasks_modifyTask]
    split
    · subst t
      rfl
    · rfl
  have hWaitlist : (delayCurrent k n).waitlist = k.waitlist := by simp [delayCurrent]
  rw [objectsOf_of_waitlist hWaitlist blockedOn_delayCurrent hTimeout fun _ => rfl]
  rfl

theorem Section.silent {k : Kernel} (hs : Section k piece k' f)
    (pending : TaskId → Option Pending) (hNone : piece.request k = none) :
    objectsOf k' pending = objectsOf k pending ∧ f.rest.bind (Pending.request k') = none := by
  have hQueue : ∀ {r'}, piece.request k = some r' → False := by
    intro r' hSome
    cases hSome.symm.trans hNone
  cases hs with
  | refuse => exact ⟨rfl, rfl⟩
  | delay => exact ⟨objectsOf_delayCurrent, rfl⟩
  | serve hTraffic =>
    cases hTraffic with
    | post => cases hNone
    | push hPiece => exact (hQueue hPiece.request).elim
    | pop hPiece => exact (hQueue hPiece.request).elim
  | wake hTraffic =>
    cases hTraffic with
    | post => cases hNone
    | push hPiece => exact (hQueue hPiece.request).elim
    | pop hPiece => exact (hQueue hPiece.request).elim
  | block hBlocks =>
    cases hBlocks with
    | sem => cases hNone
    | send hPiece => exact (hQueue hPiece.request).elim
    | recv hPiece => exact (hQueue hPiece.request).elim
  | _ => cases hNone

theorem Section.objects_silent (hs : Section s.kernel piece k' f)
    (hNone : piece.request s.kernel = none)
    (hPending : (s.pending s.kernel.currentTask).bind (Pending.request k') = none) :
    (s.afterPiece k' f).objects = s.objects := by
  obtain ⟨hSame, hRest⟩ := hs.silent s.pending hNone
  rw [objects_afterPiece hs (hRest.trans hPending.symm), hSame]
  rfl

section Woken

variable {k : Kernel} {rest : Pending} {q : QueueId} {item : Nat → U8} {n d : U32}
  {w : WaitlistRef} {data : List U8}

theorem Sending.looks_again (h : Sending k (.rest rest) q item n d)
    (hRequest : rest.request k = some r) : r.again = true ∧ k.current.timeout = false := by
  cases h with
  | rest hTimeout =>
    cases hRequest
    exact ⟨rfl, hTimeout⟩

theorem Receiving.looks_again (h : Receiving k (.rest rest) q n d)
    (hRequest : rest.request k = some r) : r.again = true ∧ k.current.timeout = false := by
  cases h with
  | rest hTimeout =>
    cases hRequest
    exact ⟨rfl, hTimeout⟩

theorem Traffic.looks_again (h : Traffic k (.rest rest) w k' data)
    (hRequest : rest.request k = some r) : r.again = true ∧ k.current.timeout = false := by
  cases h with
  | push hPiece => exact hPiece.looks_again hRequest
  | pop hPiece => exact hPiece.looks_again hRequest

theorem Blocks.looks_again {pending : Pending} (h : Blocks k (.rest rest) w n pending)
    (hRequest : rest.request k = some r) : r.again = true ∧ k.current.timeout = false := by
  cases h with
  | send hPiece => exact hPiece.looks_again hRequest
  | recv hPiece => exact hPiece.looks_again hRequest

theorem Section.given (hs : Section k (.rest rest) k' f) (hRequest : rest.request k = some r)
    (hGiven : r.again = false) (hLock : ∀ i err st, rest = .mutexLock i err st → err = .ok) :
    (k' = k ∧ f = .ret (timeoutResult k)) ∨
      (Reranked k k' ∧ ∃ rest', f = .suspended rest' ∧ rest'.request k' = some r) := by
  cases hs with
  | refuse hRefused =>
    cases hRefused with
    | delayOver => cases hRequest
    | semOver => exact .inl ⟨rfl, rfl⟩
    | lockOver => exact .inl ⟨rfl, rfl⟩
    | lockFailed hErr => exact absurd (hLock _ _ _ rfl) hErr
    | sendFull hPiece => cases hGiven.symm.trans (hPiece.looks_again hRequest).1
    | recvEmpty hPiece => cases hGiven.symm.trans (hPiece.looks_again hRequest).1
    | listFull hBlocks => cases hGiven.symm.trans (hBlocks.looks_again hRequest).1
    | sendOver =>
      cases hRequest
      cases hGiven
    | recvOver =>
      cases hRequest
      cases hGiven
  | serve hTraffic => cases hGiven.symm.trans (hTraffic.looks_again hRequest).1
  | wake hTraffic => cases hGiven.symm.trans (hTraffic.looks_again hRequest).1
  | block hBlocks => cases hGiven.symm.trans (hBlocks.looks_again hRequest).1
  | stage => exact .inr ⟨.refl _, _, rfl, hRequest⟩
  | write => exact .inr ⟨.setEffectivePriority _ _ _, _, rfl, hRequest⟩

theorem Section.late (hs : Section k (.rest rest) k' f) (hRequest : rest.request k = some r)
    (hAgain : r.again = true) (hTimeout : k.current.timeout = true) :
    k' = k ∧ f = .ret .unavailable := by
  cases hs with
  | refuse hRefused =>
    cases hRefused with
    | delayOver => cases hRequest
    | semOver =>
      cases hRequest
      cases hAgain
    | lockOver =>
      cases hRequest
      cases hAgain
    | lockFailed =>
      cases hRequest
      cases hAgain
    | sendFull hPiece => cases hTimeout.symm.trans (hPiece.looks_again hRequest).2
    | recvEmpty hPiece => cases hTimeout.symm.trans (hPiece.looks_again hRequest).2
    | listFull hBlocks => cases hTimeout.symm.trans (hBlocks.looks_again hRequest).2
    | sendOver => exact ⟨rfl, rfl⟩
    | recvOver => exact ⟨rfl, rfl⟩
  | serve hTraffic => cases hTimeout.symm.trans (hTraffic.looks_again hRequest).2
  | wake hTraffic => cases hTimeout.symm.trans (hTraffic.looks_again hRequest).2
  | block hBlocks => cases hTimeout.symm.trans (hBlocks.looks_again hRequest).2
  | stage =>
    cases hRequest
    cases hAgain
  | write =>
    cases hRequest
    cases hAgain

end Woken

theorem actionOf_resume {rest : Pending} (hRest : s.pending s.kernel.currentTask = some rest)
    (hRequest : rest.request s.kernel = some r) :
    actionOf ⟨s, .resume, out, s'⟩ =
      if out.isNone && !r.again then .silent
      else .goOn s.kernel.currentTask (out.map (answerOf r)) := by
  have hBind : (s.pending s.kernel.currentTask).bind (Pending.request s.kernel) = some r := by
    rw [hRest]
    exact hRequest
  simp only [actionOf, hBind]

/-- What a task hears that was given a token or a mutex, or that has waited too long for it. -/
theorem step_returned (hPhase : s.objects.phase s.kernel.currentTask =
      if s.kernel.timedOut s.kernel.currentTask then .late r else .served r)
    (hGiven : r.again = false) :
    Synchronization.Step s.kernel.eff s.objects
      (.goOn s.kernel.currentTask (some (answerOf r ⟨timeoutResult s.kernel, []⟩)))
      (s.objects.leave (some s.kernel.currentTask)) := by
  cases hTimeout : s.kernel.timedOut s.kernel.currentTask with
  | true =>
    have hResult : timeoutResult s.kernel = .unavailable := if_pos hTimeout
    rw [hTimeout] at hPhase
    rw [hResult]
    exact .late hPhase
  | false =>
    have hInTime : s.kernel.current.timeout = false := hTimeout
    have hResult : timeoutResult s.kernel = .ok := by simp [timeoutResult, hInTime]
    rw [hTimeout] at hPhase
    rw [hResult]
    have hAnswer : answerOf r ⟨.ok, []⟩ = .done := by
      cases r with
      | get => cases hGiven
      | _ => rfl
    rw [hAnswer]
    exact .granted hPhase hGiven

/-- The next piece of a call whose task was dispatched again is one step of the objects. -/
theorem Refining.resumes (h : Refining s) {rest : Pending}
    (hFits : (Piece.rest rest).fits s.kernel = true) (hRun : s.kernel.pendSV = false)
    (hRest : s.pending s.kernel.currentTask = some rest)
    (hs : Section s.kernel (.rest rest) k' f) :
    Synchronization.Step s.kernel.eff s.objects
      (actionOf ⟨s, .resume, f.result, s.afterPiece k' f⟩) (s.afterPiece k' f).objects := by
  have hSound := h.locks.sound
  have hOn : s.kernel.blockedOn s.kernel.currentTask = none :=
    hSound.waiting.free_of_not_blocked (hSound.current_free hRun)
  cases hRequest : rest.request s.kernel with
  | none =>
    cases rest with
    | taskDelay =>
      rw [hs.objects_silent rfl (by rw [hRest]; rfl)]
      have hAction : actionOf ⟨s, .resume, f.result, s.afterPiece k' f⟩ = .silent := by
        simp [actionOf, hRest, Pending.request]
      rw [hAction]
      exact .silent
    | _ => cases hRequest
  | some r =>
    have hPhase := phaseOf_left hOn hRest hRequest
    rw [actionOf_resume hRest hRequest]
    cases hAgain : r.again with
    | false =>
      obtain ⟨rfl, rfl⟩ | ⟨hRanks, rest', rfl, hKept⟩ :=
        hs.given hRequest hAgain fun _ _ _ hEq => hSound.lock_ok (hRest.trans (congrArg some hEq))
      · rw [objects_afterPiece_leave hs rfl]
        exact step_returned hPhase hAgain
      · have hSame : Pending.request k' = Pending.request s.kernel :=
          request_congr fun q => by rw [content_congr hRanks.queues]
        have hStill : rest'.request k' = rest.request k' := by rw [hKept, hSame, hRequest]
        rw [objects_afterPiece hs (by rw [hRest]; exact hStill), objectsOf_reranked hRanks]
        exact .silent
    | true =>
      simp only [Bool.not_true, Bool.and_false, Bool.false_eq_true, if_false]
      cases hTimeout : s.kernel.timedOut s.kernel.currentTask with
      | true =>
        obtain ⟨rfl, rfl⟩ := hs.late hRequest hAgain hTimeout
        rw [objects_afterPiece_leave hs rfl]
        rw [hTimeout] at hPhase
        exact .late hPhase
      | false =>
        have hAttempts : (Piece.rest rest).Attempts s.kernel r := by
          refine ⟨hRequest, ?_⟩
          rintro _ ⟨⟩
          exact ⟨hAgain, hTimeout⟩
        rw [hTimeout] at hPhase
        refine .again hPhase hAgain ?_
        cases hEnd : f.rest with
        | none =>
          rw [objects_afterPiece_leave hs hEnd]
          have hCreated : ∀ w, (Piece.rest rest).uses = some w → s.created.has w = true :=
            fun w => hSound.pending_created _ _ w hRest
          exact h.tries_ended hFits hCreated hs hEnd hAttempts (.inl rfl)
        | some rest' => exact h.tries_blocked hs hEnd hAttempts

theorem Refining.calls (h : Refining s) (hFits : (Piece.call c').fits s.kernel = true)
    (hFree : s.pending s.kernel.currentTask = none) (hAllowed : s.created.allows c' = true)
    (hs : Section s.kernel (.call c') k' f) :
    Synchronization.Step s.kernel.eff s.objects
      (askAction s.kernel (some s.kernel.currentTask) c' f.result) (s.afterPiece k' f).objects := by
  unfold askAction
  cases hRequest : (Piece.call c').request s.kernel with
  | none =>
    rw [hs.objects_silent hRequest (by rw [hFree]; rfl)]
    exact .silent
  | some r =>
    have hAttempts : (Piece.call c').Attempts s.kernel r := ⟨hRequest, by rintro _ ⟨⟩⟩
    refine .ask ?_ ?_
    · rintro t ⟨⟩
      exact phaseOf_outside (by rw [hFree]; rfl)
    · cases hEnd : f.rest with
      | none =>
        rw [objects_afterPiece_leave hs hEnd]
        exact h.tries_ended hFits (fun w hUses => uses_allowed hAllowed hUses) hs hEnd hAttempts
          (.inl rfl)
      | some rest => exact h.tries_blocked hs hEnd hAttempts

theorem Refining.handles (h : Refining s) (hFits : (Piece.call c').fits s.kernel = true)
    (hAllowed : s.created.allows c' = true)
    (hQueue : ∀ r, (Piece.call c').request s.kernel = some r → r.again = true) {data : List U8}
    (hs : Section s.kernel (.call c') k' (.returned err data)) :
    Synchronization.Step s.kernel.eff s.objects (askAction s.kernel none c' (some ⟨err, data⟩))
      (objectsOf k' s.pending) := by
  unfold askAction
  cases hRequest : (Piece.call c').request s.kernel with
  | none =>
    rw [(hs.silent s.pending hRequest).1]
    exact .silent
  | some r =>
    have hAttempts : (Piece.call c').Attempts s.kernel r := ⟨hRequest, by rintro _ ⟨⟩⟩
    refine .ask (by rintro _ ⟨⟩) ?_
    exact h.tries_ended hFits (fun w hUses => uses_allowed hAllowed hUses) hs rfl hAttempts
      (.inr (hQueue r hRequest))

theorem Refining.ticks (h : Refining s) :
    Synchronization.Step s.kernel.eff s.objects .clock (objectsOf (osTick s.kernel) s.pending) := by
  have hSound := h.locks.sound
  have hEntries : UserEntries s.kernel := (Seated.of_sound hSound).entries
  have hPlaced : Placed s.kernel := (Housed.of_sound hSound).placed
  have hTicked := (hPlaced.afterTick hEntries).2
  have hContent : (osTick s.kernel).content = s.kernel.content := content_osTick
  have hWaiters : ∀ w, (osTick s.kernel).waiters w =
      (s.kernel.waiters w).filter fun t => !decide (Expires s.kernel t) := by
    intro w
    rw [waiters_tick hPlaced hEntries]
    simp
  have hPhase : ∀ t, phaseOf (osTick s.kernel) t (s.pending t) =
      if decide (Expires s.kernel t) then (phaseOf s.kernel t (s.pending t)).expire
      else phaseOf s.kernel t (s.pending t) := by
    intro t
    obtain ⟨hWoken, hOther⟩ := userTasks_tick hPlaced hEntries (t := t)
    by_cases hExpires : Expires s.kernel t
    · have hOn : (osTick s.kernel).blockedOn t = none := by
        rw [Kernel.blockedOn, hWoken hExpires]
        rfl
      have hTimeout : (osTick s.kernel).timedOut t = (s.kernel.blockedOn t).isSome := by
        rw [Kernel.timedOut, hWoken hExpires]
        rfl
      rw [decide_eq_true hExpires, if_pos rfl, phaseOf, phaseOf,
        request_congr (k := s.kernel) fun q => by rw [hContent], hOn, hTimeout]
      cases hBind : (s.pending t).bind (Pending.request s.kernel) with
      | none => rfl
      | some r =>
        obtain ⟨rest, hRest, hRequest⟩ := Option.bind_eq_some_iff.mp hBind
        cases hWaits : s.kernel.blockedOn t with
        | some w => rfl
        | none =>
          have hDelay : rest ≠ .taskDelay := by
            rintro rfl
            cases hRequest
          exact absurd hExpires.2.2.1 (hSound.not_blocked hRest hDelay hWaits)
    · rw [decide_eq_false hExpires]
      apply phaseOf_congr (fun q => by rw [hContent])
      · rw [Kernel.blockedOn, hOther hExpires, Kernel.blockedOn]
      · rw [Kernel.timedOut, hOther hExpires, Kernel.timedOut]
  have hObjects : objectsOf (osTick s.kernel) s.pending =
      s.objects.expire fun t => decide (Expires s.kernel t) := by
    have hTokens : (osTick s.kernel).tokens = s.kernel.tokens := hTicked.tokens
    have hOwner : (osTick s.kernel).ownerOf = s.kernel.ownerOf := hTicked.ownerOf
    have hPolicy : (osTick s.kernel).policy = s.kernel.policy := hTicked.policy
    simp only [objectsOf, Synchronization.Objects.expire, Sys.objects, hTokens, hOwner, hPolicy,
      hContent, hWaiters, hPhase]
  rw [hObjects]
  exact .clock _

end Transitions
end KoRTOS
