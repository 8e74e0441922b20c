import KoRTOS.Property.IdleTask

/-!
# FIFO waitlists of queues

A waitlist keeps the order of insertion, and a `FIFO` queue releases its head. A
call is inserted when it is made, but also when its task was woken and finds the
queue as before; it then comes behind calls that are younger. The order is that
of the calls as long as no task has to do so.
-/

namespace KoRTOS

def callsAs (t : TaskId) (l : Label) : Bool :=
  match l.event with
  | .call _ => l.pre.kernel.currentTask == t
  | _ => false

/-- When task `t` made its latest call, counted in transitions. A call that blocks at all
blocks first when it is made. -/
def calledAt (t : TaskId) (trace : List Label) : Nat :=
  match trace.reverse.findIdx? (callsAs t) with
  | some n => trace.length - n
  | none => 0

def FifoQueueList (k : Kernel) (w : WaitlistRef) : Prop :=
  (∃ q, w = .queueSend q ∨ w = .queueRecv q) ∧ k.policy w = .fifo

/-- The waitlists are in the order of the calls, and whoever is released from one, not by a
time-out, made the earliest of the calls that wait there. -/
structure OldestFirst (trace : List Label) (s : Sys) : Prop where
  order : ∀ w, FifoQueueList s.kernel w →
    (s.kernel.waiters w).Pairwise fun t u => calledAt t trace < calledAt u trace
  released : ∀ before l after, trace = before ++ l :: after → ∀ w, FifoQueueList l.pre.kernel w →
    l.event ≠ .tick → ∀ t ∈ l.pre.kernel.waiters w, t ∉ l.post.kernel.waiters w →
      ∀ u ∈ l.pre.kernel.waiters w, u ≠ t → calledAt t before < calledAt u before

/-- The waitlist in which the running task, woken inside of a queue call, has to block again. -/
def blocksAgain (s : Sys) : Option WaitlistRef :=
  let k := s.kernel
  match s.pending k.currentTask with
  | some (.queueSend q _ timeout deadlineTick) =>
    if k.current.timeout = false ∧ (k.queues q).maxItems ≤ (k.queues q).count ∧
        ¬ GivesUp k timeout deadlineTick then some (.queueSend q)
    else none
  | some (.queueRecv q timeout deadlineTick) =>
    if k.current.timeout = false ∧ (k.queues q).count = 0 ∧ ¬ GivesUp k timeout deadlineTick then
      some (.queueRecv q)
    else none
  | _ => none

/-- A woken task has to block again in a `FIFO` waitlist where a younger call waits. -/
def losesPlace (before : List Label) (l : Label) : Bool :=
  match l.event, blocksAgain l.pre with
  | .resume, some w =>
    l.pre.kernel.policy w == .fifo && (l.pre.kernel.waiters w).any fun u =>
      decide (calledAt l.pre.kernel.currentTask before ≤ calledAt u before)
  | _, _ => false

section Calls

variable {t : TaskId} {trace : List Label} {l : Label}

theorem calledAt_snoc : calledAt t (trace ++ [l]) =
    if callsAs t l then trace.length + 1 else calledAt t trace := Transition.latest_snoc

end Calls

section Order

variable {k k' : Kernel} {piece : Piece} {f : Flow} {w : WaitlistRef} {s s' : Sys} {e : Event}
  {out : Option Ret} {t : TaskId} {trace : List Label}

theorem Section.fifo_cases (h : Waiting k) (hs : Section k piece k' f) (hw : FifoQueueList k w) :
    k'.waiters w = k.waiters w ∨ (∃ t, k.waiters w = t :: k'.waiters w) ∨
      (k'.waiters w = k.waiters w ++ [k.currentTask] ∧
        ∃ n rest, Blocks k piece w n rest ∧ f = .suspended rest) := by
  obtain ⟨⟨q, hQueue⟩, hFifo⟩ := hw
  have hNotMutex : ∀ i, w ≠ .mutex i := by
    rintro i rfl
    obtain hQueue | hQueue := hQueue <;> cases hQueue
  cases hs with
  | refuse => exact .inl rfl
  | take => exact .inl (congrFun quiet_takeToken.waiters w)
  | post => exact .inl (congrFun quiet_addToken.waiters w)
  | serve hTraffic => exact .inl (congrFun hTraffic.quiet.waiters w)
  | @wake piece v k₁ data j t hTraffic hChosen =>
    have hQuiet := hTraffic.quiet
    have hListed : Listed k₁ := h.listed.congr hQuiet.sameBlocking
    obtain ⟨hj, hAt⟩ := hListed.chosen hChosen
    rw [(SameShape.portYield _).waiters, releaseTask_eq, hListed.leave hj, Function.update_apply]
    split
    · rename_i hEq
      subst hEq
      have hPolicy : (k₁.waitlist w).schedulePolicy = .fifo := by
        rw [hQuiet.waitlist]
        exact hFifo
      obtain rfl := hChosen.head hPolicy
      right
      left
      refine ⟨t, ?_⟩
      rw [← hQuiet.waiters, ← hAt, List.eraseIdx_zero]
      exact (List.cons_getElem_drop_succ (h := hj)).symm.trans (by simp)
    · exact .inl (congrFun hQuiet.waiters w)
  | acquire => exact .inl (congrFun acquire_blocking.waiters w)
  | free => exact .inl (congrFun free_blocking.waiters w)
  | handOff _ hChosen =>
    left
    obtain ⟨hj, _⟩ := h.listed.chosen hChosen
    rw [(SameShape.portYield _).waiters, handOff_blocking.waiters, h.listed.leave hj,
      Function.update_of_ne (hNotMutex _)]
  | delay => exact .inl (congrFun (SameShape.portYield _).waiters w)
  | @block _ v n rest hBlocks =>
    rw [waiters_enqueueCurrent h.listed, Function.update_apply]
    split
    · rename_i hEq
      subst hEq
      exact .inr (.inr ⟨rfl, n, rest, hBlocks, rfl⟩)
    · exact .inl rfl
  | @lockBlock i =>
    left
    have hRanks := Reranked.mutexDonatePriority k (k.mutexes i).owner
    rw [waiters_enqueueCurrent (h.listed.congr hRanks.sameBlocking),
      Function.update_of_ne (hNotMutex _), hRanks.waiters]
  | lockFull => exact .inl (congrFun (Reranked.mutexDonatePriority k _).waiters w)
  | stage => exact .inl rfl
  | write => exact .inl (congrFun (Reranked.setEffectivePriority k _ _).waiters w)

theorem Sound.waiter_silent (h : Sound s) (hRun : ∀ c, e = .call c → s.kernel.pendSV = false)
    (ht : t ∈ s.kernel.waiters w) : callsAs t ⟨s, e, out, s'⟩ = false := by
  cases e with
  | call c =>
    refine beq_eq_false_iff_ne.mpr ?_
    rintro rfl
    have hBlocked := h.waiting.blocked (h.waiting.mem_waiters.mp ht)
    exact h.current_free (hRun c rfl) hBlocked.2.2.1
  | _ => rfl

theorem Blocks.blocksAgain {rest : Pending} {n : U32} {pending : Pending}
    (h : Blocks s.kernel (.rest pending) w n rest)
    (hPending : s.pending s.kernel.currentTask = some pending) : blocksAgain s = some w := by
  simp only [KoRTOS.blocksAgain, hPending]
  cases h with
  | send hPiece hFull hStay =>
    cases hPiece with
    | rest hTimeout =>
      exact if_pos ⟨hTimeout, hFull, hStay⟩
  | recv hPiece hEmpty hStay =>
    cases hPiece with
    | rest hTimeout =>
      exact if_pos ⟨hTimeout, hEmpty, hStay⟩

/-- What a transition does to a `FIFO` waitlist of a queue. -/
inductive FifoMove (s : Sys) (w : WaitlistRef) (tasks : List TaskId) : Event → Prop
  | stay {e : Event} (h : tasks = s.kernel.waiters w) : FifoMove s w tasks e
  | head {e : Event} {t : TaskId} (h : s.kernel.waiters w = t :: tasks) : FifoMove s w tasks e
  | call {c : ApiCall} (hRun : s.kernel.pendSV = false)
      (h : tasks = s.kernel.waiters w ++ [s.kernel.currentTask]) : FifoMove s w tasks (.call c)
  | again (hAgain : blocksAgain s = some w)
      (h : tasks = s.kernel.waiters w ++ [s.kernel.currentTask]) : FifoMove s w tasks .resume
  | expire (h : tasks.Sublist (s.kernel.waiters w)) : FifoMove s w tasks .tick

theorem Sound.policy_afterMove (h : Sound s) (hMove : Move s e s' out)
    (hw : FifoQueueList s'.kernel w) (hSome : s'.kernel.waiters w ≠ []) :
    FifoQueueList s.kernel w := by
  have hQuietly : s'.kernel.policy = s.kernel.policy → FifoQueueList s.kernel w :=
    fun hPolicy => ⟨hw.1, hPolicy ▸ hw.2⟩
  cases hMove with
  | @create c k' err _ _ _ hCreation =>
    obtain hSame | ⟨_, _, hInit⟩ := waitlist_creation hCreation w
    · have hPolicy : (s.afterCreate c k' err).kernel.policy w = s.kernel.policy w :=
        congrArg Waitlist.schedulePolicy hSame
      exact ⟨hw.1, hPolicy ▸ hw.2⟩
    · refine absurd ?_ hSome
      rw [Kernel.waiters, Sys.afterCreate, hInit, Waitlist.tasks_init]
  | call _ _ _ hSection => exact hQuietly ((hSection.reblocks h.waiting.listed).policy)
  | resume _ _ hSection => exact hQuietly ((hSection.reblocks h.waiting.listed).policy)
  | @isrSend queue _ k' _ _ _ hSection =>
    refine hQuietly (Eq.trans ?_ ((hSection.reblocks h.waiting.listed).policy))
    dsimp only
    split
    · exact policy_of_waitlist (quiet_countDropped k' queue).waitlist
    · rfl
  | isrRecv _ hSection => exact hQuietly ((hSection.reblocks h.waiting.listed).policy)
  | tick => exact hQuietly h.waiting.updateTickCount.ticked_unblockTasks.policy
  | pendSV =>
    have hSame : SameButStates { s.kernel with pendSV := false } (pendSVHandler s.kernel) :=
      sameButStates_osScheduleNextTask
    exact hQuietly (policy_of_waitlist (hSame.waitlist.trans (by funext w; cases w <;> rfl)))

theorem Sound.fifoMove (h : Sound s) (hMove : Move s e s' out)
    (hw : FifoQueueList s.kernel w) : FifoMove s w (s'.kernel.waiters w) e := by
  cases hMove with
  | create _ _ hFresh hCreation =>
    exact .stay (congrFun (h.waiters_creation hFresh hCreation).1 w)
  | call hRun _ _ hSection =>
    obtain hSame | ⟨t, hHead⟩ | ⟨hEnd, _⟩ := hSection.fifo_cases h.waiting hw
    · exact .stay hSame
    · exact .head hHead
    · exact .call hRun hEnd
  | resume _ hPending hSection =>
    obtain hSame | ⟨t, hHead⟩ | ⟨hEnd, _, _, hBlocks, _⟩ := hSection.fifo_cases h.waiting hw
    · exact .stay hSame
    · exact .head hHead
    · exact .again (hBlocks.blocksAgain hPending) hEnd
  | @isrSend queue item k' err data _ hSection =>
    have hKept : (if err = .unavailable then countDropped k' queue else k').waiters =
        k'.waiters := by
      split
      · exact (quiet_countDropped k' queue).waiters
      · rfl
    obtain hSame | ⟨t, hHead⟩ | ⟨_, _, _, _, hFlow⟩ := hSection.fifo_cases h.waiting hw
    · exact .stay ((congrFun hKept w).trans hSame)
    · exact .head (hHead.trans (by rw [hKept]))
    · cases hFlow
  | isrRecv _ hSection =>
    obtain hSame | ⟨t, hHead⟩ | ⟨_, _, _, _, hFlow⟩ := hSection.fifo_cases h.waiting hw
    · exact .stay hSame
    · exact .head hHead
    · cases hFlow
  | tick => exact .expire (h.waiting.updateTickCount.ticked_unblockTasks.waiters w)
  | pendSV =>
    have hSame : SameButStates { s.kernel with pendSV := false } (pendSVHandler s.kernel) :=
      sameButStates_osScheduleNextTask
    have hWaitlist : (pendSVHandler s.kernel).waitlist = s.kernel.waitlist :=
      hSame.waitlist.trans (by funext w; cases w <;> rfl)
    exact .stay (congrArg Waitlist.tasks (congrFun hWaitlist w))

/-- The waitlists of `FIFO` queues are in the order of the calls. -/
structure CallOrder (trace : List Label) (s : Sys) : Prop where
  sound : Sound s
  order : ∀ w, FifoQueueList s.kernel w →
    (s.kernel.waiters w).Pairwise fun t u => calledAt t trace < calledAt u trace

namespace CallOrder

theorem afterMove (h : CallOrder trace s) (hMove : Move s e s' out)
    (hUser : UserBlocks ⟨s, e, out, s'⟩) (hKeeps : losesPlace trace ⟨s, e, out, s'⟩ = false) :
    CallOrder (trace ++ [⟨s, e, out, s'⟩]) s' := by
  refine ⟨h.sound.afterMove hMove hUser, fun w hw => ?_⟩
  by_cases hSome : s'.kernel.waiters w = []
  · rw [hSome]
    exact .nil
  have hOld := h.sound.policy_afterMove hMove hw hSome
  have hSilent : ∀ u ∈ s.kernel.waiters w, callsAs u ⟨s, e, out, s'⟩ = false := by
    intro u hu
    refine h.sound.waiter_silent (fun c hc => ?_) hu
    subst hc
    cases hMove with
    | create hRun => exact hRun
    | call hRun => exact hRun
  have hOrder := Transition.pairwise_latest_snoc callsAs hSilent (h.order w hOld)
  have hFifo := h.sound.fifoMove hMove hOld
  generalize s'.kernel.waiters w = tasks at hFifo ⊢
  cases hFifo with
  | stay hSame =>
    rw [hSame]
    exact hOrder
  | head hHead =>
    rw [hHead] at hOrder
    exact hOrder.of_cons
  | expire hSub => exact hOrder.sublist hSub
  | @call c _ hEnd =>
    rw [hEnd]
    have hCalls : callsAs s.kernel.currentTask ⟨s, .call c, out, s'⟩ = true := beq_self_eq_true _
    exact Transition.pairwise_latest_append callsAs hSilent hCalls (h.order w hOld)
  | again hAgain hEnd =>
    rw [hEnd]
    refine List.pairwise_append.mpr ⟨hOrder, List.pairwise_singleton _ _, fun u hu v hv => ?_⟩
    obtain rfl := List.mem_singleton.mp hv
    rw [calledAt_snoc, calledAt_snoc]
    simp only [losesPlace, hAgain, hOld.2, Bool.and_eq_false_imp, beq_self_eq_true,
      List.any_eq_false, decide_eq_true_eq, Nat.not_le, forall_const] at hKeeps
    exact hKeeps u hu

/-- Whoever leaves a waitlist before his deadline made the earliest call. -/
theorem released (h : CallOrder trace s) (hMove : Move s e s' out) (hw : FifoQueueList s.kernel w)
    (hTick : e ≠ .tick) (ht : t ∈ s.kernel.waiters w) (hLeft : t ∉ s'.kernel.waiters w) :
    ∀ u ∈ s.kernel.waiters w, u ≠ t → calledAt t trace < calledAt u trace := by
  intro u hu hOther
  have hOrder := h.order w hw
  have hFifo := h.sound.fifoMove hMove hw
  generalize s'.kernel.waiters w = tasks at hFifo hLeft
  cases hFifo with
  | stay hSame => exact absurd (hSame ▸ ht) hLeft
  | @head _ v hHead =>
    rw [hHead] at hOrder ht hu
    obtain rfl : t = v := (List.mem_cons.mp ht).resolve_right hLeft
    exact List.rel_of_pairwise_cons hOrder ((List.mem_cons.mp hu).resolve_left hOther)
  | call _ hEnd => exact absurd (hEnd ▸ List.mem_append_left _ ht) hLeft
  | again _ hEnd => exact absurd (hEnd ▸ List.mem_append_left _ ht) hLeft
  | expire => exact absurd rfl hTick

end CallOrder

theorem callOrder_of_boot {image : Image} {calls : List CreateCall} {start : Sys}
    (h : boot image calls = some start) : CallOrder [] start := by
  refine ⟨sound_of_boot h, fun w _ => ?_⟩
  rw [(idle_of_boot h).1]
  exact .nil

theorem callOrder_of_run {image : Image} {calls : List CreateCall} {start : Sys}
    (hBoot : boot image calls = some start) (hRun : Run start trace s)
    (hKeeps : ∀ before l after, trace = before ++ l :: after →
      losesPlace before l = false ∧ idleWaits l = false) : CallOrder trace s := by
  refine hRun.guardedInvariant (callOrder_of_boot hBoot)
    (fun trace l hTaken (hl : losesPlace trace l = false ∧ idleWaits l = false) hPre => ?_) hKeeps
  have hMove := move_of_step hTaken
  exact hPre.afterMove hMove (userBlocks_of_idleWaits hMove hl.2) hl.1

end Order

/-- As long as no woken task has to block again behind a younger call, the waitlists of a `FIFO`
queue are in the order of the calls, and who made the earliest is released. -/
theorem fifo_releases_oldest {image : Image} {calls : List CreateCall} {start s : Sys}
    {trace : List Label} (hBoot : boot image calls = some start) (hRun : Run start trace s)
    (hKeeps : ∀ before l after, trace = before ++ l :: after →
      losesPlace before l = false ∧ idleWaits l = false ∧ WithinMutexLimit l.post.kernel) :
    OldestFirst trace s := by
  have hOrder := callOrder_of_run hBoot hRun fun before l after hEq =>
    ⟨(hKeeps before l after hEq).1, (hKeeps before l after hEq).2.1⟩
  refine ⟨hOrder.order, ?_⟩
  rintro before l after rfl w hw hTick t ht hLeft
  obtain ⟨hTaken, hBefore⟩ := hRun.prefix
  have hPast := callOrder_of_run hBoot hBefore fun past l' next hEq => by
    have hl := hKeeps past l' (next ++ l :: after) (by rw [hEq, List.append_assoc, List.cons_append])
    exact ⟨hl.1, hl.2.1⟩
  exact hPast.released (move_of_step hTaken) hw hTick ht hLeft

def sendersBoot : List CreateCall :=
  [sampleTask 1, sampleTask 2, .queue (some 0) (some fun _ => 0) 1 1 (some .fifo)]

def sendAndWait : Event := .call (.queueSend (some 0) (some fun _ => 7) osWaitForever)

def steal : List Event := [.isrRecv (some 0) false, .isrSend (some 0) (some fun _ => 8)]

/-- Task 1 loses its slot and blocks again before task 2 calls, and is released first. -/
theorem fifo_releases_oldest_again :
    ∃ start trace s, boot sampleImage sendersBoot = some start ∧ Run start trace s ∧
      s.kernel.waiters (.queueSend 0) = [2] ∧ OldestFirst trace s := by
  have hCheck : (boot sampleImage sendersBoot).any
      (fun s => checkHistory
        (fun before l => !losesPlace before l && !idleWaits l &&
          decide (WithinMutexLimit l.post.kernel))
        (fun _ s => s.kernel.waiters (.queueSend 0) == [2]) [] s
        ([.isrSend (some 0) (some fun _ => 6), sendAndWait, .pendSV] ++ steal ++
          [.pendSV, .resume, .pendSV, sendAndWait, .pendSV, .isrRecv (some 0) false])) = true := by
    decide +kernel
  obtain ⟨start, hBoot, hRuns⟩ := (Option.any_eq_true _ _).mp hCheck
  obtain ⟨trace, s, hRun, hEach, hFinal⟩ := run_of_checkHistory hRuns
  simp only [Bool.and_eq_true, Bool.not_eq_true', beq_iff_eq, decide_eq_true_eq,
    List.nil_append] at hEach hFinal
  exact ⟨start, trace, s, hBoot, hRun, hFinal, fifo_releases_oldest hBoot hRun
    fun before l after hEq => ⟨(hEach before l after hEq).1.1, (hEach before l after hEq).1.2,
      (hEach before l after hEq).2⟩⟩

/-- Task 1 loses its slot, blocks again behind task 2, and task 2 is released. -/
theorem place_lost :
    ¬ ∀ image calls start trace s, boot image calls = some start → Run start trace s →
      OldestFirst trace s := by
  intro hClaim
  have hCheck : (boot sampleImage sendersBoot).any
      (fun s => checkHistory (fun _ _ => true)
        (fun past s => s.kernel.waiters (.queueSend 0) == [2, 1] &&
          s.kernel.policy (.queueSend 0) == .fifo && decide (calledAt 1 past < calledAt 2 past) &&
          (step s (.isrRecv (some 0) false)).any
            fun next => next.1.kernel.waiters (.queueSend 0) == [1]) [] s
        ([.isrSend (some 0) (some fun _ => 6), sendAndWait, .pendSV, sendAndWait, .pendSV] ++
          steal ++ [.pendSV, .resume])) = true := by
    decide +kernel
  obtain ⟨start, hBoot, hRuns⟩ := (Option.any_eq_true _ _).mp hCheck
  obtain ⟨trace, s, hRun, _, hFinal⟩ := run_of_checkHistory hRuns
  simp only [Bool.and_eq_true, beq_iff_eq, decide_eq_true_eq, List.nil_append,
    Option.any_eq_true] at hFinal
  obtain ⟨⟨⟨hWaiters, hPolicy⟩, hOlder⟩, ⟨s', out⟩, hStep, hLeft⟩ := hFinal
  have hNext : Run start (trace ++ [⟨s, .isrRecv (some 0) false, out, s'⟩]) s' := .snoc hRun hStep
  have hOldest := (hClaim _ _ start _ s' hBoot hNext).released trace _ [] rfl (.queueSend 0)
    ⟨⟨0, .inl rfl⟩, hPolicy⟩ (by simp) 2 (by simp [hWaiters]) (by simp [hLeft]) 1 (by simp [hWaiters])
    (by decide)
  exact absurd hOldest (Nat.lt_asymm hOlder)

end KoRTOS
