import KoRTOS.Evaluation
import KoRTOS.Invariant.Queues

/-!
# Items that interrupt handlers lose

`os_queue_send_from_isr` cannot wait. What it hands over either gets into the queue
or is counted in `dropped_count`, whatever tasks and other handlers do meanwhile.
-/

namespace KoRTOS

def handlerSends (q : QueueId) (l : Label) : Bool :=
  match l.event with
  | .isrSend (some q') (some _) => q' == q
  | _ => false

def handlerStores (q : QueueId) (l : Label) : Bool :=
  handlerSends q l && (sentItem q l).isSome

def handlerDrops (q : QueueId) (l : Label) : Bool :=
  handlerSends q l && l.out.any fun r => r.err == .unavailable

def Kernel.dropped (k : Kernel) (q : QueueId) : Nat := (k.queues q).droppedCount

section Kept

variable {k k' : Kernel} {q p : QueueId} {t : TaskId} {i : MutexId} {w : WaitlistRef} {n : U32}
  {piece : Piece} {f : Flow} {j : Nat} {b : Bool} {wl : Waitlist}

theorem dropped_congr (h : k'.queues = k.queues) : k'.dropped = k.dropped := by
  funext q
  rw [Kernel.dropped, h, Kernel.dropped]

@[simp] theorem dropped_modifyTask {f : Tcb → Tcb} : (k.modifyTask t f).dropped = k.dropped := rfl
@[simp] theorem dropped_portYield : k.portYield.dropped = k.dropped := rfl

@[simp] theorem dropped_setWaitlist : (k.setWaitlist w wl).dropped = k.dropped := by
  funext q
  cases w <;> simp [Kernel.dropped, Kernel.setWaitlist, Kernel.setSemaphore, Kernel.setMutex,
    Kernel.setQueue, Function.update_apply]
  all_goals split <;> simp [*]

theorem dropped_setQueue {queue : Queue} :
    (k.setQueue p queue).dropped = Function.update k.dropped p queue.droppedCount := by
  funext q
  simp only [Kernel.dropped, Kernel.setQueue, Function.update_apply]
  split <;> rfl

@[simp] theorem dropped_leaveWaitlist : (leaveWaitlist k w j t b).dropped = k.dropped := by
  simp [leaveWaitlist]

theorem dropped_enqueueCurrent {reason : BlockReason} :
    (enqueueCurrent k w n reason).dropped = k.dropped := by
  simp [enqueueCurrent]

theorem dropped_handOff : (handOff k i j t).dropped = k.dropped := by
  have hRecompute := fun k o => dropped_congr (Reranked.mutexRecomputeOwnerPriority k o).queues
  have hGive : ∀ k, (giveMutex k i t).dropped = k.dropped := fun _ => rfl
  rw [handOff_eq, hRecompute, hGive, hRecompute, releaseOwned, releaseTask_eq,
    dropped_leaveWaitlist]
  rfl

theorem Traffic.dropped {data : List U8} (h : Traffic k piece w k' data) :
    k'.dropped = k.dropped := by
  cases h with
  | post => rfl
  | @push _ q =>
    rw [dropped_setQueue]
    exact Function.update_eq_self q k.dropped
  | @pop _ q =>
    rw [dropped_setQueue]
    exact Function.update_eq_self q k.dropped

theorem Section.dropped (hs : Section k piece k' f) : k'.dropped = k.dropped := by
  cases hs with
  | serve hTraffic => exact hTraffic.dropped
  | wake hTraffic =>
    rw [releaseTask_eq, dropped_portYield, dropped_leaveWaitlist]
    exact hTraffic.dropped
  | handOff => exact dropped_handOff
  | block => exact dropped_enqueueCurrent
  | lockBlock =>
    rw [dropped_enqueueCurrent]
    exact dropped_congr (Reranked.mutexDonatePriority k _).queues
  | lockFull => exact dropped_congr (Reranked.mutexDonatePriority k _).queues
  | write => exact dropped_congr (Reranked.setEffectivePriority k _ _).queues
  | _ => rfl

theorem dropped_unblockTask : (unblockTask k t).dropped = k.dropped := by
  unfold unblockTask
  split
  · split
    · rename_i w _
      rw [dropped_modifyTask, removeFromWaitlist]
      split <;> simp
    · simp
  · rfl

theorem dropped_osTick : (osTick k).dropped = k.dropped := by
  have hFold : ∀ (l : List TaskId) (k : Kernel),
      (l.foldl unblockTask k).dropped = k.dropped := by
    intro l
    induction l with
    | nil => exact fun _ => rfl
    | cons t l ih => exact fun k => (ih _).trans dropped_unblockTask
  rw [osTick, dropped_portYield, unblockTasks]
  split
  · rfl
  · exact hFold _ _

/-- A handler's send of an item ends in one of two ways. -/
theorem Section.handler_result {item : Nat → U8} {err : OsErr} {data : List U8}
    (hs : Section k (.call (.queueSend (some q) (some item) 0)) k' (.returned err data)) :
    err = .ok ∨ err = .unavailable := by
  cases hs with
  | refuse hRefused =>
    cases hRefused with
    | nullSend hNull => obtain hNull | hNull := hNull <;> cases hNull
    | sendFull => exact .inr rfl
    | recvEmpty => exact .inr rfl
    | listFull hBlocks =>
      cases hBlocks with
      | send hPiece _ hStay =>
        cases hPiece
        exact absurd (.inl rfl) hStay
      | recv hPiece => cases hPiece
  | serve => exact .inl rfl
  | wake => exact .inl rfl

end Kept

section Runs

variable {s s' : Sys} {e : Event} {out : Option Ret} {q : QueueId} {trace : List Label}

/-- What the history of a run says about the items that handlers sent to queue `q`. -/
structure Counted (q : QueueId) (trace : List Label) (s : Sys) : Prop where
  counted : s.kernel.dropped q = trace.countP (handlerDrops q) % 2 ^ 32
  accounted : trace.countP (handlerSends q) =
    trace.countP (handlerStores q) + trace.countP (handlerDrops q)
  absent : s.created.queue q = false → trace.countP (handlerSends q) = 0

theorem Counted.quiet {l : Label} (h : Counted q trace s) (hSends : handlerSends q l = false)
    (hDropped : l.post.kernel.dropped q = s.kernel.dropped q)
    (hCreated : l.post.created.queue q = false → s.created.queue q = false) :
    Counted q (trace ++ [l]) l.post := by
  have hStores : handlerStores q l = false := by simp [handlerStores, hSends]
  have hDrops : handlerDrops q l = false := by simp [handlerDrops, hSends]
  refine ⟨?_, ?_, fun hAbsent => ?_⟩
  · simp [List.countP_append, hDrops, hDropped, h.counted]
  · simp [List.countP_append, hSends, hStores, hDrops, h.accounted]
  · simp [List.countP_append, hSends, h.absent (hCreated hAbsent)]

theorem Counted.afterCreate {c : CreateCall} {k' : Kernel} {err : OsErr} (h : Counted q trace s)
    (hFresh : s.created.fresh c = true) (hCreation : Creation s.kernel c k' err) :
    Counted q (trace ++ [⟨s, .call (.create c), some ⟨err, []⟩, s.afterCreate c k' err⟩])
      (s.afterCreate c k' err) := by
  refine h.quiet (l := ⟨s, .call (.create c), some ⟨err, []⟩, s.afterCreate c k' err⟩) rfl ?_ ?_
  · cases hCreation with
    | @queue p =>
      refine (congrFun dropped_setQueue q).trans ?_
      rw [Function.update_apply]
      split
      · rename_i hEq
        -- nothing was sent to the queue before it was created
        have hAbsent : s.created.queue q = false := by simpa [Objects.fresh, hEq] using hFresh
        have hNone := h.absent hAbsent
        rw [h.accounted] at hNone
        rw [h.counted, (Nat.add_eq_zero_iff.mp hNone).2]
        rfl
      · rfl
    | _ => rfl
  · intro hAbsent
    cases hOld : s.created.queue q with
    | false => rfl
    | true =>
      have hStill : (s.afterCreate c k' err).created.has (.queueSend q) = true := by
        dsimp only [Sys.afterCreate]
        split
        · exact has_add hOld
        · exact hOld
      exact absurd (hStill.symm.trans hAbsent) (by simp)

theorem Counted.afterOther {queue : Option QueueId} {item : Option (Nat → U8)} {k' : Kernel}
    {err : OsErr} {data : List U8} (h : Counted q trace s)
    (hs : Section s.kernel (.call (.queueSend queue item 0)) k' (.returned err data))
    (hSends : handlerSends q ⟨s, .isrSend queue item, out, s'⟩ = false)
    (hs' : s' = { s with kernel := if err = .unavailable then countDropped k' queue else k' }) :
    Counted q (trace ++ [⟨s, .isrSend queue item, out, s'⟩]) s' := by
  subst hs'
  refine h.quiet (l := ⟨s, .isrSend queue item, out, _⟩) hSends ?_ fun hAbsent => hAbsent
  dsimp only
  split
  · rename_i hErr
    subst hErr
    cases queue with
    | none => exact congrFun hs.dropped q
    | some p =>
      rw [countDropped, dropped_setQueue, Function.update_apply]
      split
      · rename_i hEq
        subst hEq
        cases item with
        | none =>
          cases hs with
          | refuse hRefused =>
            cases hRefused with
            | sendFull hPiece => cases hPiece
            | recvEmpty hPiece => cases hPiece
        | some => simp [handlerSends] at hSends
      · exact congrFun hs.dropped q
  · exact congrFun hs.dropped q

theorem Counted.afterSend {item : Nat → U8} {k' : Kernel} {err : OsErr} {data : List U8}
    (h : Counted q trace s) (hAllowed : s.created.queue q = true)
    (hs : Section s.kernel (.call (.queueSend (some q) (some item) 0)) k' (.returned err data))
    (hs' : s' = { s with kernel := if err = .unavailable then countDropped k' (some q) else k' }) :
    Counted q (trace ++ [⟨s, .isrSend (some q) (some item), some ⟨err, data⟩, s'⟩]) s' := by
  subst hs'
  have hDropped := congrFun hs.dropped q
  have hSends : ∀ {next}, handlerSends q
      ⟨s, .isrSend (some q) (some item), some ⟨err, data⟩, next⟩ = true := beq_self_eq_true q
  refine ⟨?_, ?_, fun hAbsent => absurd (hAllowed.symm.trans hAbsent) (by simp)⟩
  · obtain rfl | rfl := hs.handler_result
    · simp [List.countP_append, handlerDrops, hDropped, h.counted]
    · rw [if_pos rfl, countDropped, dropped_setQueue, Function.update_self,
        show (k'.queues q).droppedCount = s.kernel.dropped q from hDropped, h.counted]
      simp [List.countP_append, handlerDrops, hSends]
  · obtain rfl | rfl := hs.handler_result
    · simp [List.countP_append, handlerDrops, handlerStores, hSends, h.accounted, sentItem,
        pieceOf, sentBy, Piece.sendsTo]
      omega
    · simp [List.countP_append, handlerDrops, handlerStores, hSends, h.accounted, sentItem,
        pieceOf, sentBy, Piece.sendsTo]
      omega

theorem Counted.afterMove (h : Counted q trace s) (hMove : Move s e s' out) :
    Counted q (trace ++ [⟨s, e, out, s'⟩]) s' := by
  cases hMove with
  | create _ _ hFresh hCreation => exact h.afterCreate hFresh hCreation
  | call _ _ _ hs => exact h.quiet (l := ⟨s, _, _, _⟩) rfl (congrFun hs.dropped q) fun h => h
  | resume _ _ hs => exact h.quiet (l := ⟨s, _, _, _⟩) rfl (congrFun hs.dropped q) fun h => h
  | @isrSend queue item k' err data hAllowed hs =>
    cases hSends : handlerSends q ⟨s, .isrSend queue item, some ⟨err, data⟩, s⟩ with
    | false => exact h.afterOther hs hSends rfl
    | true =>
      cases queue with
      | none => cases hSends
      | some p =>
        cases item with
        | none => cases hSends
        | some item =>
          obtain rfl : p = q := eq_of_beq hSends
          exact h.afterSend hAllowed hs rfl
  | isrRecv _ hs => exact h.quiet (l := ⟨s, _, _, _⟩) rfl (congrFun hs.dropped q) fun h => h
  | tick => exact h.quiet (l := ⟨s, _, _, _⟩) rfl (congrFun dropped_osTick q) fun h => h
  | pendSV =>
    have hSame : (pendSVHandler s.kernel).queues = s.kernel.queues :=
      (sameButStates_osScheduleNextTask (k := { s.kernel with pendSV := false })).queues
    exact h.quiet (l := ⟨s, _, _, _⟩) rfl (congrFun (dropped_congr hSame) q) fun h => h

theorem dropped_of_boot {image : Image} {calls : List CreateCall} {start : Sys}
    (h : boot image calls = some start) : start.kernel.dropped q = 0 := by
  have hCreate : ∀ (s : Sys) c k' err, s.kernel.dropped q = 0 → Creation s.kernel c k' err →
      k'.dropped q = 0 := by
    intro s c k' err hZero hCreation
    cases hCreation with
    | @queue p =>
      refine (congrFun dropped_setQueue q).trans ?_
      rw [Function.update_apply]
      split
      · rfl
      · exact hZero
    | _ => exact hZero
  obtain ⟨s, hZero, _, rfl⟩ := boot_induction (P := fun _ s => s.kernel.dropped q = 0) h rfl
    fun _ s c k' err hZero _ _ hCreation => hCreate s c k' err hZero hCreation
  have hSame : (osKernelStart s.kernel image.idleTaskHandler image.idleTaskStack).queues =
      s.kernel.queues := sameButStates_osScheduleNextTask.queues
  exact (congrFun (dropped_congr hSame) q).trans hZero

theorem counted_of_run {start : Sys} (hRun : Run start trace s) {image : Image}
    {calls : List CreateCall} (hBoot : boot image calls = some start) : Counted q trace s := by
  have hStart : Counted q [] start :=
    ⟨by rw [dropped_of_boot hBoot]; rfl, rfl, fun _ => rfl⟩
  exact hRun.historyInvariant (C := fun _ => True) hStart
    (fun _ _ hTaken _ hPre => hPre.afterMove (move_of_step hTaken)) fun _ _ => trivial

end Runs

/-- In every run each item that a handler sent to a queue was stored in it, unless the call
returned `OS_ERR_UNAVAILABLE`, and `dropped_count` is the number of those calls modulo `2 ^ 32`. -/
theorem handlers_accounted {trace : List Label} {s : Sys} (hReach : Reaches trace s)
    (q : QueueId) : Counted q trace s := by
  obtain ⟨image, calls, start, hBoot, hRun⟩ := hReach
  exact counted_of_run hRun hBoot

/-- Of two items sent to a queue that holds one the second is lost. -/
theorem handlers_accounted_two :
    ∃ trace s, Reaches trace s ∧ Counted 0 trace s ∧ s.kernel.dropped 0 = 1 := by
  have hCheck : checkBoot sampleImage
      [sampleTask 5, .queue (some 0) (some fun _ => 0) 1 1 (some .fifo)]
      [.isrSend (some 0) (some fun _ => 7), .isrSend (some 0) (some fun _ => 8)]
      (fun _ => true) (fun s => s.kernel.dropped 0 == 1) = true := by
    decide +kernel
  obtain ⟨trace, s, hReach, _, _, hFinal⟩ := reaches_of_checkBoot hCheck
  exact ⟨trace, s, hReach, handlers_accounted hReach 0, eq_of_beq hFinal⟩

end KoRTOS
