import KoRTOS.Evaluation
import KoRTOS.Invariant.Queues
import KoRTOS.Library.RingBuffer

/-!
# A queue is a bounded FIFO

The slots in use hold, in order, the items that have been sent and not yet
received. This holds in every run, whoever blocks on the queue and however often
a send or a receive has to look again.
-/

namespace KoRTOS

def Queue.slot (queue : Queue) (index : Nat) : List U8 :=
  copyOut queue.buffer (index * queue.itemSize) queue.itemSize

/-- The items in the queue, oldest first. -/
def Queue.items (queue : Queue) : List (List U8) :=
  RingBuffer.contents queue.slot queue.maxItems queue.tail queue.count

/-- The indices are those of a ring whose slots fit the buffer. -/
structure Queue.Ring (queue : Queue) : Prop where
  valid : RingBuffer.Valid queue.maxItems queue.head queue.tail queue.count
  itemSize_pos : 0 < queue.itemSize
  maxItems_lt : queue.maxItems < 2 ^ 32

def Queue.Fits (queue : Queue) : Prop := queue.maxItems * queue.itemSize < 2 ^ 32

namespace Queue.Ring

variable {queue : Queue} {i : Nat} {item : Nat → U8}

theorem slotOffset_eq (hFits : queue.Fits) (hi : i < queue.maxItems) :
    slotOffset queue i = i * queue.itemSize :=
  Nat.mod_eq_of_lt ((Nat.mul_le_mul_right _ hi.le).trans_lt hFits)

theorem slot_end_le (hi : i < queue.maxItems) :
    i * queue.itemSize + queue.itemSize ≤ queue.maxItems * queue.itemSize := by
  rw [← Nat.succ_mul]
  exact Nat.mul_le_mul_right _ hi

theorem slots_disjoint {j : Nat} (h : i ≠ j) :
    i * queue.itemSize + queue.itemSize ≤ j * queue.itemSize ∨
      j * queue.itemSize + queue.itemSize ≤ i * queue.itemSize := by
  rw [← Nat.succ_mul, ← Nat.succ_mul]
  rcases Nat.lt_or_gt_of_ne h with hLt | hGt
  · exact .inl (Nat.mul_le_mul_right _ hLt)
  · exact .inr (Nat.mul_le_mul_right _ hGt)

theorem copyOut_copyIn_self (buffer : Nat → U8) (offset size : Nat) (item : Nat → U8) :
    copyOut (copyIn buffer offset size item) offset size = (List.range size).map item := by
  apply List.map_congr_left
  intro j hj
  have hLt : j < size := List.mem_range.mp hj
  simp [copyIn, hLt]

theorem copyOut_copyIn_other (buffer : Nat → U8) {offset offset' size : Nat} (item : Nat → U8)
    (h : offset' + size ≤ offset ∨ offset + size ≤ offset') :
    copyOut (copyIn buffer offset size item) offset' size = copyOut buffer offset' size := by
  apply List.map_congr_left
  intro j hj
  have hLt : j < size := List.mem_range.mp hj
  rw [copyIn, if_neg]
  omega

theorem push (h : queue.Ring) (hRoom : queue.count < queue.maxItems) :
    (queue.pushItem item).Ring := by
  have hCount : (queue.count + 1) % 2 ^ 32 = queue.count + 1 :=
    Nat.mod_eq_of_lt (Nat.lt_of_le_of_lt hRoom h.maxItems_lt)
  have hHead : (queue.head + 1) % 2 ^ 32 = queue.head + 1 :=
    Nat.mod_eq_of_lt (Nat.lt_of_le_of_lt h.valid.head_lt h.maxItems_lt)
  refine ⟨?_, h.itemSize_pos, h.maxItems_lt⟩
  have hValid := h.valid.push hRoom
  simp only [Queue.pushItem, hCount, hHead]
  exact hValid

theorem pop (h : queue.Ring) (hItem : queue.count ≠ 0) : queue.popItem.Ring := by
  have hTail : (queue.tail + 1) % 2 ^ 32 = queue.tail + 1 :=
    Nat.mod_eq_of_lt (Nat.lt_of_le_of_lt h.valid.tail_lt h.maxItems_lt)
  refine ⟨?_, h.itemSize_pos, h.maxItems_lt⟩
  have hValid := h.valid.pop (Nat.pos_of_ne_zero hItem)
  simp only [Queue.popItem, hTail]
  exact hValid

theorem items_push (h : queue.Ring) (hFits : queue.Fits) (hRoom : queue.count < queue.maxItems) :
    (queue.pushItem item).items = queue.items ++ [(List.range queue.itemSize).map item] := by
  have hCount : (queue.count + 1) % 2 ^ 32 = queue.count + 1 :=
    Nat.mod_eq_of_lt (Nat.lt_of_le_of_lt hRoom h.maxItems_lt)
  have hOffset := slotOffset_eq hFits h.valid.head_lt
  have hOther : ∀ i < queue.maxItems, i ≠ queue.head →
      (queue.pushItem item).slot i = queue.slot i := by
    intro i _ hi
    simp only [Queue.slot, Queue.pushItem, hOffset]
    exact copyOut_copyIn_other _ _ (slots_disjoint hi)
  have hContents := h.valid.contents_push hRoom hOther
  have hSlot : (queue.pushItem item).slot queue.head = (List.range queue.itemSize).map item := by
    simp only [Queue.slot, Queue.pushItem, hOffset]
    exact copyOut_copyIn_self _ _ _ _
  rw [hSlot] at hContents
  rw [Queue.items, Queue.items, ← hContents]
  simp only [Queue.pushItem, hCount]

theorem items_pop (h : queue.Ring) (hFits : queue.Fits) (hItem : queue.count ≠ 0) :
    queue.items = queue.frontItem :: queue.popItem.items := by
  have hTail : (queue.tail + 1) % 2 ^ 32 = queue.tail + 1 :=
    Nat.mod_eq_of_lt (Nat.lt_of_le_of_lt h.valid.tail_lt h.maxItems_lt)
  have hFront : queue.frontItem = queue.slot queue.tail := by
    rw [Queue.frontItem, slotOffset_eq hFits h.valid.tail_lt, Queue.slot]
  rw [Queue.items, RingBuffer.contents_pop _ h.valid.tail_lt (Nat.pos_of_ne_zero hItem), hFront]
  simp only [Queue.items, Queue.popItem, hTail]
  rfl

theorem buffer_push (h : queue.Ring) (hFits : queue.Fits) {a : Nat}
    (ha : queue.maxItems * queue.itemSize ≤ a) : (queue.pushItem item).buffer a = queue.buffer a := by
  have hEnd := slot_end_le h.valid.head_lt
  simp only [Queue.pushItem, copyIn, slotOffset_eq hFits h.valid.head_lt]
  rw [if_neg]
  omega

theorem of_content {k : Kernel} {q : QueueId} (h : (k.content q).Ring) : (k.queues q).Ring :=
  ⟨h.valid, h.itemSize_pos, h.maxItems_lt⟩

theorem emptyQueue (buffer : Nat → U8) {itemSize maxItems : U32} (policy : SchedulePolicy)
    (hSize : itemSize ≠ 0) (hMax : maxItems ≠ 0) :
    (emptyQueue buffer itemSize maxItems policy).Ring := by
  have hSizePos : 0 < itemSize.toNat := by
    simpa [BitVec.toNat_eq, Nat.pos_iff_ne_zero] using hSize
  have hMaxPos : 0 < maxItems.toNat := by
    simpa [BitVec.toNat_eq, Nat.pos_iff_ne_zero] using hMax
  exact ⟨RingBuffer.valid_empty hMaxPos, hSizePos, maxItems.isLt⟩

end Queue.Ring

def sentItems (q : QueueId) (trace : List Label) : List (List U8) :=
  trace.filterMap (sentItem q)

def receivedItems (q : QueueId) (trace : List Label) : List (List U8) :=
  trace.filterMap (receivedItem q)

/-- What a run has done to queue `q`. -/
structure QueueHistory (q : QueueId) (trace : List Label) (s : Sys) : Prop where
  pending : PendingCreated s
  absent : s.created.queue q = false → sentItems q trace = [] ∧ receivedItems q trace = []
  ring : s.created.queue q = true → (s.kernel.content q).Ring
  fifo : s.created.queue q = true → (s.kernel.content q).Fits →
    sentItems q trace = receivedItems q trace ++ (s.kernel.content q).items

section Runs

variable {s s' : Sys} {e : Event} {out : Option Ret} {q : QueueId} {trace : List Label}
  {k' : Kernel}

theorem Move.absent (hMove : Move s e s' out) (hPending : PendingCreated s)
    (hAbsent : s.created.queue q = false) :
    sentItem q ⟨s, e, out, s'⟩ = none ∧ receivedItem q ⟨s, e, out, s'⟩ = none := by
  have hNone : ∀ {piece}, (∀ w, piece.uses = some w → s.created.has w = true) →
      sentBy s.kernel q piece out = none ∧ receivedBy q piece out = none := by
    intro piece hUses
    have hSend : piece.uses ≠ some (.queueSend q) := fun hEq => by
      have hHas := hUses _ hEq
      simp [Objects.has, hAbsent] at hHas
    have hRecv : piece.uses ≠ some (.queueRecv q) := fun hEq => by
      have hHas := hUses _ hEq
      simp [Objects.has, hAbsent] at hHas
    constructor
    · apply sentBy_none
      unfold Piece.sendsTo
      split
      · exact if_neg fun hEq => hSend (by simp [Piece.uses, hEq])
      · exact if_neg fun hEq => hSend (by simp [Piece.uses, Pending.uses, hEq])
      · rfl
    · apply receivedBy_none
      unfold Piece.receivesFrom
      split
      · exact beq_eq_false_iff_ne.mpr fun hEq => hRecv (by simp [Piece.uses, hEq])
      · exact beq_eq_false_iff_ne.mpr fun hEq => hRecv (by simp [Piece.uses, Pending.uses, hEq])
      · rfl
  cases hMove with
  | create => exact ⟨rfl, rfl⟩
  | call _ _ hAllowed => exact hNone fun w hUses => uses_allowed hAllowed hUses
  | resume _ hRest =>
    simp only [sentItem, receivedItem, pieceOf, hRest, Option.map_some, Option.bind_some]
    exact hNone fun w hUses => hPending _ _ _ hRest hUses
  | isrSend hAllowed =>
    exact hNone fun w hUses => uses_allowed (c := .queueSend _ _ _) hAllowed hUses
  | isrRecv hAllowed =>
    exact hNone fun w hUses => uses_allowed (c := .queueRecv _ _ _) hAllowed hUses
  | tick => exact ⟨rfl, rfl⟩
  | pendSV => exact ⟨rfl, rfl⟩

theorem Creation.queue_empty {created : Objects} {c : CreateCall} {k : Kernel} {err : OsErr}
    (h : Creation k c k' err) (hAbsent : created.queue q = false)
    (hNow : (if err = .ok then created.add c else created).queue q = true) :
    (k'.content q).Ring ∧ (k'.content q).items = [] := by
  cases h with
  | fail hErr =>
    rw [if_neg hErr, hAbsent] at hNow
    cases hNow
  | @queue p buffer itemSize maxItems policy hSize hMax =>
    simp only [if_true, Objects.add, Function.update_apply, hAbsent] at hNow
    have hEq : q = p := by
      by_contra hne
      rw [if_neg hne] at hNow
      cases hNow
    have hRing := Queue.Ring.emptyQueue buffer policy hSize hMax
    rw [content_setQueue, if_pos hEq]
    exact ⟨⟨hRing.valid, hRing.itemSize_pos, hRing.maxItems_lt⟩, rfl⟩
  | _ => exact absurd (hNow.symm.trans hAbsent) (by simp)

theorem Move.created_mono (hMove : Move s e s' out) {w : WaitlistRef}
    (h : s.created.has w = true) : s'.created.has w = true := by
  cases hMove with
  | create =>
    rw [Sys.afterCreate]
    dsimp only
    split
    · exact has_add h
    · exact h
  | _ => exact h

theorem Move.queue_empty (hMove : Move s e s' out) (hAbsent : s.created.queue q = false)
    (hNow : s'.created.queue q = true) :
    (s'.kernel.content q).Ring ∧ (s'.kernel.content q).items = [] := by
  cases hMove with
  | create _ _ _ hCreation => exact hCreation.queue_empty hAbsent hNow
  | _ => exact absurd (hNow.symm.trans hAbsent) (by simp)

theorem sentItems_snoc (l : Label) :
    sentItems q (trace ++ [l]) = sentItems q trace ++ (sentItem q l).toList := by
  rw [sentItems, List.filterMap_append]
  cases h : sentItem q l <;> simp [h, sentItems]

theorem receivedItems_snoc (l : Label) :
    receivedItems q (trace ++ [l]) = receivedItems q trace ++ (receivedItem q l).toList := by
  rw [receivedItems, List.filterMap_append]
  cases h : receivedItem q l <;> simp [h, receivedItems]

theorem QueueHistory.afterMove (h : QueueHistory q trace s) (hMove : Move s e s' out) :
    QueueHistory q (trace ++ [⟨s, e, out, s'⟩]) s' := by
  have hPending := h.pending.afterMove hMove
  cases hCreated : s.created.queue q with
  | false =>
    obtain ⟨hSent, hReceived⟩ := hMove.absent h.pending hCreated
    have hNothing : sentItems q (trace ++ [⟨s, e, out, s'⟩]) = [] ∧
        receivedItems q (trace ++ [⟨s, e, out, s'⟩]) = [] := by
      rw [sentItems_snoc, receivedItems_snoc, hSent, hReceived, (h.absent hCreated).1,
        (h.absent hCreated).2]
      exact ⟨rfl, rfl⟩
    refine ⟨hPending, fun _ => hNothing, ?_, ?_⟩
    · intro hNow
      exact (hMove.queue_empty hCreated hNow).1
    · intro hNow _
      rw [hNothing.1, hNothing.2, (hMove.queue_empty hCreated hNow).2]
      rfl
  | true =>
    have hRing := h.ring hCreated
    have hNow : s'.created.queue q = true := hMove.created_mono (w := .queueSend q) hCreated
    have hFifo := h.fifo hCreated
    have hMoves := hMove.moves hCreated
    generalize hSent : sentItem q ⟨s, e, out, s'⟩ = sent at hMoves
    generalize hReceived : receivedItem q ⟨s, e, out, s'⟩ = received at hMoves
    refine ⟨hPending, fun hAbsent => absurd (hNow.symm.trans hAbsent) (by simp), ?_, ?_⟩
    · intro _
      cases hMoves with
      | stay hContent => exact hContent ▸ hRing
      | push hRoom hContent => exact hContent ▸ hRing.push hRoom
      | pop hItem hContent => exact hContent ▸ hRing.pop hItem
    · intro _ hFits
      rw [sentItems_snoc, receivedItems_snoc, hSent, hReceived]
      cases hMoves with
      | stay hContent =>
        rw [hContent] at hFits ⊢
        simpa using hFifo hFits
      | push hRoom hContent =>
        rw [hContent] at hFits ⊢
        rw [hRing.items_push hFits hRoom, hFifo hFits]
        simp [Kernel.content]
      | pop hItem hContent =>
        rw [hContent] at hFits ⊢
        have hItems := hRing.items_pop hFits hItem
        have hFront : (s.kernel.content q).frontItem = (s.kernel.queues q).frontItem := rfl
        rw [hFifo hFits, hItems, hFront]
        simp

theorem queueHistory_of_boot {image : Image} {calls : List CreateCall} {start : Sys}
    (h : boot image calls = some start) : QueueHistory q [] start := by
  have hFresh : ∀ (s : Sys) c k' err, s.created.fresh c = true → Creation s.kernel c k' err →
      (s.created.queue q = true → (s.kernel.content q).Ring ∧ (s.kernel.content q).items = []) →
      ((s.afterCreate c k' err).created.queue q = true →
        (k'.content q).Ring ∧ (k'.content q).items = []) := by
    intro s c k' err hFresh hCreation hOld hNow
    cases hCreated : s.created.queue q with
    | false => exact hCreation.queue_empty hCreated hNow
    | true =>
      have hSame : k'.content q = s.kernel.content q := by
        cases hCreation with
        | @queue p =>
          have hne : q ≠ p := by
            rintro rfl
            simp [Objects.fresh, hCreated] at hFresh
          rw [content_setQueue, if_neg hne]
        | _ => rfl
      rw [hSame]
      exact hOld hCreated
  obtain ⟨s, hQueues, hBooting, rfl⟩ := boot_induction
    (P := fun _ s => s.created.queue q = true →
      (s.kernel.content q).Ring ∧ (s.kernel.content q).items = []) h
    (fun hNow => by cases hNow)
    fun _ s c k' err hOld _ hFreshCall hCreation => hFresh s c k' err hFreshCall hCreation hOld
  have hContent : (osKernelStart s.kernel image.idleTaskHandler image.idleTaskStack).content =
      s.kernel.content := content_osScheduleNextTask
  refine ⟨?_, fun _ => ⟨rfl, rfl⟩, ?_, ?_⟩
  · intro t rest w hPending
    rw [hBooting.pending] at hPending
    cases hPending
  · intro hNow
    dsimp only
    rw [hContent]
    exact (hQueues hNow).1
  · intro hNow _
    dsimp only
    rw [hContent, (hQueues hNow).2]
    rfl

theorem queueHistory_of_run {start : Sys} (hRun : Run start trace s)
    (hStart : QueueHistory q [] start) : QueueHistory q trace s :=
  hRun.historyInvariant (C := fun _ => True) hStart
    (fun _ _ hTaken _ hPre => hPre.afterMove (move_of_step hTaken)) fun _ _ => trivial

end Runs

/-- What is promised of queue `q` in state `s` after the run `trace`. -/
structure QueueIsFifo (q : QueueId) (trace : List Label) (s : Sys) : Prop where
  count_le : (s.kernel.queues q).count ≤ (s.kernel.queues q).maxItems
  head_lt : (s.kernel.queues q).head < (s.kernel.queues q).maxItems
  tail_lt : (s.kernel.queues q).tail < (s.kernel.queues q).maxItems
  head_eq : (s.kernel.queues q).head =
    ((s.kernel.queues q).tail + (s.kernel.queues q).count) % (s.kernel.queues q).maxItems
  contents : sentItems q trace = receivedItems q trace ++ (s.kernel.queues q).items
  received_prefix : receivedItems q trace <+: sentItems q trace
  copyIn_inside : slotOffset (s.kernel.queues q) (s.kernel.queues q).head +
    (s.kernel.queues q).itemSize ≤ (s.kernel.queues q).maxItems * (s.kernel.queues q).itemSize
  copyOut_inside : slotOffset (s.kernel.queues q) (s.kernel.queues q).tail +
    (s.kernel.queues q).itemSize ≤ (s.kernel.queues q).maxItems * (s.kernel.queues q).itemSize

theorem QueueHistory.isFifo {q : QueueId} {trace : List Label} {s : Sys}
    (h : QueueHistory q trace s) (hCreated : s.created.queue q = true)
    (hFits : (s.kernel.queues q).Fits) : QueueIsFifo q trace s := by
  have hRing := Queue.Ring.of_content (h.ring hCreated)
  have hFifo : sentItems q trace = receivedItems q trace ++ (s.kernel.queues q).items :=
    h.fifo hCreated hFits
  refine ⟨hRing.valid.count_le, hRing.valid.head_lt, hRing.valid.tail_lt, hRing.valid.head_eq,
    hFifo, ⟨_, hFifo.symm⟩, ?_, ?_⟩
  · rw [Queue.Ring.slotOffset_eq hFits hRing.valid.head_lt]
    exact Queue.Ring.slot_end_le hRing.valid.head_lt
  · rw [Queue.Ring.slotOffset_eq hFits hRing.valid.tail_lt]
    exact Queue.Ring.slot_end_le hRing.valid.tail_lt

/-- In every run, a queue whose buffer is addressable is a bounded FIFO, and no transition
changes a byte beyond its buffer. -/
theorem queue_refines_fifo {trace : List Label} {s : Sys} (h : Reaches trace s) (q : QueueId)
    (hCreated : s.created.queue q = true) (hFits : (s.kernel.queues q).Fits) :
    QueueIsFifo q trace s ∧
      ∀ l ∈ trace, l.pre.created.queue q = true → (l.pre.kernel.queues q).Fits →
        ∀ a, (l.pre.kernel.queues q).maxItems * (l.pre.kernel.queues q).itemSize ≤ a →
          (l.post.kernel.queues q).buffer a = (l.pre.kernel.queues q).buffer a := by
  obtain ⟨image, calls, start, hBoot, hRun⟩ := h
  have hStart := queueHistory_of_boot (q := q) hBoot
  constructor
  · exact (queueHistory_of_run hRun hStart).isFifo hCreated hFits
  · intro l hl hPre hFits a ha
    obtain ⟨hTaken, before, _, _, hBefore⟩ := hRun.split hl
    have hRing := (queueHistory_of_run hBefore hStart).ring hPre
    have hMoves := (move_of_step hTaken).moves hPre
    have hBuffer : ∀ k : Kernel, (k.content q).buffer = (k.queues q).buffer := fun _ => rfl
    rw [← hBuffer, ← hBuffer]
    generalize sentItem q _ = sent at hMoves
    generalize receivedItem q _ = received at hMoves
    cases hMoves with
    | stay hContent => rw [hContent]
    | push _ hContent =>
      rw [hContent]
      exact hRing.buffer_push hFits ha
    | pop _ hContent =>
      rw [hContent]
      rfl

/-- A queue of two one-byte items that has wrapped around. -/
theorem queue_refines_fifo_wrapped :
    ∃ trace s, Reaches trace s ∧ (s.kernel.queues 0).items = [[8], [9]] ∧
      QueueIsFifo 0 trace s ∧
      ∀ l ∈ trace, l.pre.created.queue 0 = true → (l.pre.kernel.queues 0).Fits →
        ∀ a, (l.pre.kernel.queues 0).maxItems * (l.pre.kernel.queues 0).itemSize ≤ a →
          (l.post.kernel.queues 0).buffer a = (l.pre.kernel.queues 0).buffer a := by
  have hCheck : checkBoot sampleImage
      [sampleTask 1, .queue (some 0) (some fun _ => 0) 1 2 (some .fifo)]
      [.isrSend (some 0) (some fun _ => 7), .call (.queueSend (some 0) (some fun _ => 8) 0),
        .call (.queueRecv (some 0) false osWaitForever),
        .call (.queueSend (some 0) (some fun _ => 9) 3)]
      (fun _ => true)
      (fun s => s.created.queue 0 &&
        decide ((s.kernel.queues 0).maxItems * (s.kernel.queues 0).itemSize < 2 ^ 32) &&
        (s.kernel.queues 0).items == [[8], [9]]) = true := by
    decide +kernel
  obtain ⟨trace, s, hReaches, _, _, hFinal⟩ := reaches_of_checkBoot hCheck
  simp only [Bool.and_eq_true, decide_eq_true_eq, beq_iff_eq] at hFinal
  obtain ⟨⟨hCreated, hFits⟩, hItems⟩ := hFinal
  exact ⟨trace, s, hReaches, hItems, queue_refines_fifo hReaches 0 hCreated hFits⟩

end KoRTOS
