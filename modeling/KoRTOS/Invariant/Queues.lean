import KoRTOS.Invariant.Sound

/-!
# Queue traffic

Which transitions copy an item into a queue or out of it. Everything else leaves
the contents of every queue alone, whether or not the waitlists are consistent.
-/

namespace KoRTOS

def Piece.sendsTo (q : QueueId) : Piece → Option (Nat → U8)
  | .call (.queueSend (some q') (some item) _) => if q' = q then some item else none
  | .rest (.queueSend q' item _ _) => if q' = q then some item else none
  | _ => none

def Piece.receivesFrom (q : QueueId) : Piece → Bool
  | .call (.queueRecv (some q') false _) => q' == q
  | .rest (.queueRecv q' _ _) => q' == q
  | _ => false

def pieceOf (s : Sys) : Event → Option Piece
  | .call c => some (.call c)
  | .resume => (s.pending s.kernel.currentTask).map .rest
  | .isrSend queue item => some (.call (.queueSend queue item 0))
  | .isrRecv queue itemNull => some (.call (.queueRecv queue itemNull 0))
  | .tick => none
  | .pendSV => none

/-- The bytes that a send which returns `OS_OK` has copied into queue `q`. -/
def sentBy (k : Kernel) (q : QueueId) (piece : Piece) (out : Option Ret) : Option (List U8) :=
  match piece.sendsTo q, out with
  | some item, some ⟨.ok, _⟩ => some ((List.range (k.queues q).itemSize).map item)
  | _, _ => none

/-- The bytes that a receive which returns `OS_OK` hands back. -/
def receivedBy (q : QueueId) (piece : Piece) (out : Option Ret) : Option (List U8) :=
  match piece.receivesFrom q, out with
  | true, some ⟨.ok, data⟩ => some data
  | _, _ => none

def sentItem (q : QueueId) (l : Label) : Option (List U8) :=
  (pieceOf l.pre l.event).bind fun piece => sentBy l.pre.kernel q piece l.out

def receivedItem (q : QueueId) (l : Label) : Option (List U8) :=
  (pieceOf l.pre l.event).bind fun piece => receivedBy q piece l.out

section Content

variable {k k' : Kernel} {q : QueueId} {t : TaskId} {i : MutexId} {w : WaitlistRef} {n : U32}
  {piece : Piece} {f : Flow} {j : Nat}

theorem content_congr (h : k'.queues = k.queues) : k'.content = k.content := by
  funext q
  rw [Kernel.content, h, Kernel.content]

theorem content_enqueueCurrent {reason : BlockReason} :
    (enqueueCurrent k w n reason).content = k.content := by
  simp [enqueueCurrent]

theorem content_handOff : (handOff k i j t).content = k.content := by
  have hRecompute := fun k o => content_congr (Reranked.mutexRecomputeOwnerPriority k o).queues
  have hGive : ∀ k, (giveMutex k i t).content = k.content := fun _ => rfl
  rw [handOff_eq, hRecompute, hGive, hRecompute, releaseOwned, releaseTask_eq,
    content_leaveWaitlist]
  rfl

theorem content_setQueue {p : QueueId} {queue : Queue} :
    (k.setQueue p queue).content q =
      if q = p then
        { queue with
          sendWaitlist := waitlistInit .fifo
          recvWaitlist := waitlistInit .fifo
          droppedCount := 0 }
      else k.content q := by
  unfold Kernel.content Kernel.setQueue
  by_cases h : q = p
  · simp [h]
  · simp [h]

theorem content_countDropped {queue : Option QueueId} :
    (countDropped k queue).content = k.content := by
  cases queue with
  | none => rfl
  | some p =>
    funext q
    rw [countDropped, content_setQueue]
    split
    · subst q
      rfl
    · rfl

/-- A piece pushes to `q`, pops from it, or moves nothing in or out of it. -/
inductive Moves (k : Kernel) (q : QueueId) : Kernel → Option (List U8) → Option (List U8) → Prop
  | stay {next} (h : next.content q = k.content q) : Moves k q next none none
  | push {next item} (hRoom : (k.queues q).count < (k.queues q).maxItems)
      (h : next.content q = (k.content q).pushItem item) :
      Moves k q next (some ((List.range (k.queues q).itemSize).map item)) none
  | pop {next} (hItem : (k.queues q).count ≠ 0) (h : next.content q = (k.content q).popItem) :
      Moves k q next none (some (k.queues q).frontItem)

theorem Moves.congr {k₁ k₂ : Kernel} {sent received : Option (List U8)}
    (h : Moves k q k₁ sent received) (hSame : k₂.content = k₁.content) :
    Moves k q k₂ sent received := by
  cases h with
  | stay h => exact .stay ((congrFun hSame q).trans h)
  | push hRoom h => exact .push hRoom ((congrFun hSame q).trans h)
  | pop hItem h => exact .pop hItem ((congrFun hSame q).trans h)

theorem Sending.sendsTo {p : QueueId} {item : Nat → U8} {d : U32}
    (h : Sending k piece p item n d) :
    piece.sendsTo q = (if p = q then some item else none) ∧ piece.receivesFrom q = false := by
  cases h <;> exact ⟨rfl, rfl⟩

theorem Receiving.receivesFrom {p : QueueId} {d : U32} (h : Receiving k piece p n d) :
    piece.receivesFrom q = (p == q) ∧ piece.sendsTo q = none := by
  cases h <;> exact ⟨rfl, rfl⟩

theorem sentBy_none (h : piece.sendsTo q = none) {out : Option Ret} :
    sentBy k q piece out = none := by
  simp only [sentBy, h]

theorem receivedBy_none (h : piece.receivesFrom q = false) {out : Option Ret} :
    receivedBy q piece out = none := by
  simp only [receivedBy, h]

theorem Traffic.content {data : List U8} (h : Traffic k piece w k' data)
    {k'' : Kernel} (hSame : k''.content = k'.content) :
    Moves k q k'' (sentBy k q piece (some ⟨.ok, data⟩)) (receivedBy q piece (some ⟨.ok, data⟩)) := by
  cases h with
  | post => exact .stay (congrFun hSame q)
  | @push _ p item _ _ hPiece hRoom =>
    obtain ⟨hSends, hReceives⟩ := hPiece.sendsTo (q := q)
    rw [receivedBy_none hReceives]
    have hContent := congrFun hSame q
    rw [content_setQueue] at hContent
    by_cases hq : p = q
    · subst hq
      rw [if_pos rfl] at hContent hSends
      simp only [sentBy, hSends]
      exact .push hRoom hContent
    · rw [if_neg (Ne.symm hq)] at hContent
      rw [if_neg hq] at hSends
      rw [sentBy_none hSends]
      exact .stay hContent
  | @pop _ p _ _ hPiece hItem =>
    obtain ⟨hReceives, hSends⟩ := hPiece.receivesFrom (q := q)
    rw [sentBy_none hSends]
    have hContent := congrFun hSame q
    rw [content_setQueue] at hContent
    by_cases hq : p = q
    · subst hq
      rw [if_pos rfl] at hContent
      rw [beq_self_eq_true] at hReceives
      simp only [receivedBy, hReceives]
      exact .pop hItem hContent
    · rw [if_neg (Ne.symm hq)] at hContent
      rw [beq_eq_false_iff_ne.mpr hq] at hReceives
      rw [receivedBy_none hReceives]
      exact .stay hContent

theorem Refused.moves_nothing {err : OsErr} (h : Refused k piece err) :
    sentBy k q piece (some ⟨err, []⟩) = none ∧ receivedBy q piece (some ⟨err, []⟩) = none := by
  have hNotOk : err ≠ .ok → sentBy k q piece (some ⟨err, []⟩) = none ∧
      receivedBy q piece (some ⟨err, []⟩) = none := by
    intro hErr
    unfold sentBy receivedBy
    constructor
    · split
      · rename_i hOk
        cases hOk
        exact absurd rfl hErr
      · rfl
    · split
      · rename_i hOk
        cases hOk
        exact absurd rfl hErr
      · rfl
  cases h with
  | idleDelay => exact ⟨sentBy_none rfl, receivedBy_none rfl⟩
  | delayOver => exact ⟨sentBy_none rfl, receivedBy_none rfl⟩
  | semOver => exact ⟨sentBy_none rfl, receivedBy_none rfl⟩
  | lockOver => exact ⟨sentBy_none rfl, receivedBy_none rfl⟩
  | lockFailed hErr => exact hNotOk hErr
  | _ => exact hNotOk (by simp)

theorem Section.moves (hs : Section k piece k' f) :
    Moves k q k' (sentBy k q piece f.result) (receivedBy q piece f.result) := by
  have hOut : f.result = none →
      sentBy k q piece f.result = none ∧ receivedBy q piece f.result = none := by
    intro hNone
    rw [hNone]
    constructor
    · unfold sentBy
      split <;> simp_all
    · unfold receivedBy
      split <;> simp_all
  have hStay : k'.content = k.content →
      sentBy k q piece f.result = none ∧ receivedBy q piece f.result = none →
      Moves k q k' (sentBy k q piece f.result) (receivedBy q piece f.result) := by
    intro hContent ⟨hSent, hReceived⟩
    rw [hSent, hReceived]
    exact .stay (congrFun hContent q)
  cases hs with
  | refuse h => exact hStay rfl h.moves_nothing
  | take => exact hStay rfl ⟨rfl, rfl⟩
  | post => exact hStay rfl ⟨rfl, rfl⟩
  | serve hTraffic => exact hTraffic.content rfl
  | wake hTraffic =>
    apply hTraffic.content
    rw [releaseTask_eq, Kernel.content_portYield, content_leaveWaitlist]
  | acquire => exact hStay rfl ⟨rfl, rfl⟩
  | free => exact hStay rfl ⟨rfl, rfl⟩
  | handOff => exact hStay content_handOff ⟨rfl, rfl⟩
  | delay => exact hStay rfl (hOut rfl)
  | block => exact hStay content_enqueueCurrent (hOut rfl)
  | lockBlock =>
    refine hStay ?_ (hOut rfl)
    rw [content_enqueueCurrent, content_congr (Reranked.mutexDonatePriority k _).queues]
  | lockFull => exact hStay (content_congr (Reranked.mutexDonatePriority k _).queues) (hOut rfl)
  | stage => exact hStay rfl (hOut rfl)
  | write => exact hStay rfl (hOut rfl)

theorem content_unblockTask {t : TaskId} : (unblockTask k t).content = k.content := by
  unfold unblockTask
  split
  · split
    · rename_i w _
      rw [Kernel.content_modifyTask, removeFromWaitlist]
      split <;> simp
    · simp
  · rfl

theorem content_osTick : (osTick k).content = k.content := by
  have hFold : ∀ (l : List TaskId) (k : Kernel),
      (l.foldl unblockTask k).content = k.content := by
    intro l
    induction l with
    | nil => exact fun _ => rfl
    | cons t l ih => exact fun k => (ih _).trans content_unblockTask
  rw [osTick, Kernel.content_portYield, unblockTasks]
  split
  · rfl
  · exact hFold _ _

theorem content_osScheduleNextTask : (osScheduleNextTask k).content = k.content :=
  content_congr sameButStates_osScheduleNextTask.queues

end Content

section Moves

variable {s s' : Sys} {e : Event} {out : Option Ret} {q : QueueId}

theorem Move.moves (hMove : Move s e s' out) (hCreated : s.created.queue q = true) :
    Moves s.kernel q s'.kernel (sentItem q ⟨s, e, out, s'⟩) (receivedItem q ⟨s, e, out, s'⟩) := by
  cases hMove with
  | create _ _ hFresh hCreation =>
    refine .stay ?_
    cases hCreation with
    | @queue p =>
      have hne : q ≠ p := by
        rintro rfl
        simp [Objects.fresh, hCreated] at hFresh
      rw [Sys.afterCreate, content_setQueue, if_neg hne]
    | _ => rfl
  | call _ _ _ hSection => exact hSection.moves
  | resume _ hPending hSection =>
    have hMoves := hSection.moves (q := q)
    simp only [sentItem, receivedItem, pieceOf, hPending, Option.map_some, Option.bind_some]
    exact hMoves
  | isrSend _ hSection =>
    have hMoves := hSection.moves (q := q)
    simp only [sentItem, receivedItem, pieceOf, Option.bind_some]
    split
    · exact hMoves.congr content_countDropped
    · exact hMoves
  | isrRecv _ hSection => exact hSection.moves
  | tick => exact .stay (congrFun content_osTick q)
  | pendSV => exact .stay (congrFun content_osScheduleNextTask q)

end Moves
end KoRTOS
