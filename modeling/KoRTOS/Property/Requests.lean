import KoRTOS.Invariant.Candidates
import KoRTOS.Invariant.Ownership
import KoRTOS.Property.Objects

/-!
# Pieces of code as requests

A piece of code that starts a call, or looks at a queue again, is one attempt to have a
request served: it serves the request, refuses it or makes its task wait, the last two only
if the objects could not serve it.
-/

namespace KoRTOS

def answerOf (r : SyncRequest) (ret : Ret) : Synchronization.Answer (List U8) :=
  if ret.err = .ok then
    match r with
    | .get _ => .got ret.data
    | _ => .done
  else .refused

/-- What the simulation needs to know of a state. -/
structure Refining (s : Sys) : Prop where
  locks : Locks s
  priorities : UserPriorities s.kernel
  rings : ∀ {q}, s.created.queue q = true → (s.kernel.queues q).Ring

instance (queue : Queue) : Decidable queue.Fits := inferInstanceAs (Decidable (_ < _))

/-- The piece makes no post at 255 that nobody waits for, and uses no queue whose buffer is
larger than the address space. -/
def Piece.fits (k : Kernel) (piece : Piece) : Bool :=
  match piece with
  | .call (.semPost (some i)) => decide (k.tokens i < 255 ∨ k.waiters (.sem i) ≠ [])
  | piece =>
    match piece.uses with
    | some (.queueSend q) => decide (k.queues q).Fits
    | some (.queueRecv q) => decide (k.queues q).Fits
    | _ => true

/-- The application keeps to the limits, and what runs keeps to the widths of the machine. -/
def WithinBounds (l : Label) : Prop :=
  WellUsed l ∧ (pieceOf l.pre l.event).all (Piece.fits l.pre.kernel) = true

instance (l : Label) : Decidable (WithinBounds l) := inferInstanceAs (Decidable (_ ∧ _))

/-- The piece is the whole of what it does for its request, not the end of a call that has been
served or has timed out. -/
def Piece.Attempts (k : Kernel) (piece : Piece) (r : SyncRequest) : Prop :=
  piece.request k = some r ∧
    ∀ rest, piece = .rest rest → r.again = true ∧ k.timedOut k.currentTask = false

section Attempts

variable {s : Sys} {k' : Kernel} {f : Flow} {piece : Piece} {r : SyncRequest} {err : OsErr}
  {w : WaitlistRef} {t : TaskId} {who : Option TaskId} {data : List U8}

theorem Sending.request {k : Kernel} {q : QueueId} {item : Nat → U8} {n d : U32}
    (h : Sending k piece q item n d) : piece.request k = some (.put q (itemBytes k q item)) := by
  cases h <;> rfl

theorem Receiving.request {k : Kernel} {q : QueueId} {n d : U32}
    (h : Receiving k piece q n d) : piece.request k = some (.get q) := by
  cases h <;> rfl

theorem Sending.fits {k : Kernel} {q : QueueId} {item : Nat → U8} {n d : U32}
    (h : Sending k piece q item n d) (hFits : piece.fits k = true) : (k.queues q).Fits := by
  cases h <;> exact of_decide_eq_true hFits

theorem Receiving.fits {k : Kernel} {q : QueueId} {n d : U32}
    (h : Receiving k piece q n d) (hFits : piece.fits k = true) : (k.queues q).Fits := by
  cases h <;> exact of_decide_eq_true hFits

theorem Pending.request_of_waitsOn {rest : Pending} (k : Kernel) (h : rest.waitsOn = some w) :
    ∃ r, rest.request k = some r := by
  cases rest with
  | taskDelay => cases h
  | _ => exact ⟨_, rfl⟩

theorem answerOf_refused {ret : Ret} (h : ret.err ≠ .ok) : answerOf r ret = .refused := if_neg h

theorem length_items {k : Kernel} {q : QueueId} :
    ((k.content q).items).length = (k.queues q).count := RingBuffer.length_contents _

theorem Refining.not_ready (h : Refining s) (hRefused : Refused s.kernel piece err)
    (hAttempts : piece.Attempts s.kernel r)
    (hWho : who = some s.kernel.currentTask ∨ r.again = true) :
    err ≠ .ok ∧ ¬ s.objects.Ready who r := by
  have hWaiting := h.locks.sound.waiting
  obtain ⟨hRequest, hTurn⟩ := hAttempts
  cases hRefused with
  | @nullSend queue _ _ hNull =>
    obtain rfl | rfl := hNull
    · cases hRequest
    · cases queue <;> cases hRequest
  | @nullRecv queue itemNull _ hNull =>
    obtain rfl | rfl := hNull
    · cases hRequest
    · cases queue <;> cases hRequest
  | semEmpty hEmpty =>
    cases hRequest
    exact ⟨by simp, fun hReady => hReady hEmpty⟩
  | recursive hOwner =>
    cases hRequest
    refine ⟨by simp, fun hReady => ?_⟩
    have hFree : (s.kernel.mutexes _).owner = none := hReady.2
    rw [hOwner] at hFree
    cases hFree
  | lockBusy hLocked hOwner =>
    cases hRequest
    refine ⟨by simp, fun hReady => ?_⟩
    rw [(h.locks.owning.unlocked _).mpr hReady.2] at hLocked
    cases hLocked
  | notOwner hOwner =>
    cases hRequest
    obtain rfl | hAgain := hWho
    · exact ⟨by simp, fun hReady => hOwner hReady.2⟩
    · cases hAgain
  | @sendFull _ q _ _ _ hPiece hFull =>
    cases hPiece.request.symm.trans hRequest
    refine ⟨by simp, fun hReady => ?_⟩
    have hRoom : ((s.kernel.content q).items).length < (s.kernel.queues q).maxItems := hReady
    rw [length_items] at hRoom
    omega
  | @recvEmpty _ q _ _ hPiece hEmpty =>
    cases hPiece.request.symm.trans hRequest
    refine ⟨by simp, fun hReady => hReady ?_⟩
    exact List.length_eq_zero_iff.mp (length_items.trans hEmpty)
  | listFull hBlocks hFull => exact absurd hWaiting.waitCount_lt hFull.not_gt
  | semOver =>
    have hAgain := (hTurn _ rfl).1
    cases hRequest
    cases hAgain
  | lockOver =>
    have hAgain := (hTurn _ rfl).1
    cases hRequest
    cases hAgain
  | lockFailed =>
    have hAgain := (hTurn _ rfl).1
    cases hRequest
    cases hAgain
  | sendOver hTimeout => exact absurd (hTimeout.symm.trans (hTurn _ rfl).2) (by simp)
  | recvOver hTimeout => exact absurd (hTimeout.symm.trans (hTurn _ rfl).2) (by simp)
  | _ => cases hRequest

theorem Refining.releases {k₁ : Kernel} {p : SyncPlace} {j : Nat}
    (h : Refining s) (hQuiet : Quiet s.kernel k₁) (hChosen : Chosen k₁ (waitlistOf p) j t) :
    Synchronization.Releases s.kernel.eff (objectsOf k₁ s.pending) p (some t)
      (objectsOf (releaseTask k₁ (waitlistOf p) j t) s.pending) := by
  have hSame := hQuiet.toSameShape.sameBlocking
  have hWaiting : Waiting k₁ := h.locks.sound.waiting.congr hSame
  have hEff : k₁.eff = s.kernel.eff := by
    funext u
    rw [Kernel.eff, hQuiet.userTasks, Kernel.eff]
  have hOn := hChosen.blockedOn hWaiting
  rw [hSame.blockedOn] at hOn
  obtain ⟨rest, hRest, hWaits⟩ := h.locks.sound.pending_waits hOn
  obtain ⟨r, hRequest⟩ := Pending.request_of_waitsOn k₁ hWaits
  rw [← hEff]
  refine hChosen.releases hWaiting (fun u hu => ?_) hRest hRequest
  have hUser := (hWaiting.blocked (hWaiting.mem_waiters.mp hu)).1
  rw [hEff]
  exact h.priorities.eff_le u hUser

theorem waiters_eq_nil {k : Kernel} (h : Waiting k) (hEmpty : (k.waitlist w).waitCount = 0) :
    k.waiters w = [] :=
  List.length_eq_zero_iff.mp (h.waitCount_eq.symm.trans hEmpty)

theorem Refining.serves_traffic {o : SyncObjects} {k₁ : Kernel} {released : Option TaskId}
    (h : Refining s) (hFits : piece.fits s.kernel = true)
    (hRequest : piece.request s.kernel = some r)
    (hCreated : ∀ v, piece.uses = some v → s.created.has v = true)
    (hTraffic : Traffic s.kernel piece w k₁ data) (hQueue : ∀ i, w ≠ .sem i)
    (hReleases : ∀ p, waitlistOf p = w →
      Synchronization.Releases s.kernel.eff (objectsOf k₁ s.pending) p released o) :
    Synchronization.Serves s.kernel.eff s.objects who r (answerOf r ⟨.ok, data⟩) o := by
  cases hTraffic with
  | post => exact absurd rfl (hQueue _)
  | @push _ q item _ _ hPiece hRoom =>
    have hRing : (s.kernel.queues q).Ring :=
      h.rings (hCreated (.queueSend q) (by cases hPiece <;> rfl))
    have hReleased := hReleases (.item q) rfl
    rw [objectsOf_setQueue ((s.kernel.queues q).pushItem item) rfl rfl rfl rfl,
      hRing.items_push (hPiece.fits hFits) hRoom] at hReleased
    cases hPiece.request.symm.trans hRequest
    refine .put ?_ hReleased
    change ((s.kernel.content q).items).length < _
    rw [length_items]
    exact hRoom
  | @pop _ q _ _ hPiece hItem =>
    have hRing : (s.kernel.queues q).Ring :=
      h.rings (hCreated (.queueRecv q) (by cases hPiece <;> rfl))
    have hReleased := hReleases (.room q) rfl
    rw [objectsOf_setQueue (s.kernel.queues q).popItem rfl rfl rfl rfl] at hReleased
    cases hPiece.request.symm.trans hRequest
    exact .get (hRing.items_pop (hPiece.fits hFits) hItem) hReleased

theorem Refining.tries_ended (h : Refining s) (hFits : piece.fits s.kernel = true)
    (hCreated : ∀ v, piece.uses = some v → s.created.has v = true)
    (hs : Section s.kernel piece k' f) (hRest : f.rest = none)
    (hAttempts : piece.Attempts s.kernel r)
    (hWho : who = some s.kernel.currentTask ∨ r.again = true) :
    Synchronization.Tries s.kernel.eff s.objects who r (f.result.map (answerOf r))
      ((objectsOf k' s.pending).leave who) := by
  have hWaiting := h.locks.sound.waiting
  have hOwning := h.locks.owning
  cases hs with
  | @refuse _ err hRefused =>
    obtain ⟨hErr, hNotReady⟩ := h.not_ready hRefused hAttempts hWho
    have hAnswer : (Flow.ret err).result.map (answerOf r) = some .refused := by
      exact congrArg some (answerOf_refused hErr)
    rw [hAnswer]
    exact .refuse hNotReady
  | @take i n hCount =>
    cases hAttempts.1
    rw [objectsOf_takeToken]
    exact .serve (.take (Nat.sub_add_cancel hCount).symm)
  | @post i hEmpty =>
    cases hAttempts.1
    have hNil : s.kernel.waiters (.sem i) = [] := waiters_eq_nil hWaiting hEmpty
    have hBelow : s.kernel.tokens i < 255 :=
      (of_decide_eq_true hFits).resolve_right fun hSome => hSome hNil
    rw [objectsOf_addToken hBelow]
    exact .serve (.give hNil)
  | @serve _ w _ _ hTraffic hQueue hEmpty =>
    have hNobody : ∀ p, waitlistOf p = w →
        Synchronization.Releases s.kernel.eff (objectsOf k' s.pending) p none
          (objectsOf k' s.pending) := by
      rintro p rfl
      exact .nobody (waiters_eq_nil (hWaiting.congr hTraffic.quiet.sameBlocking) hEmpty)
    exact .serve (h.serves_traffic hFits hAttempts.1 hCreated hTraffic hQueue hNobody)
  | @wake _ w k₁ _ j t hTraffic hChosen =>
    rw [objectsOf_portYield]
    have hReleases : ∀ p, waitlistOf p = w →
        Synchronization.Releases s.kernel.eff (objectsOf k₁ s.pending) p (some t)
          (objectsOf (releaseTask k₁ w j t) s.pending) := by
      rintro p rfl
      exact h.releases hTraffic.quiet hChosen
    cases hTraffic with
    | post =>
      cases hAttempts.1
      exact .serve (.giveTo (hReleases (.token _) rfl))
    | push hPiece hRoom =>
      exact .serve (h.serves_traffic hFits hAttempts.1 hCreated (.push hPiece hRoom) (by simp)
        hReleases)
    | pop hPiece hItem =>
      exact .serve (h.serves_traffic hFits hAttempts.1 hCreated (.pop hPiece hItem) (by simp)
        hReleases)
  | @acquire i n hFree =>
    cases hAttempts.1
    obtain rfl | hAgain := hWho
    · rw [objectsOf_acquire hOwning hFree]
      exact .serve (.lock ⟨by simp, (hOwning.unlocked i).mp hFree⟩)
    · cases hAgain
  | @free i hOwner hEmpty =>
    cases hAttempts.1
    obtain rfl | hAgain := hWho
    · rw [objectsOf_free hOwning hOwner]
      exact .serve (.unlock ⟨by simp, hOwner⟩ (waiters_eq_nil hWaiting hEmpty))
    · cases hAgain
  | @handOff i j t hOwner hChosen =>
    cases hAttempts.1
    obtain rfl | hAgain := hWho
    · rw [objectsOf_portYield, objectsOf_handOff hOwning hOwner]
      have hReleased := h.releases (p := .mutex i) (.refl s.kernel) hChosen
      exact .serve (.handOver ⟨by simp, hOwner⟩ hReleased)
    · cases hAgain
  | stage => cases hRest
  | _ => cases hRest

theorem Refining.not_ready_of_blocks {n : U32} {rest : Pending} (who : Option TaskId)
    (hBlocks : Blocks s.kernel piece w n rest) :
    ∃ r p, piece.request s.kernel = some r ∧ rest.request s.kernel = some r ∧ r.place = some p ∧
      waitlistOf p = w ∧ ¬ s.objects.Ready who r ∧ ∀ i, r ≠ .lock i := by
  cases hBlocks with
  | @sem i _ hEmpty =>
    exact ⟨.take i, .token i, rfl, rfl, rfl, rfl, fun hReady => hReady hEmpty, by simp⟩
  | @send _ q item _ _ hPiece hFull =>
    refine ⟨_, .room q, hPiece.request, rfl, rfl, rfl, fun hReady => ?_, by simp⟩
    have hRoom : ((s.kernel.content q).items).length < (s.kernel.queues q).maxItems := hReady
    rw [length_items] at hRoom
    omega
  | @recv _ q _ _ hPiece hEmpty =>
    refine ⟨_, .item q, hPiece.request, rfl, rfl, rfl, fun hReady => hReady ?_, by simp⟩
    exact List.length_eq_zero_iff.mp (length_items.trans hEmpty)

theorem objects_afterEnqueue {k₁ : Kernel} {n : U32} {reason : BlockReason} {rest : Pending}
    {p : SyncPlace} (h : Listed k₁)
    (hCurrent : k₁.currentTask = s.kernel.currentTask) (hRequest : rest.request k₁ = some r) :
    (s.afterPiece (enqueueCurrent k₁ (waitlistOf p) n reason) (.suspended rest)).objects =
      (objectsOf k₁ s.pending).join s.kernel.currentTask r p := by
  rw [← hCurrent, ← objectsOf_enqueueCurrent n reason h hRequest, Sys.objects, Sys.afterPiece,
    currentTask_enqueueCurrent]
  rfl

theorem Refining.tries_blocked (h : Refining s) (hs : Section s.kernel piece k' f)
    {rest : Pending} (hRest : f.rest = some rest) (hAttempts : piece.Attempts s.kernel r) :
    Synchronization.Tries s.kernel.eff s.objects (some s.kernel.currentTask) r
      (f.result.map (answerOf r)) (s.afterPiece k' f).objects := by
  have hWaiting := h.locks.sound.waiting
  cases hs with
  | @block _ w _ _ hBlocks =>
    obtain ⟨r', p, hAsked, hKept, hPlace, rfl, hNotReady, hNoLock⟩ :=
      not_ready_of_blocks (some s.kernel.currentTask) hBlocks
    obtain rfl := Option.some.inj (hAsked.symm.trans hAttempts.1)
    rw [objects_afterEnqueue hWaiting.listed rfl hKept]
    exact .wait rfl hPlace hNotReady fun i hLock => absurd hLock (hNoLock i)
  | @lockBlock i n hLocked hOwner =>
    cases hAttempts.1
    have hRanks := Reranked.mutexDonatePriority s.kernel (s.kernel.mutexes i).owner
    have hObjects : (s.afterPiece (enqueueCurrent (mutexDonatePriority s.kernel
        (s.kernel.mutexes i).owner) (.mutex i) n .mutex)
        (.suspended (.mutexLock i .ok .woken))).objects =
          s.objects.join s.kernel.currentTask (.lock i) (.mutex i) := by
      have hSame : objectsOf _ s.pending = s.objects := objectsOf_reranked hRanks
      rw [← hSame]
      exact objects_afterEnqueue (p := .mutex i) (r := .lock i)
        (hWaiting.listed.congr hRanks.sameBlocking) hRanks.currentTask rfl
    have hNotReady : ¬ s.objects.Ready (some s.kernel.currentTask) (.lock i) := by
      intro hReady
      rw [(h.locks.owning.unlocked i).mpr hReady.2] at hLocked
      cases hLocked
    rw [hObjects]
    refine .wait rfl rfl hNotReady fun j hj => ?_
    cases hj
    exact hOwner
  | lockFull _ _ _ hFull => exact absurd hWaiting.waitCount_lt hFull.not_gt
  | delay => cases hAttempts.1
  | stage => cases (hAttempts.2 _ rfl).1.symm.trans (by cases hAttempts.1; rfl)
  | write => cases (hAttempts.2 _ rfl).1.symm.trans (by cases hAttempts.1; rfl)
  | _ => cases hRest

end Attempts
end KoRTOS
