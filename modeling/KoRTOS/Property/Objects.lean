import KoRTOS.Invariant.Semaphores
import KoRTOS.Library.Synchronization
import KoRTOS.Property.QueueFifo
import KoRTOS.Property.ReleaseOrder

/-!
# The objects that a kernel implements

A kernel with what its tasks have left to do stands for a state of the objects of
`Synchronization`: a count for its tokens, an owner for its mutex, the slots in use for the
items of a queue, and for each task a phase that its control block and its call give
together. Each primitive update is a change of these objects or none at all.
-/

namespace KoRTOS

abbrev SyncPlace := Synchronization.Place SemId MutexId QueueId
abbrev SyncObjects := Synchronization.Objects TaskId SemId MutexId QueueId (List U8)
abbrev SyncRequest := Synchronization.Request SemId MutexId QueueId (List U8)
abbrev SyncPhase := Synchronization.Phase SemId MutexId QueueId (List U8)
abbrev SyncAction := Synchronization.Action TaskId SemId MutexId QueueId (List U8)

def waitlistOf : SyncPlace → WaitlistRef
  | .token i => .sem i
  | .mutex i => .mutex i
  | .room q => .queueSend q
  | .item q => .queueRecv q

def SchedulePolicy.discipline : SchedulePolicy → Synchronization.Discipline
  | .fifo => .oldest
  | .priority => .foremost

def itemBytes (k : Kernel) (q : QueueId) (item : Nat → U8) : List U8 :=
  (List.range (k.content q).itemSize).map item

def Pending.request (k : Kernel) : Pending → Option SyncRequest
  | .taskDelay => none
  | .semWait i => some (.take i)
  | .mutexLock i _ _ => some (.lock i)
  | .queueSend q item _ _ => some (.put q (itemBytes k q item))
  | .queueRecv q _ _ => some (.get q)

def Piece.request (k : Kernel) : Piece → Option SyncRequest
  | .call (.semWait (some i) _) => some (.take i)
  | .call (.semPost (some i)) => some (.give i)
  | .call (.mutexLock (some i) _) => some (.lock i)
  | .call (.mutexUnlock (some i)) => some (.unlock i)
  | .call (.queueSend (some q) (some item) _) => some (.put q (itemBytes k q item))
  | .call (.queueRecv (some q) false _) => some (.get q)
  | .call _ => none
  | .rest p => p.request k

def Kernel.timedOut (k : Kernel) (t : TaskId) : Bool := (k.userTasks t).timeout

def phaseOf (k : Kernel) (t : TaskId) (pending : Option Pending) : SyncPhase :=
  match pending.bind (Pending.request k) with
  | none => .outside
  | some r =>
    if (k.blockedOn t).isSome then .waits r
    else if k.timedOut t then .late r
    else .served r

def objectsOf (k : Kernel) (pending : TaskId → Option Pending) : SyncObjects where
  tokens := k.tokens
  owner := k.ownerOf
  items q := (k.content q).items
  capacity q := (k.content q).maxItems
  waiting p := k.waiters (waitlistOf p)
  discipline p := (k.policy (waitlistOf p)).discipline
  phase t := phaseOf k t (pending t)

/-- The objects that a state of the system implements. -/
def Sys.objects (s : Sys) : SyncObjects := objectsOf s.kernel s.pending

section Effects

variable {k k' : Kernel} {pending : TaskId → Option Pending} {i : Nat} {q : QueueId} {t : TaskId}
  {w : WaitlistRef}

theorem waitlistOf_injective : Function.Injective waitlistOf := by
  intro p p' h
  cases p <;> cases p' <;> cases h <;> rfl

theorem update_waitlistOf {α : Type*} (L : WaitlistRef → α)
    (p : SyncPlace) (a : α) :
    (fun p' => Function.update L (waitlistOf p) a (waitlistOf p')) =
      Function.update (fun p' => L (waitlistOf p')) p a :=
  Function.update_comp_eq_of_injective L waitlistOf_injective p a

theorem request_congr (h : ∀ q, (k'.content q).itemSize = (k.content q).itemSize) :
    Pending.request k' = Pending.request k := by
  funext rest
  cases rest <;> simp [Pending.request, itemBytes, h]

theorem phaseOf_congr {p : Option Pending}
    (hSize : ∀ q, (k'.content q).itemSize = (k.content q).itemSize)
    (hOn : k'.blockedOn t = k.blockedOn t) (hTimeout : k'.timedOut t = k.timedOut t) :
    phaseOf k' t p = phaseOf k t p := by
  rw [phaseOf, phaseOf, request_congr hSize, hOn, hTimeout]

theorem objectsOf_of_waitlist (hWaitlist : k'.waitlist = k.waitlist)
    (hOn : k'.blockedOn = k.blockedOn) (hTimeout : k'.timedOut = k.timedOut)
    (hSize : ∀ q, (k'.content q).itemSize = (k.content q).itemSize) :
    objectsOf k' pending =
      { objectsOf k pending with
        tokens := k'.tokens
        owner := k'.ownerOf
        items := fun q => (k'.content q).items
        capacity := fun q => (k'.content q).maxItems } := by
  have hWaiters : k'.waiters = k.waiters := by
    funext w
    rw [Kernel.waiters, hWaitlist, Kernel.waiters]
  have hPhase : ∀ t, phaseOf k' t (pending t) = phaseOf k t (pending t) :=
    fun t => phaseOf_congr hSize (congrFun hOn t) (congrFun hTimeout t)
  simp only [objectsOf, hWaiters, policy_of_waitlist hWaitlist, hPhase]

theorem objectsOf_of_blocking (h : SameBlocking k k')
    (hSize : ∀ q, (k'.content q).itemSize = (k.content q).itemSize) :
    objectsOf k' pending =
      { objectsOf k pending with
        tokens := k'.tokens
        owner := k'.ownerOf
        items := fun q => (k'.content q).items
        capacity := fun q => (k'.content q).maxItems } :=
  objectsOf_of_waitlist h.waitlist h.blockedOn (funext h.timeout) hSize

theorem objectsOf_congr (h : SameBlocking k k') (hTokens : k'.tokens = k.tokens)
    (hOwner : k'.ownerOf = k.ownerOf) (hContent : k'.content = k.content) :
    objectsOf k' pending = objectsOf k pending := by
  rw [objectsOf_of_blocking h fun q => by rw [hContent], hTokens, hOwner, hContent]
  rfl

theorem objectsOf_reranked (h : Reranked k k') : objectsOf k' pending = objectsOf k pending :=
  objectsOf_congr h.toSameShape.sameBlocking (tokens_congr h.semaphores) h.ownerOf
    (content_congr h.queues)

theorem objectsOf_portYield : objectsOf k.portYield pending = objectsOf k pending :=
  objectsOf_congr (SameShape.portYield k).sameBlocking rfl rfl (content_congr rfl)

theorem objectsOf_countDropped {queue : Option QueueId} :
    objectsOf (countDropped k queue) pending = objectsOf k pending :=
  objectsOf_congr (quiet_countDropped k queue).toSameShape.sameBlocking
    (by cases queue <;> rfl) (quiet_countDropped k queue).ownerOf content_countDropped

theorem objectsOf_takeToken :
    objectsOf (takeToken k i) pending = (objectsOf k pending).setTokens i (k.tokens i - 1) := by
  rw [objectsOf_of_blocking (quiet_takeToken (k := k) (i := i)).toSameShape.sameBlocking
    fun _ => rfl]
  have hTokens : (takeToken k i).tokens = Function.update k.tokens i (k.tokens i - 1) := by
    funext j
    rw [tokens_takeToken, Function.update_apply]
    split
    · subst j
      rfl
    · rfl
  rw [hTokens]
  rfl

theorem objectsOf_addToken (h : k.tokens i < 255) :
    objectsOf (addToken k i) pending = (objectsOf k pending).setTokens i (k.tokens i + 1) := by
  rw [objectsOf_of_blocking (quiet_addToken (k := k) (i := i)).toSameShape.sameBlocking
    fun _ => rfl]
  have hTokens : (addToken k i).tokens = Function.update k.tokens i (k.tokens i + 1) := by
    funext j
    rw [tokens_addToken, Function.update_apply]
    split
    · subst j
      exact Nat.mod_eq_of_lt (by omega)
    · rfl
  rw [hTokens]
  rfl

theorem objectsOf_acquire (h : Owning k) (hFree : (k.mutexes i).state = .unlocked) :
    objectsOf (acquire k i) pending = (objectsOf k pending).setOwner i (some k.currentTask) := by
  rw [objectsOf_of_blocking acquire_blocking fun _ => rfl, (h.afterAcquire hFree).2]
  rfl

theorem objectsOf_free (h : Owning k) (hOwner : k.ownerOf i = some k.currentTask) :
    objectsOf (free k i) pending = (objectsOf k pending).setOwner i none := by
  rw [objectsOf_of_blocking free_blocking fun _ => rfl, (h.afterFree hOwner).2]
  rfl

theorem objectsOf_handOff {j : Nat} (h : Owning k) (hOwner : k.ownerOf i = some k.currentTask) :
    objectsOf (handOff k i j t) pending =
      (objectsOf (releaseTask k (.mutex i) j t) pending).setOwner i (some t) := by
  have hSize : ∀ q, ((handOff k i j t).content q).itemSize =
      ((leaveWaitlist k (.mutex i) j t false).content q).itemSize := by
    intro q
    rw [content_handOff, content_leaveWaitlist]
  rw [objectsOf_of_blocking handOff_blocking hSize, tokens_handOff, content_handOff,
    (h.afterHandOff hOwner).2, releaseTask_eq]
  have hLeft : (leaveWaitlist k (.mutex i) j t false).ownerOf = k.ownerOf :=
    SameOwning.leaveWaitlist.ownerOf
  simp only [objectsOf, Synchronization.Objects.setOwner, hLeft, tokens_leaveWaitlist,
    content_leaveWaitlist]

theorem objectsOf_setQueue (queue : Queue)
    (hSend : queue.sendWaitlist = (k.queues q).sendWaitlist)
    (hRecv : queue.recvWaitlist = (k.queues q).recvWaitlist)
    (hSize : queue.itemSize = (k.queues q).itemSize)
    (hMax : queue.maxItems = (k.queues q).maxItems) :
    objectsOf (k.setQueue q queue) pending = (objectsOf k pending).setItems q queue.items := by
  have hQuiet := Quiet.setQueue (k := k) hSend hRecv
  have hSizes : ∀ p, ((k.setQueue q queue).content p).itemSize = (k.content p).itemSize := by
    intro p
    rw [content_setQueue]
    split
    · subst p
      exact hSize
    · rfl
  have hItems : (fun p => ((k.setQueue q queue).content p).items) =
      Function.update (fun p => (k.content p).items) q queue.items := by
    funext p
    rw [content_setQueue, Function.update_apply]
    split <;> rfl
  have hCapacity : (fun p => ((k.setQueue q queue).content p).maxItems) =
      fun p => (k.content p).maxItems := by
    funext p
    rw [content_setQueue]
    split
    · subst p
      exact hMax
    · rfl
  rw [objectsOf_of_blocking hQuiet.toSameShape.sameBlocking hSizes, hItems, hCapacity]
  rfl

theorem objectsOf_leaveWaitlist {p : SyncPlace} {rest : Pending}
    {r : SyncRequest} {j : Nat} {b : Bool} (h : Listed k)
    (hj : j < (k.waiters (waitlistOf p)).length)
    (hRest : pending t = some rest) (hRequest : rest.request k = some r) :
    objectsOf (leaveWaitlist k (waitlistOf p) j t b) pending =
      ((objectsOf k pending).setWaiting p ((k.waiters (waitlistOf p)).eraseIdx j)).setPhase t
        (if b then .late r else .served r) := by
  have hPhase : ∀ u, phaseOf (leaveWaitlist k (waitlistOf p) j t b) u (pending u) =
      if u = t then (if b then .late r else .served r) else phaseOf k u (pending u) := by
    intro u
    split
    · subst u
      have hBind : (pending t).bind (Pending.request k) = some r := by rw [hRest]; exact hRequest
      have hOn : (leaveWaitlist k (waitlistOf p) j t b).blockedOn t = none := by
        rw [blockedOn_leaveWaitlist, Function.update_self]
      have hTimeout : (leaveWaitlist k (waitlistOf p) j t b).timedOut t = b := by
        rw [Kernel.timedOut, userTasks_leaveWaitlist, if_pos rfl]
        rfl
      rw [phaseOf, request_congr (k := k) fun q => by rw [content_leaveWaitlist], hBind, hOn,
        hTimeout]
      rfl
    · rename_i hne
      apply phaseOf_congr (fun q => by rw [content_leaveWaitlist])
      · rw [blockedOn_leaveWaitlist, Function.update_of_ne hne]
      · rw [Kernel.timedOut, userTasks_leaveWaitlist, if_neg hne, Kernel.timedOut]
  have hOwner : (leaveWaitlist k (waitlistOf p) j t b).ownerOf = k.ownerOf :=
    SameOwning.leaveWaitlist.ownerOf
  simp only [objectsOf, hPhase, hOwner, tokens_leaveWaitlist, content_leaveWaitlist,
    policy_leaveWaitlist, h.leave hj, update_waitlistOf, Synchronization.Objects.setWaiting,
    Synchronization.Objects.setPhase]
  congr 1
  funext u
  rw [Function.update_apply]

theorem objectsOf_leave :
    objectsOf k (Function.update pending t none) = (objectsOf k pending).leave (some t) := by
  simp only [objectsOf, Synchronization.Objects.leave, Synchronization.Objects.setPhase]
  congr 1
  funext u
  rw [Function.update_apply, Function.update_apply]
  split
  · rfl
  · rfl

theorem phaseOf_waits {rest : Pending} {r : SyncRequest} (hOn : k.blockedOn t = some w)
    (hRest : pending t = some rest) (hRequest : rest.request k = some r) :
    (objectsOf k pending).phase t = .waits r := by
  have hBind : (pending t).bind (Pending.request k) = some r := by rw [hRest]; exact hRequest
  change phaseOf k t (pending t) = _
  rw [phaseOf, hBind, hOn]
  rfl

theorem phaseOf_left {rest : Pending} {r : SyncRequest} (hOn : k.blockedOn t = none)
    (hRest : pending t = some rest) (hRequest : rest.request k = some r) :
    (objectsOf k pending).phase t = if k.timedOut t then .late r else .served r := by
  have hBind : (pending t).bind (Pending.request k) = some r := by rw [hRest]; exact hRequest
  change phaseOf k t (pending t) = _
  rw [phaseOf, hBind, hOn]
  rfl

theorem phaseOf_outside (hRest : (pending t).bind (Pending.request k) = none) :
    (objectsOf k pending).phase t = .outside := by
  change phaseOf k t (pending t) = _
  rw [phaseOf, hRest]

theorem objectsOf_enqueueCurrent {p : SyncPlace}
    {rest : Pending} {r : SyncRequest} (n : U32) (reason : BlockReason) (h : Listed k)
    (hRequest : rest.request k = some r) :
    objectsOf (enqueueCurrent k (waitlistOf p) n reason)
        (Function.update pending k.currentTask (some rest)) =
      (objectsOf k pending).join k.currentTask r p := by
  have hSize : ∀ q, ((enqueueCurrent k (waitlistOf p) n reason).content q).itemSize =
      (k.content q).itemSize := fun q => by rw [content_enqueueCurrent]
  have hPhase : ∀ u, phaseOf (enqueueCurrent k (waitlistOf p) n reason) u
      (Function.update pending k.currentTask (some rest) u) =
        if u = k.currentTask then .waits r else phaseOf k u (pending u) := by
    intro u
    rw [Function.update_apply]
    split
    · have hBind : (some rest).bind (Pending.request k) = some r := hRequest
      rename_i hEq
      rw [phaseOf, request_congr hSize, hBind, blockedOn_enqueueCurrent, hEq, Function.update_self]
      rfl
    · rename_i hne
      apply phaseOf_congr hSize
      · rw [blockedOn_enqueueCurrent, Function.update_of_ne hne]
      · rw [Kernel.timedOut, userTasks_enqueueCurrent, if_neg hne, Kernel.timedOut]
  have hPolicy : (enqueueCurrent k (waitlistOf p) n reason).policy = k.policy := by
    funext w
    rw [Kernel.policy, waitlist_enqueueCurrent]
    split
    · subst w
      rfl
    · rfl
  have hOwner : (enqueueCurrent k (waitlistOf p) n reason).ownerOf = k.ownerOf :=
    SameOwning.enqueueCurrent.ownerOf
  simp only [objectsOf, hPhase, hOwner, hPolicy, tokens_enqueueCurrent, content_enqueueCurrent,
    waiters_enqueueCurrent h, update_waitlistOf, Synchronization.Objects.join,
    Synchronization.Objects.setWaiting, Synchronization.Objects.setPhase]
  congr 1
  funext u
  rw [Function.update_apply]

theorem ServedNext.next {before after : List TaskId} (h : ServedNext k w before t after) :
    Synchronization.Next k.eff before t after (k.policy w).discipline := by
  unfold ServedNext at h
  cases hPolicy : k.policy w <;> rw [hPolicy] at h <;> exact h

theorem Chosen.releases {p : SyncPlace} {j : Nat}
    {rest : Pending} {r : SyncRequest} (hChosen : Chosen k (waitlistOf p) j t) (h : Waiting k)
    (hUser : ∀ u ∈ k.waiters (waitlistOf p), k.eff u ≤ osPriorityLowest)
    (hRest : pending t = some rest) (hRequest : rest.request k = some r) :
    Synchronization.Releases k.eff (objectsOf k pending) p (some t)
      (objectsOf (releaseTask k (waitlistOf p) j t) pending) := by
  obtain ⟨hj, hAt⟩ := h.listed.chosen hChosen
  obtain ⟨before, u, after, hSplit, hNext, hSelect⟩ :=
    waitlistSelect_servedNext (h.listed _) (List.ne_nil_of_length_pos (by omega)) hUser
  obtain rfl : j = before.length := Option.some.inj (hChosen.select.symm.trans hSelect)
  have hThere : (k.waiters (waitlistOf p))[before.length]? = some u := by
    rw [hSplit]
    simp
  obtain rfl : t = u := by
    rw [List.getElem?_eq_getElem hj, hAt] at hThere
    exact Option.some.inj hThere
  rw [releaseTask_eq, objectsOf_leaveWaitlist h.listed hj hRest hRequest, hSplit,
    List.eraseIdx_append_of_length_le le_rfl, Nat.sub_self, List.eraseIdx_cons_zero]
  exact .next hSplit hNext.next (phaseOf_waits (hChosen.blockedOn h) hRest hRequest)

end Effects
end KoRTOS
