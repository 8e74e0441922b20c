import KoRTOS.Invariant.WaitlistArray

/-!
# What each update leaves alone

Views of the kernel that the invariants speak about, and what every primitive
update does to each of them. The waitlists, the owners and the task table are
independent of one another although a waitlist is stored inside its object.
-/

namespace KoRTOS

namespace Kernel

/-- The tasks waiting in a waitlist, in insertion order. -/
def waiters (k : Kernel) (w : WaitlistRef) : List TaskId := (k.waitlist w).tasks

def blockedOn (k : Kernel) (t : TaskId) : Option WaitlistRef := (k.userTasks t).blockedWaitlist

def ownerOf (k : Kernel) (i : MutexId) : Option TaskId := (k.mutexes i).owner

def base (k : Kernel) (t : TaskId) : Nat := (k.userTasks t).basePriority

def eff (k : Kernel) (t : TaskId) : Nat := (k.userTasks t).effectivePriority

/-- The first `owned_mutex_count` entries of `owned_mutexes`. -/
def owned (k : Kernel) (t : TaskId) : List MutexId :=
  (List.range (k.userTasks t).ownedMutexCount).filterMap (k.userTasks t).ownedMutexes

def tokens (k : Kernel) (i : SemId) : Nat := (k.semaphores i).count

def policy (k : Kernel) (w : WaitlistRef) : SchedulePolicy := (k.waitlist w).schedulePolicy

/-- A queue without its waitlists and its count of dropped items. -/
def content (k : Kernel) (q : QueueId) : Queue :=
  { k.queues q with
    sendWaitlist := waitlistInit .fifo
    recvWaitlist := waitlistInit .fifo
    droppedCount := 0 }

variable {k k' : Kernel} {t u : TaskId} {f : Tcb → Tcb} {w w' : WaitlistRef} {wl : Waitlist}
  {i j : Nat}

@[simp] theorem userTasks_modifyTask :
    (k.modifyTask t f).userTasks u = if u = t then f (k.userTasks t) else k.userTasks u := by
  simp [modifyTask, Function.update_apply]

@[simp] theorem taskCount_modifyTask : (k.modifyTask t f).taskCount = k.taskCount := rfl
@[simp] theorem currentTask_modifyTask : (k.modifyTask t f).currentTask = k.currentTask := rfl
@[simp] theorem systickCount_modifyTask : (k.modifyTask t f).systickCount = k.systickCount := rfl
@[simp] theorem pendSV_modifyTask : (k.modifyTask t f).pendSV = k.pendSV := rfl
@[simp] theorem mutexes_modifyTask : (k.modifyTask t f).mutexes = k.mutexes := rfl
@[simp] theorem semaphores_modifyTask : (k.modifyTask t f).semaphores = k.semaphores := rfl
@[simp] theorem queues_modifyTask : (k.modifyTask t f).queues = k.queues := rfl

@[simp] theorem waitlist_modifyTask : (k.modifyTask t f).waitlist = k.waitlist := by
  funext w
  cases w <;> rfl

@[simp] theorem userTasks_setWaitlist : (k.setWaitlist w wl).userTasks = k.userTasks := by
  cases w <;> rfl

@[simp] theorem taskCount_setWaitlist : (k.setWaitlist w wl).taskCount = k.taskCount := by
  cases w <;> rfl

@[simp] theorem currentTask_setWaitlist : (k.setWaitlist w wl).currentTask = k.currentTask := by
  cases w <;> rfl

@[simp] theorem systickCount_setWaitlist :
    (k.setWaitlist w wl).systickCount = k.systickCount := by
  cases w <;> rfl

@[simp] theorem pendSV_setWaitlist : (k.setWaitlist w wl).pendSV = k.pendSV := by
  cases w <;> rfl

@[simp] theorem owner_setWaitlist :
    ((k.setWaitlist w wl).mutexes i).owner = (k.mutexes i).owner := by
  cases w <;> simp [setWaitlist, setSemaphore, setMutex, setQueue, Function.update_apply]
  split <;> simp [*]

@[simp] theorem mutexState_setWaitlist :
    ((k.setWaitlist w wl).mutexes i).state = (k.mutexes i).state := by
  cases w <;> simp [setWaitlist, setSemaphore, setMutex, setQueue, Function.update_apply]
  split <;> simp [*]

@[simp] theorem tokens_setWaitlist : (k.setWaitlist w wl).tokens = k.tokens := by
  funext i
  cases w <;> simp [tokens, setWaitlist, setSemaphore, setMutex, setQueue, Function.update_apply]
  split <;> simp [*]

@[simp] theorem content_setWaitlist : (k.setWaitlist w wl).content = k.content := by
  funext q
  cases w <;> simp [content, setWaitlist, setSemaphore, setMutex, setQueue, Function.update_apply]
  all_goals split <;> simp [*]

@[simp] theorem waitlist_setWaitlist :
    (k.setWaitlist w wl).waitlist w' = if w' = w then wl else k.waitlist w' := by
  cases w <;> cases w' <;>
    simp [setWaitlist, setSemaphore, setMutex, setQueue, waitlist, Function.update_apply] <;>
    split <;> simp_all

@[simp] theorem userTasks_setOwner {owner : Option TaskId} {state : MutexState} :
    (k.setOwner i owner state).userTasks = k.userTasks := rfl
@[simp] theorem taskCount_setOwner {owner : Option TaskId} {state : MutexState} :
    (k.setOwner i owner state).taskCount = k.taskCount := rfl
@[simp] theorem currentTask_setOwner {owner : Option TaskId} {state : MutexState} :
    (k.setOwner i owner state).currentTask = k.currentTask := rfl
@[simp] theorem systickCount_setOwner {owner : Option TaskId} {state : MutexState} :
    (k.setOwner i owner state).systickCount = k.systickCount := rfl

@[simp] theorem pendSV_setOwner {owner : Option TaskId} {state : MutexState} :
    (k.setOwner i owner state).pendSV = k.pendSV := rfl

@[simp] theorem owner_setOwner {owner : Option TaskId} {state : MutexState} :
    ((k.setOwner i owner state).mutexes j).owner =
      if j = i then owner else (k.mutexes j).owner := by
  simp only [setOwner, setMutex, Function.update_apply]
  split <;> rfl

@[simp] theorem mutexState_setOwner {owner : Option TaskId} {state : MutexState} :
    ((k.setOwner i owner state).mutexes j).state =
      if j = i then state else (k.mutexes j).state := by
  simp only [setOwner, setMutex, Function.update_apply]
  split <;> rfl

@[simp] theorem waitlist_setOwner {owner : Option TaskId} {state : MutexState} :
    (k.setOwner i owner state).waitlist = k.waitlist := by
  funext w
  cases w <;> simp [setOwner, setMutex, waitlist, Function.update_apply]
  split <;> simp [*]

@[simp] theorem tokens_modifyTask : (k.modifyTask t f).tokens = k.tokens := rfl
@[simp] theorem content_modifyTask : (k.modifyTask t f).content = k.content := rfl
@[simp] theorem tokens_portYield : k.portYield.tokens = k.tokens := rfl
@[simp] theorem content_portYield : k.portYield.content = k.content := rfl
@[simp] theorem userTasks_portYield : k.portYield.userTasks = k.userTasks := rfl
@[simp] theorem taskCount_portYield : k.portYield.taskCount = k.taskCount := rfl
@[simp] theorem currentTask_portYield : k.portYield.currentTask = k.currentTask := rfl
@[simp] theorem systickCount_portYield : k.portYield.systickCount = k.systickCount := rfl
@[simp] theorem pendSV_portYield : k.portYield.pendSV = true := rfl
@[simp] theorem mutexes_portYield : k.portYield.mutexes = k.mutexes := rfl
@[simp] theorem semaphores_portYield : k.portYield.semaphores = k.semaphores := rfl
@[simp] theorem queues_portYield : k.portYield.queues = k.queues := rfl

@[simp] theorem waitlist_portYield : k.portYield.waitlist = k.waitlist := by
  funext w
  cases w <;> rfl

end Kernel

/-- A task control block without its effective priority. -/
def Tcb.unranked (tcb : Tcb) : Tcb := { tcb with effectivePriority := 0 }

/-- The kernels agree on who is blocked where, who owns what and who runs, but perhaps not
on effective priorities, on counts and contents, and on what is pending. -/
structure SameShape (k k' : Kernel) : Prop where
  taskCount : k'.taskCount = k.taskCount
  currentTask : k'.currentTask = k.currentTask
  tasks : ∀ t, (k'.userTasks t).unranked = (k.userTasks t).unranked
  waitlist : k'.waitlist = k.waitlist
  owner : ∀ i, (k'.mutexes i).owner = (k.mutexes i).owner
  state : ∀ i, (k'.mutexes i).state = (k.mutexes i).state

namespace SameShape

variable {k k' k'' : Kernel} {t : TaskId}

theorem refl (k : Kernel) : SameShape k k := ⟨rfl, rfl, fun _ => rfl, rfl, fun _ => rfl, fun _ => rfl⟩

theorem trans (h : SameShape k k') (h' : SameShape k' k'') : SameShape k k'' where
  taskCount := h'.taskCount.trans h.taskCount
  currentTask := h'.currentTask.trans h.currentTask
  tasks t := (h'.tasks t).trans (h.tasks t)
  waitlist := h'.waitlist.trans h.waitlist
  owner i := (h'.owner i).trans (h.owner i)
  state i := (h'.state i).trans (h.state i)

theorem currentState (h : SameShape k k') :
    (k'.userTasks t).currentState = (k.userTasks t).currentState :=
  (congrArg Tcb.currentState (h.tasks t) :)

theorem blockReason (h : SameShape k k') :
    (k'.userTasks t).blockReason = (k.userTasks t).blockReason :=
  (congrArg Tcb.blockReason (h.tasks t) :)

theorem timeout (h : SameShape k k') : (k'.userTasks t).timeout = (k.userTasks t).timeout :=
  (congrArg Tcb.timeout (h.tasks t) :)

theorem wakeupTick (h : SameShape k k') :
    (k'.userTasks t).wakeupTick = (k.userTasks t).wakeupTick :=
  (congrArg Tcb.wakeupTick (h.tasks t) :)

theorem ownedMutexes (h : SameShape k k') :
    (k'.userTasks t).ownedMutexes = (k.userTasks t).ownedMutexes :=
  (congrArg Tcb.ownedMutexes (h.tasks t) :)

theorem ownedMutexCount (h : SameShape k k') :
    (k'.userTasks t).ownedMutexCount = (k.userTasks t).ownedMutexCount :=
  (congrArg Tcb.ownedMutexCount (h.tasks t) :)

theorem blockedOn (h : SameShape k k') : k'.blockedOn = k.blockedOn := by
  funext t
  exact (congrArg Tcb.blockedWaitlist (h.tasks t) :)

theorem base (h : SameShape k k') : k'.base = k.base := by
  funext t
  exact (congrArg Tcb.basePriority (h.tasks t) :)

theorem waiters (h : SameShape k k') : k'.waiters = k.waiters := by
  funext w
  rw [Kernel.waiters, h.waitlist, Kernel.waiters]

theorem ownerOf (h : SameShape k k') : k'.ownerOf = k.ownerOf := funext h.owner

theorem portYield (k : Kernel) : SameShape k k.portYield where
  taskCount := rfl
  currentTask := rfl
  tasks _ := rfl
  waitlist := Kernel.waitlist_portYield
  owner _ := rfl
  state _ := rfl

end SameShape

/-- Only effective priorities may differ. -/
structure Reranked (k k' : Kernel) : Prop extends SameShape k k' where
  systickCount : k'.systickCount = k.systickCount
  semaphores : k'.semaphores = k.semaphores
  mutexes : k'.mutexes = k.mutexes
  queues : k'.queues = k.queues
  pendSV : k'.pendSV = k.pendSV

namespace Reranked

variable {k k' k'' : Kernel}

theorem refl (k : Kernel) : Reranked k k := ⟨.refl k, rfl, rfl, rfl, rfl, rfl⟩

theorem trans (h : Reranked k k') (h' : Reranked k' k'') : Reranked k k'' where
  toSameShape := h.toSameShape.trans h'.toSameShape
  systickCount := h'.systickCount.trans h.systickCount
  semaphores := h'.semaphores.trans h.semaphores
  mutexes := h'.mutexes.trans h.mutexes
  queues := h'.queues.trans h.queues
  pendSV := h'.pendSV.trans h.pendSV

theorem setEffectivePriority (k : Kernel) (t : TaskId) (p : Nat) :
    Reranked k (k.setEffectivePriority t p) where
  taskCount := rfl
  currentTask := rfl
  tasks u := by
    simp only [Kernel.setEffectivePriority, Kernel.userTasks_modifyTask]
    split
    · subst u
      rfl
    · rfl
  waitlist := Kernel.waitlist_modifyTask
  owner _ := rfl
  state _ := rfl
  systickCount := rfl
  semaphores := rfl
  mutexes := rfl
  queues := rfl
  pendSV := rfl

theorem donateLoop (p n : Nat) (o : Option TaskId) (k : Kernel) :
    Reranked k (donateLoop p n o k) := by
  induction n generalizing o k with
  | zero => exact refl k
  | succ n ih =>
    cases o with
    | none => exact refl k
    | some owner =>
      have hFirst : Reranked k (if p < (k.userTasks owner).effectivePriority then
          k.setEffectivePriority owner p else k) := by
        split
        · exact setEffectivePriority k owner p
        · exact refl k
      rw [KoRTOS.donateLoop]
      generalize (if p < (k.userTasks owner).effectivePriority then
        k.setEffectivePriority owner p else k) = k₁ at hFirst ⊢
      split
      · exact hFirst
      · exact hFirst.trans (ih _ _)

theorem mutexDonatePriority (k : Kernel) (o : Option TaskId) :
    Reranked k (mutexDonatePriority k o) := donateLoop _ _ _ _

theorem recomputeLoop (n : Nat) (o : Option TaskId) (k : Kernel) :
    Reranked k (recomputeLoop n o k) := by
  induction n generalizing o k with
  | zero => exact refl k
  | succ n ih =>
    cases o with
    | none => exact refl k
    | some owner =>
      have hFirst := setEffectivePriority k owner (scanOwner k owner)
      rw [KoRTOS.recomputeLoop]
      split
      · exact hFirst
      · exact hFirst.trans (ih _ _)

theorem mutexRecomputeOwnerPriority (k : Kernel) (o : Option TaskId) :
    Reranked k (mutexRecomputeOwnerPriority k o) := recomputeLoop _ _ _

end Reranked

/-- The kernels agree on who is blocked where, and until when. -/
structure SameBlocking (k k' : Kernel) : Prop where
  taskCount : k'.taskCount = k.taskCount
  currentState : ∀ t, (k'.userTasks t).currentState = (k.userTasks t).currentState
  blockReason : ∀ t, (k'.userTasks t).blockReason = (k.userTasks t).blockReason
  wakeupTick : ∀ t, (k'.userTasks t).wakeupTick = (k.userTasks t).wakeupTick
  timeout : ∀ t, (k'.userTasks t).timeout = (k.userTasks t).timeout
  blockedOn : k'.blockedOn = k.blockedOn
  waitlist : k'.waitlist = k.waitlist

theorem SameShape.sameBlocking {k k' : Kernel} (h : SameShape k k') : SameBlocking k k' where
  taskCount := h.taskCount
  currentState _ := h.currentState
  blockReason _ := h.blockReason
  wakeupTick _ := h.wakeupTick
  timeout _ := h.timeout
  blockedOn := h.blockedOn
  waitlist := h.waitlist

namespace SameBlocking

variable {k k' k'' : Kernel} {t : TaskId} {f : Tcb → Tcb} {i : MutexId}

theorem of_userTasks (hCount : k'.taskCount = k.taskCount) (hTasks : k'.userTasks = k.userTasks)
    (hWaitlist : k'.waitlist = k.waitlist) : SameBlocking k k' where
  taskCount := hCount
  currentState t := by rw [hTasks]
  blockReason t := by rw [hTasks]
  wakeupTick t := by rw [hTasks]
  timeout t := by rw [hTasks]
  blockedOn := by
    funext t
    rw [Kernel.blockedOn, hTasks, Kernel.blockedOn]
  waitlist := hWaitlist

theorem trans (h : SameBlocking k k') (h' : SameBlocking k' k'') : SameBlocking k k'' where
  taskCount := h'.taskCount.trans h.taskCount
  currentState t := (h'.currentState t).trans (h.currentState t)
  blockReason t := (h'.blockReason t).trans (h.blockReason t)
  wakeupTick t := (h'.wakeupTick t).trans (h.wakeupTick t)
  timeout t := (h'.timeout t).trans (h.timeout t)
  blockedOn := h'.blockedOn.trans h.blockedOn
  waitlist := h'.waitlist.trans h.waitlist

theorem waiters (h : SameBlocking k k') : k'.waiters = k.waiters := by
  funext w
  rw [Kernel.waiters, h.waitlist, Kernel.waiters]

theorem modifyTask
    (hf : f (k.userTasks t) = { k.userTasks t with
      ownedMutexes := (f (k.userTasks t)).ownedMutexes
      ownedMutexCount := (f (k.userTasks t)).ownedMutexCount }) :
    SameBlocking k (k.modifyTask t f) := by
  have hTask : ∀ u, (k.modifyTask t f).userTasks u = { k.userTasks u with
      ownedMutexes := ((k.modifyTask t f).userTasks u).ownedMutexes
      ownedMutexCount := ((k.modifyTask t f).userTasks u).ownedMutexCount } := by
    intro u
    rw [Kernel.userTasks_modifyTask]
    split
    · subst u
      exact hf
    · rfl
  exact {
    taskCount := rfl
    currentState := fun u => by rw [hTask]
    blockReason := fun u => by rw [hTask]
    wakeupTick := fun u => by rw [hTask]
    timeout := fun u => by rw [hTask]
    blockedOn := funext fun u => by rw [Kernel.blockedOn, hTask, Kernel.blockedOn]
    waitlist := Kernel.waitlist_modifyTask }

theorem setOwner (owner : Option TaskId) (state : MutexState) :
    SameBlocking k (k.setOwner i owner state) :=
  of_userTasks rfl rfl Kernel.waitlist_setOwner

theorem pushOwnedMutex : SameBlocking k (k.modifyTask t (pushOwnedMutex i)) :=
  modifyTask rfl

theorem removeOwnedMutex : SameBlocking k (k.modifyTask t (removeOwnedMutex i)) := by
  apply modifyTask
  unfold KoRTOS.removeOwnedMutex
  split <;> rfl

end SameBlocking

/-- The kernels agree on everything the scheduler and the mutexes look at. -/
structure Quiet (k k' : Kernel) : Prop extends SameShape k k' where
  userTasks : k'.userTasks = k.userTasks
  systickCount : k'.systickCount = k.systickCount
  pendSV : k'.pendSV = k.pendSV

namespace Quiet

variable {k : Kernel} {i : Nat}

theorem refl (k : Kernel) : Quiet k k := ⟨.refl k, rfl, rfl, rfl⟩

theorem setSemaphore {sem : Semaphore} (h : sem.waitlist = (k.semaphores i).waitlist) :
    Quiet k (k.setSemaphore i sem) where
  taskCount := rfl
  currentTask := rfl
  tasks _ := rfl
  waitlist := by
    funext w
    cases w <;> simp [Kernel.setSemaphore, Kernel.waitlist, Function.update_apply]
    split <;> simp [*]
  owner _ := rfl
  state _ := rfl
  userTasks := rfl
  systickCount := rfl
  pendSV := rfl

theorem setQueue {queue : Queue} (hSend : queue.sendWaitlist = (k.queues i).sendWaitlist)
    (hRecv : queue.recvWaitlist = (k.queues i).recvWaitlist) : Quiet k (k.setQueue i queue) where
  taskCount := rfl
  currentTask := rfl
  tasks _ := rfl
  waitlist := by
    funext w
    cases w <;> simp [Kernel.setQueue, Kernel.waitlist, Function.update_apply] <;>
      split <;> simp [*]
  owner _ := rfl
  state _ := rfl
  userTasks := rfl
  systickCount := rfl
  pendSV := rfl

end Quiet
end KoRTOS
