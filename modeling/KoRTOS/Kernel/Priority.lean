import KoRTOS.Kernel.Waitlist

/-!
# Priority inheritance

`mutex_donate_priority` and `mutex_recompute_owner_priority`. Both walk from an
owner to the owner of the mutex it is blocked on, for at most `OS_MAX_TASKS`
rounds; the fuel argument of the walks is the number of rounds left.
-/

namespace KoRTOS

/-- The mutex a `waitlist_t` is embedded in. The source only calls this for a task
whose `block_reason` is `BLOCKED_MUTEX`, so the other primitives never reach it. -/
def castWaitlistToMutex : Option WaitlistRef → Option MutexId
  | some (.mutex mtx) => some mtx
  | _ => none

def Kernel.setEffectivePriority (k : Kernel) (t : TaskId) (priority : Nat) : Kernel :=
  k.modifyTask t fun tcb => { tcb with effectivePriority := priority }

def nextOwner (k : Kernel) (t : TaskId) : Option TaskId :=
  match castWaitlistToMutex (k.userTasks t).blockedWaitlist with
  | some mtx => (k.mutexes mtx).owner
  | none => none

def donateLoop (priority : Nat) : Nat → Option TaskId → Kernel → Kernel
  | 0, _, k => k
  | _ + 1, none, k => k
  | n + 1, some owner, k =>
    let k :=
      if priority < (k.userTasks owner).effectivePriority then
        k.setEffectivePriority owner priority
      else k
    if (k.userTasks owner).blockReason ≠ .mutex then k
    else donateLoop priority n (nextOwner k owner) k

def mutexDonatePriority (k : Kernel) (mutexOwner : Option TaskId) : Kernel :=
  donateLoop k.current.effectivePriority osMaxTasks mutexOwner k

/-- One comparison of the scan with the `j`-th waiter. The source reads through the entry,
which is not `NULL` below `wait_count`. -/
def scanWaiter (k : Kernel) (wl : Waitlist) (highest : Nat) (j : Nat) : Nat :=
  match wl.taskWaitlist j with
  | some t =>
    if (k.userTasks t).effectivePriority < highest then (k.userTasks t).effectivePriority
    else highest
  | none => highest

/-- The inner loop, over the waiters of the `i`-th owned mutex. -/
def scanOwnedMutex (k : Kernel) (owner : TaskId) (highest : Nat) (i : Nat) : Nat :=
  match (k.userTasks owner).ownedMutexes i with
  | some mtx =>
    let wl := (k.mutexes mtx).waitlist
    (List.range wl.waitCount).foldl (scanWaiter k wl) highest
  | none => highest

/-- The `highest_priority` found among the base priority of `owner` and its waiters. -/
def scanOwner (k : Kernel) (owner : TaskId) : Nat :=
  (List.range (k.userTasks owner).ownedMutexCount).foldl (scanOwnedMutex k owner)
    (k.userTasks owner).basePriority

def recomputeLoop : Nat → Option TaskId → Kernel → Kernel
  | 0, _, k => k
  | _ + 1, none, k => k
  | n + 1, some owner, k =>
    let k := k.setEffectivePriority owner (scanOwner k owner)
    if (k.userTasks owner).blockReason ≠ .mutex then k
    else recomputeLoop n (nextOwner k owner) k

def mutexRecomputeOwnerPriority (k : Kernel) (mutexOwner : Option TaskId) : Kernel :=
  recomputeLoop osMaxTasks mutexOwner k

end KoRTOS
