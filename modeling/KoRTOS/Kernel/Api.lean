import KoRTOS.Kernel.Priority

/-!
# The public API

Every `os_*` function is cut where the calling task is switched out. The part up
to that point is one critical section; what remains is a `Pending` value that
says where in its call the task stands, and `resumePending` runs the next piece
of it when the task is dispatched again. `mutex_recompute_owner_priority` runs
with interrupts enabled after `os_mutex_lock` wakes, so there each read and each
write of it is a piece of its own. `none` marks undefined behaviour of the source.
-/

namespace KoRTOS

/-- Where `os_mutex_lock` stands after `waitlist_block_current` has returned. -/
inductive LockStage where
  | woken
  | visit (owner : Option TaskId) (iterations : Nat)
  | scanned (owner : TaskId) (iterations : Nat) (highestPriority : Nat)
  | written (owner : TaskId) (iterations : Nat)
  | recomputed
  deriving DecidableEq, Repr

/-- The call a task is inside of, from the point where it was switched out. -/
inductive Pending where
  | taskDelay
  | semWait (sem : SemId)
  | mutexLock (mtx : MutexId) (blockResult : OsErr) (stage : LockStage)
  | queueSend (queue : QueueId) (item : Nat → U8) (timeout deadlineTick : U32)
  | queueRecv (queue : QueueId) (timeout deadlineTick : U32)

/-- How a piece of a call ends: it returns, with the bytes a receive copied out, or goes on. -/
inductive Flow where
  | returned (err : OsErr) (data : List U8)
  | suspended (rest : Pending)

def Flow.ret (err : OsErr) : Flow := .returned err []

def osTaskDelay (k : Kernel) (tickCount : U32) : Kernel × Flow :=
  if k.currentTask ≠ idleTaskIdx then
    let k := k.modifyTask k.currentTask fun tcb =>
      { tcb with
        wakeupTick := wakeupTickOf k.systickCount tickCount
        blockReason := .delay
        currentState := .blocked }
    (k.portYield, .suspended .taskDelay)
  else (k, .ret .ok)

def osSemCreate (k : Kernel) (sem : Option SemId) (initialCount : Nat)
    (schedulePolicy : Option SchedulePolicy) : Kernel × OsErr :=
  match sem with
  | none => (k, .nullPtr)
  | some i =>
    if osMaxTasks < initialCount then (k, .semInvalidInitCount)
    else match schedulePolicy with
      | none => (k, .invalidSchedulePolicy)
      | some policy =>
        (k.setSemaphore i { count := initialCount, waitlist := waitlistInit policy }, .ok)

def osSemWait (k : Kernel) (sem : Option SemId) (timeout : U32) : Kernel × Flow :=
  match sem with
  | none => (k, .ret .nullPtr)
  | some i =>
    if 0 < (k.semaphores i).count then
      (k.setSemaphore i { k.semaphores i with count := (k.semaphores i).count - 1 }, .ret .ok)
    else if timeout = 0 then (k, .ret .unavailable)
    else match waitlistBlockCurrent k (.sem i) timeout .sem with
      | (k, .ok) => (k, .suspended (.semWait i))
      | (k, blockResult) => (k, .ret blockResult)

/-- `count` is a `uint8_t`. -/
def osSemPost (k : Kernel) (sem : Option SemId) : Option (Kernel × Flow) :=
  match sem with
  | none => some (k, .ret .nullPtr)
  | some i => do
    match ← waitlistUnblock k (.sem i) with
    | (k, some _) => some (k.portYield, .ret .ok)
    | (k, none) =>
      some (k.setSemaphore i
        { k.semaphores i with count := ((k.semaphores i).count + 1) % 2 ^ 8 }, .ret .ok)

def osMutexCreate (k : Kernel) (mtx : Option MutexId) : Kernel × OsErr :=
  match mtx with
  | none => (k, .nullPtr)
  | some i =>
    (k.setMutex i { owner := none, state := .unlocked, waitlist := waitlistInit .priority }, .ok)

/-- The array has no end here. In the source it has `OS_MAX_MTX_PER_TASK` entries, and
`owned_mutex_count` and `timeout` come after it. -/
def pushOwnedMutex (mtx : MutexId) (tcb : Tcb) : Tcb :=
  { tcb with
    ownedMutexes := Function.update tcb.ownedMutexes tcb.ownedMutexCount (some mtx)
    ownedMutexCount := tcb.ownedMutexCount + 1 }

/-- Swaps the last entry into the place of the first entry that is `mtx`. -/
def removeOwnedMutex (mtx : MutexId) (tcb : Tcb) : Tcb :=
  match (List.range tcb.ownedMutexCount).find? (fun i => tcb.ownedMutexes i == some mtx) with
  | some i =>
    { tcb with
      ownedMutexes := Function.update tcb.ownedMutexes i
        (tcb.ownedMutexes (tcb.ownedMutexCount - 1))
      ownedMutexCount := tcb.ownedMutexCount - 1 }
  | none => tcb

def Kernel.setOwner (k : Kernel) (i : MutexId) (owner : Option TaskId) (state : MutexState) :
    Kernel :=
  k.setMutex i { k.mutexes i with owner := owner, state := state }

def osMutexLock (k : Kernel) (mtx : Option MutexId) (timeout : U32) : Kernel × Flow :=
  match mtx with
  | none => (k, .ret .nullPtr)
  | some i =>
    if (k.mutexes i).state = .unlocked then
      let k := k.modifyTask k.currentTask (pushOwnedMutex i)
      (k.setOwner i (some k.currentTask) .locked, .ret .ok)
    else if (k.mutexes i).owner = some k.currentTask then (k, .ret .mtxRecursiveLock)
    else if timeout = 0 then (k, .ret .unavailable)
    else
      let k := mutexDonatePriority k (k.mutexes i).owner
      let (k, blockResult) := waitlistBlockCurrent k (.mutex i) timeout .mutex
      (k, .suspended (.mutexLock i blockResult .woken))

def osMutexUnlock (k : Kernel) (mtx : Option MutexId) : Option (Kernel × Flow) :=
  match mtx with
  | none => some (k, .ret .nullPtr)
  | some i =>
    if (k.mutexes i).owner ≠ some k.currentTask then some (k, .ret .mtxNotOwner)
    else do
      let k := k.modifyTask k.currentTask (removeOwnedMutex i)
      match ← waitlistUnblock k (.mutex i) with
      | (k, some nextOwner) =>
        let k := mutexRecomputeOwnerPriority k (k.mutexes i).owner
        let k := k.modifyTask nextOwner (pushOwnedMutex i)
        let k := k.setOwner i (some nextOwner) (k.mutexes i).state
        let k := mutexRecomputeOwnerPriority k (k.mutexes i).owner
        some (k.portYield, .ret .ok)
      | (k, none) => some (k.setOwner i none .unlocked, .ret .ok)

def osQueueCreate (k : Kernel) (queue : Option QueueId) (buffer : Option (Nat → U8))
    (itemSize maxItems : U32) (schedulePolicy : Option SchedulePolicy) : Kernel × OsErr :=
  match queue, buffer with
  | some i, some buffer =>
    if itemSize = 0 ∨ maxItems = 0 then (k, .outOfRange)
    else match schedulePolicy with
      | none => (k, .invalidSchedulePolicy)
      | some policy =>
        (k.setQueue i
          { buffer := buffer
            itemSize := itemSize.toNat
            maxItems := maxItems.toNat
            count := 0
            head := 0
            tail := 0
            sendWaitlist := waitlistInit policy
            recvWaitlist := waitlistInit policy
            droppedCount := 0 }, .ok)
  | _, _ => (k, .nullPtr)

/-- `memcpy(buffer + offset, item, size)`. -/
def copyIn (buffer : Nat → U8) (offset size : Nat) (item : Nat → U8) : Nat → U8 := fun a =>
  if offset ≤ a ∧ a < offset + size then item (a - offset) else buffer a

/-- `memcpy(item, buffer + offset, size)`: the bytes that reach the item. -/
def copyOut (buffer : Nat → U8) (offset size : Nat) : List U8 :=
  (List.range size).map fun j => buffer (offset + j)

/-- The byte offset of a slot, a `uint32_t` product. -/
def slotOffset (queue : Queue) (index : Nat) : Nat := index * queue.itemSize % 2 ^ 32

def Queue.pushItem (queue : Queue) (item : Nat → U8) : Queue :=
  { queue with
    buffer := copyIn queue.buffer (slotOffset queue queue.head) queue.itemSize item
    count := (queue.count + 1) % 2 ^ 32
    head := (queue.head + 1) % 2 ^ 32 % queue.maxItems }

def Queue.frontItem (queue : Queue) : List U8 :=
  copyOut queue.buffer (slotOffset queue queue.tail) queue.itemSize

def Queue.popItem (queue : Queue) : Queue :=
  { queue with
    count := queue.count - 1
    tail := (queue.tail + 1) % 2 ^ 32 % queue.maxItems }

def deadlineTickOf (systickCount timeout : U32) : U32 :=
  if timeout = osWaitForever then 0 else systickCount + timeout

/-- What a full (empty) queue does to the sender (receiver) in one round of the loop:
give up, or block for the time that remains until the deadline. -/
def queueBlock (k : Kernel) (w : WaitlistRef) (timeout deadlineTick : U32) (rest : Pending) :
    Kernel × Flow :=
  if timeout = 0 then (k, .ret .unavailable)
  else if deadlineTick ≠ 0 ∧ 0 ≤ (k.systickCount - deadlineTick).toInt then
    (k, .ret .unavailable)
  else
    let remainingTimeout :=
      if deadlineTick ≠ 0 then deadlineTick - k.systickCount else osWaitForever
    match waitlistBlockCurrent k w remainingTimeout w.blockReason with
    | (k, .ok) => (k, .suspended rest)
    | (k, blockResult) => (k, .ret blockResult)

/-- `waitlist_unblock` of the other side, and the yield if it released a task. -/
def queueWake (k : Kernel) (w : WaitlistRef) : Option Kernel := do
  match ← waitlistUnblock k w with
  | (k, some _) => some k.portYield
  | (k, none) => some k

/-- One round of the loop of `os_queue_send_from_task`: a critical section from the test
of the loop to the block or to the end of the call. -/
def queueSendRound (k : Kernel) (i : QueueId) (item : Nat → U8) (timeout deadlineTick : U32) :
    Option (Kernel × Flow) :=
  if (k.queues i).maxItems ≤ (k.queues i).count then
    some (queueBlock k (.queueSend i) timeout deadlineTick
      (.queueSend i item timeout deadlineTick))
  else do
    let k ← queueWake (k.setQueue i ((k.queues i).pushItem item)) (.queueRecv i)
    some (k, .ret .ok)

def osQueueSendFromTask (k : Kernel) (queue : Option QueueId) (item : Option (Nat → U8))
    (timeout : U32) : Option (Kernel × Flow) :=
  match queue, item with
  | some i, some item =>
    queueSendRound k i item timeout (deadlineTickOf k.systickCount timeout)
  | _, _ => some (k, .ret .nullPtr)

def queueRecvRound (k : Kernel) (i : QueueId) (timeout deadlineTick : U32) :
    Option (Kernel × Flow) :=
  if (k.queues i).count = 0 then
    some (queueBlock k (.queueRecv i) timeout deadlineTick (.queueRecv i timeout deadlineTick))
  else do
    let data := (k.queues i).frontItem
    let k ← queueWake (k.setQueue i (k.queues i).popItem) (.queueSend i)
    some (k, .returned .ok data)

/-- `itemNull` says that the pointer to receive into is `NULL`. -/
def osQueueRecvFromTask (k : Kernel) (queue : Option QueueId) (itemNull : Bool)
    (timeout : U32) : Option (Kernel × Flow) :=
  match queue, itemNull with
  | some i, false => queueRecvRound k i timeout (deadlineTickOf k.systickCount timeout)
  | _, _ => some (k, .ret .nullPtr)

/-- `dropped_count++` comes after the critical section of the call: handlers that send do not
preempt one another here. -/
def countDropped (k : Kernel) (queue : Option QueueId) : Kernel :=
  match queue with
  | some i =>
    k.setQueue i
      { k.queues i with droppedCount := ((k.queues i).droppedCount + 1) % 2 ^ 32 }
  | none => k

def osQueueSendFromIsr (k : Kernel) (queue : Option QueueId) (item : Option (Nat → U8)) :
    Option (Kernel × Flow) := do
  match ← osQueueSendFromTask k queue item 0 with
  | (k, .returned .unavailable data) => some (countDropped k queue, .returned .unavailable data)
  | result => some result

def osQueueRecvFromIsr (k : Kernel) (queue : Option QueueId) (itemNull : Bool) :
    Option (Kernel × Flow) :=
  osQueueRecvFromTask k queue itemNull 0

/-- The next piece of `os_mutex_lock` after the task was switched out. The scan of one owner
is one piece. -/
def resumeMutexLock (k : Kernel) (i : MutexId) (blockResult : OsErr) :
    LockStage → Kernel × Flow
  | .woken => (k, .suspended (.mutexLock i blockResult (.visit (k.mutexes i).owner 0)))
  | .visit none _ => (k, .suspended (.mutexLock i blockResult .recomputed))
  | .visit (some owner) iterations =>
    if iterations < osMaxTasks then
      (k, .suspended (.mutexLock i blockResult (.scanned owner iterations (scanOwner k owner))))
    else (k, .suspended (.mutexLock i blockResult .recomputed))
  | .scanned owner iterations highestPriority =>
    (k.setEffectivePriority owner highestPriority,
      .suspended (.mutexLock i blockResult (.written owner iterations)))
  | .written owner iterations =>
    if (k.userTasks owner).blockReason ≠ .mutex then
      (k, .suspended (.mutexLock i blockResult .recomputed))
    else
      (k, .suspended (.mutexLock i blockResult (.visit (nextOwner k owner) (iterations + 1))))
  | .recomputed =>
    if blockResult ≠ .ok then (k, .ret blockResult)
    else if k.current.timeout then (k, .ret .unavailable)
    else (k, .ret .ok)

def resumePending (k : Kernel) : Pending → Option (Kernel × Flow)
  | .taskDelay => some (k, .ret .ok)
  | .semWait _ => some (k, if k.current.timeout then .ret .unavailable else .ret .ok)
  | .mutexLock i blockResult stage => some (resumeMutexLock k i blockResult stage)
  | .queueSend i item timeout deadlineTick =>
    if k.current.timeout then some (k, .ret .unavailable)
    else queueSendRound k i item timeout deadlineTick
  | .queueRecv i timeout deadlineTick =>
    if k.current.timeout then some (k, .ret .unavailable)
    else queueRecvRound k i timeout deadlineTick

end KoRTOS
