import Mathlib.Algebra.Group.Nat.Defs
import Mathlib.Logic.Function.Basic

/-!
# Configuration and data types of the kernel

The constants of `kortos_config.h` and the types of `kortos.h`. Pointers to
objects the kernel owns or is handed are indices: a `TCB_t *` is an index into
`user_tasks`, a `mutex_t *` names a mutex, a `waitlist_t *` names the primitive
the waitlist is embedded in. `none` is `NULL`.
-/

namespace KoRTOS

abbrev U8 := BitVec 8
abbrev U32 := BitVec 32

abbrev TaskId := Nat
abbrev SemId := Nat
abbrev MutexId := Nat
abbrev QueueId := Nat

def osMaxTasks : Nat := 20
def osPriorityHighest : Nat := 0
def osPriorityLowest : Nat := 31
def osMaxMtxPerTask : Nat := 4
def osIdleStackWords : Nat := 64

/-- `(uint32_t)OS_WAIT_FOREVER`, the constant being the `int` -1. -/
def osWaitForever : U32 := 0xFFFFFFFF#32

def idleTaskIdx : TaskId := 0

inductive OsErr where
  | ok
  | outOfRange
  | maxTasks
  | nullPtr
  | unavailable
  | invalidSchedulePolicy
  | waitlistFull
  | semInvalidInitCount
  | mtxRecursiveLock
  | mtxNotOwner
  deriving DecidableEq, Repr

inductive TaskState where
  | ready
  | running
  | blocked
  deriving DecidableEq, Repr

inductive BlockReason where
  | none
  | delay
  | sem
  | mutex
  | queueSend
  | queueRecv
  deriving DecidableEq, Repr

inductive SchedulePolicy where
  | fifo
  | priority
  deriving DecidableEq, Repr

inductive MutexState where
  | unlocked
  | locked
  deriving DecidableEq, Repr

/-- A `waitlist_t *`: the primitive that embeds the waitlist. -/
inductive WaitlistRef where
  | sem (sem : SemId)
  | mutex (mtx : MutexId)
  | queueSend (queue : QueueId)
  | queueRecv (queue : QueueId)
  deriving DecidableEq, Repr

def WaitlistRef.blockReason : WaitlistRef → BlockReason
  | .sem _ => .sem
  | .mutex _ => .mutex
  | .queueSend _ => .queueSend
  | .queueRecv _ => .queueRecv

structure Waitlist where
  taskWaitlist : Nat → Option TaskId
  waitCount : Nat
  schedulePolicy : SchedulePolicy

/-- `count` is a `uint8_t`: it is kept below 256 by the increments themselves. -/
structure Semaphore where
  count : Nat
  waitlist : Waitlist

structure Mutex where
  owner : Option TaskId
  state : MutexState
  waitlist : Waitlist

/-- `buffer` is the memory at and above the application's buffer address, by byte offset. -/
structure Queue where
  buffer : Nat → U8
  itemSize : Nat
  maxItems : Nat
  count : Nat
  head : Nat
  tail : Nat
  sendWaitlist : Waitlist
  recvWaitlist : Waitlist
  droppedCount : Nat

structure Tcb where
  stackPointer : U32
  taskHandler : U32
  currentState : TaskState
  basePriority : Nat
  effectivePriority : Nat
  wakeupTick : U32
  blockReason : BlockReason
  blockedWaitlist : Option WaitlistRef
  ownedMutexes : Nat → Option MutexId
  ownedMutexCount : Nat
  timeout : Bool

end KoRTOS
