import KoRTOS.Kernel.Scheduler
import KoRTOS.Library.Transition

/-!
# The system

The kernel together with the point each task has reached in its code, and what
can happen next: the running task enters an API function or goes on in the one
it is inside of, an interrupt handler uses a queue, SysTick fires, PendSV
switches tasks. Each of these is a critical section, or a piece of code that
touches nothing other tasks or handlers write, or a step of the recomputation in
`os_mutex_lock`, which runs with interrupts enabled. Such a step (the scan of one
owner's waiters, the write, the way to the next owner) is taken as a whole.
Thread code only runs while PendSV is not pending, since PendSV is taken as soon
as interrupts are enabled.
-/

namespace KoRTOS

inductive CreateCall where
  | task (taskHandler : U32) (priority : Nat) (taskStackBase : Option U32) (taskStackSize : U32)
  | sem (sem : Option SemId) (initialCount : Nat) (schedulePolicy : Option SchedulePolicy)
  | mutex (mtx : Option MutexId)
  | queue (queue : Option QueueId) (buffer : Option (Nat → U8)) (itemSize maxItems : U32)
      (schedulePolicy : Option SchedulePolicy)

inductive ApiCall where
  | create (call : CreateCall)
  | taskDelay (tickCount : U32)
  | semWait (sem : Option SemId) (timeout : U32)
  | semPost (sem : Option SemId)
  | mutexLock (mtx : Option MutexId) (timeout : U32)
  | mutexUnlock (mtx : Option MutexId)
  | queueSend (queue : Option QueueId) (item : Option (Nat → U8)) (timeout : U32)
  | queueRecv (queue : Option QueueId) (itemNull : Bool) (timeout : U32)

inductive Event where
  | call (call : ApiCall)
  | resume
  | isrSend (queue : Option QueueId) (item : Option (Nat → U8))
  | isrRecv (queue : Option QueueId) (itemNull : Bool)
  | tick
  | pendSV

structure Ret where
  err : OsErr
  data : List U8
  deriving DecidableEq, Repr

/-- The objects that have been created: each is created once and not used before. -/
structure Objects where
  sem : SemId → Bool
  mutex : MutexId → Bool
  queue : QueueId → Bool

structure Sys where
  kernel : Kernel
  pending : TaskId → Option Pending
  created : Objects

namespace Objects

def none : Objects := ⟨fun _ => false, fun _ => false, fun _ => false⟩

def has (o : Objects) : WaitlistRef → Bool
  | .sem i => o.sem i
  | .mutex i => o.mutex i
  | .queueSend i => o.queue i
  | .queueRecv i => o.queue i

def hasOptional (created : Nat → Bool) : Option Nat → Bool
  | some i => created i
  | .none => true

/-- The objects a call names exist. -/
def allows (o : Objects) : ApiCall → Bool
  | .create _ => true
  | .taskDelay _ => true
  | .semWait sem _ => hasOptional o.sem sem
  | .semPost sem => hasOptional o.sem sem
  | .mutexLock mtx _ => hasOptional o.mutex mtx
  | .mutexUnlock mtx => hasOptional o.mutex mtx
  | .queueSend queue _ _ => hasOptional o.queue queue
  | .queueRecv queue _ _ => hasOptional o.queue queue

/-- No object of this call exists yet. -/
def fresh (o : Objects) : CreateCall → Bool
  | .task .. => true
  | .sem sem _ _ => sem.all fun i => !o.sem i
  | .mutex mtx => mtx.all fun i => !o.mutex i
  | .queue queue _ _ _ _ => queue.all fun i => !o.queue i

def add (o : Objects) : CreateCall → Objects
  | .sem (some i) _ _ => { o with sem := Function.update o.sem i true }
  | .mutex (some i) => { o with mutex := Function.update o.mutex i true }
  | .queue (some i) _ _ _ _ => { o with queue := Function.update o.queue i true }
  | _ => o

end Objects

def runCreate (k : Kernel) : CreateCall → Kernel × OsErr
  | .task handler priority base size => osTaskCreate k handler priority base size
  | .sem sem initialCount policy => osSemCreate k sem initialCount policy
  | .mutex mtx => osMutexCreate k mtx
  | .queue queue buffer itemSize maxItems policy =>
    osQueueCreate k queue buffer itemSize maxItems policy

def create (s : Sys) (c : CreateCall) : Option (Sys × OsErr) :=
  if s.created.fresh c then
    let (k, err) := runCreate s.kernel c
    let created := if err = .ok then s.created.add c else s.created
    some ({ s with kernel := k, created := created }, err)
  else none

/-- Runs a call up to its end or to the point where the task is switched out. -/
def runCall (k : Kernel) : ApiCall → Option (Kernel × Flow)
  | .create _ => none
  | .taskDelay tickCount => some (osTaskDelay k tickCount)
  | .semWait sem timeout => some (osSemWait k sem timeout)
  | .semPost sem => osSemPost k sem
  | .mutexLock mtx timeout => some (osMutexLock k mtx timeout)
  | .mutexUnlock mtx => osMutexUnlock k mtx
  | .queueSend queue item timeout => osQueueSendFromTask k queue item timeout
  | .queueRecv queue itemNull timeout => osQueueRecvFromTask k queue itemNull timeout

/-- Records how a piece of code of the running task ended. -/
def Sys.settle (s : Sys) : Kernel × Flow → Sys × Option Ret
  | (k, .returned err data) =>
    ({ s with kernel := k, pending := Function.update s.pending k.currentTask none },
      some ⟨err, data⟩)
  | (k, .suspended rest) =>
    ({ s with kernel := k, pending := Function.update s.pending k.currentTask (some rest) }, none)

def Sys.settleIsr (s : Sys) : Kernel × Flow → Option (Sys × Option Ret)
  | (k, .returned err data) => some ({ s with kernel := k }, some ⟨err, data⟩)
  | (_, .suspended _) => none

def step (s : Sys) : Event → Option (Sys × Option Ret)
  | .call c =>
    if s.kernel.pendSV ∨ (s.pending s.kernel.currentTask).isSome ∨ ¬ s.created.allows c then none
    else match c with
      | .create c => do
        let (s, err) ← create s c
        some (s, some ⟨err, []⟩)
      | c => do
        let result ← runCall s.kernel c
        some (s.settle result)
  | .resume =>
    if s.kernel.pendSV then none
    else do
      let rest ← s.pending s.kernel.currentTask
      let result ← resumePending s.kernel rest
      some (s.settle result)
  | .isrSend queue item =>
    if Objects.hasOptional s.created.queue queue then do
      let result ← osQueueSendFromIsr s.kernel queue item
      s.settleIsr result
    else none
  | .isrRecv queue itemNull =>
    if Objects.hasOptional s.created.queue queue then do
      let result ← osQueueRecvFromIsr s.kernel queue itemNull
      s.settleIsr result
    else none
  | .tick => some ({ s with kernel := osTick s.kernel }, none)
  | .pendSV => some ({ s with kernel := pendSVHandler s.kernel }, none)

/-- What the linker decides: where the idle task's code and stack are. -/
structure Image where
  idleTaskHandler : U32
  idleTaskStack : U32
  memory : U32 → U32

def zeroWaitlist : Waitlist := waitlistInit .fifo

def zeroTcb : Tcb where
  stackPointer := 0
  taskHandler := 0
  currentState := .ready
  basePriority := 0
  effectivePriority := 0
  wakeupTick := 0
  blockReason := .none
  blockedWaitlist := none
  ownedMutexes _ := none
  ownedMutexCount := 0
  timeout := false

/-- The kernel as the startup code leaves it: static variables, with their initializers. -/
def zeroKernel (image : Image) : Kernel where
  userTasks _ := zeroTcb
  taskCount := 1
  currentTask := 0
  systickCount := 0
  semaphores _ := ⟨0, zeroWaitlist⟩
  mutexes _ := ⟨none, .unlocked, zeroWaitlist⟩
  queues _ := ⟨fun _ => 0, 0, 0, 0, 0, 0, zeroWaitlist, zeroWaitlist, 0⟩
  pendSV := false
  memory := image.memory

def createAll : Sys → List CreateCall → Option Sys
  | s, [] => some s
  | s, c :: calls => do
    let (s, _) ← create s c
    createAll s calls

/-- `main`: the create calls, then `os_kernel_start`. -/
def boot (image : Image) (calls : List CreateCall) : Option Sys := do
  let s ← createAll ⟨zeroKernel image, fun _ => none, .none⟩ calls
  some { s with kernel := osKernelStart s.kernel image.idleTaskHandler image.idleTaskStack }

abbrev Label := Transition.Label Sys Event (Option Ret)
abbrev Run := Transition.Run step

/-- The system, once started, can reach `s` by the transitions of `trace`. -/
def Reaches (trace : List Label) (s : Sys) : Prop :=
  ∃ image calls start, boot image calls = some start ∧ Run start trace s

end KoRTOS
