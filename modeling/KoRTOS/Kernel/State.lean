import KoRTOS.Port.StackFrame

/-!
# The kernel state

The static variables of `kernel.c`, the synchronization objects the application
hands to the kernel, the PendSV pending bit of the port and the memory of the
task stacks. A waitlist is reached through the primitive that embeds it.
-/

namespace KoRTOS

structure Kernel where
  userTasks : TaskId → Tcb
  taskCount : Nat
  currentTask : TaskId
  systickCount : U32
  semaphores : SemId → Semaphore
  mutexes : MutexId → Mutex
  queues : QueueId → Queue
  pendSV : Bool
  memory : U32 → U32

namespace Kernel

def current (k : Kernel) : Tcb := k.userTasks k.currentTask

def modifyTask (k : Kernel) (t : TaskId) (f : Tcb → Tcb) : Kernel :=
  { k with userTasks := Function.update k.userTasks t (f (k.userTasks t)) }

def setSemaphore (k : Kernel) (i : SemId) (sem : Semaphore) : Kernel :=
  { k with semaphores := Function.update k.semaphores i sem }

def setMutex (k : Kernel) (i : MutexId) (mtx : Mutex) : Kernel :=
  { k with mutexes := Function.update k.mutexes i mtx }

def setQueue (k : Kernel) (i : QueueId) (queue : Queue) : Kernel :=
  { k with queues := Function.update k.queues i queue }

def waitlist (k : Kernel) : WaitlistRef → Waitlist
  | .sem i => (k.semaphores i).waitlist
  | .mutex i => (k.mutexes i).waitlist
  | .queueSend i => (k.queues i).sendWaitlist
  | .queueRecv i => (k.queues i).recvWaitlist

def setWaitlist (k : Kernel) (w : WaitlistRef) (wl : Waitlist) : Kernel :=
  match w with
  | .sem i => k.setSemaphore i { k.semaphores i with waitlist := wl }
  | .mutex i => k.setMutex i { k.mutexes i with waitlist := wl }
  | .queueSend i => k.setQueue i { k.queues i with sendWaitlist := wl }
  | .queueRecv i => k.setQueue i { k.queues i with recvWaitlist := wl }

/-- `port_yield`: pends the PendSV exception. -/
def portYield (k : Kernel) : Kernel := { k with pendSV := true }

end Kernel
end KoRTOS
