import KoRTOS.Kernel.State

/-!
# Waitlists

The waitlist helpers of `kernel.c`. A waitlist is an array of `OS_MAX_TASKS`
task pointers of which the first `wait_count` are in use. `waitlist_unblock`
returns `none` where the source would index the array out of bounds or follow a
null pointer.
-/

namespace KoRTOS

def waitlistInit (schedulePolicy : SchedulePolicy) : Waitlist where
  taskWaitlist _ := none
  waitCount := 0
  schedulePolicy := schedulePolicy

/-- `for (int i = task_idx; ...; i++) list[i] = list[i + 1];` run `n` times. -/
def shiftDown (list : Nat → Option TaskId) (i : Nat) : Nat → (Nat → Option TaskId)
  | 0 => list
  | n + 1 => shiftDown (Function.update list i (list (i + 1))) (i + 1) n

def waitlistRemoveTask (wl : Waitlist) (taskIdx : Nat) : Waitlist :=
  let list := Function.update wl.taskWaitlist taskIdx none
  let list := shiftDown list taskIdx (wl.waitCount - 1 - taskIdx)
  let list := Function.update list (wl.waitCount - 1) none
  { wl with taskWaitlist := list, waitCount := wl.waitCount - 1 }

/-- One round of the `PRIORITY` scan: `best` holds `highest_priority` and `unblock_idx`. -/
def selectStep (k : Kernel) (wl : Waitlist) (best : Nat × Option Nat) (i : Nat) :
    Nat × Option Nat :=
  match wl.taskWaitlist i with
  | some t =>
    if (k.userTasks t).effectivePriority < best.1 then
      ((k.userTasks t).effectivePriority, some i)
    else best
  | none => best

/-- The `unblock_idx` of `waitlist_unblock`; `none` stands for -1. -/
def waitlistSelect (k : Kernel) (wl : Waitlist) : Option Nat :=
  match wl.schedulePolicy with
  | .fifo => some 0
  | .priority =>
    ((List.range wl.waitCount).foldl (selectStep k wl) (osPriorityLowest + 1, none)).2

def unblockTcb (tcb : Tcb) : Tcb :=
  { tcb with
    wakeupTick := 0
    currentState := .ready
    blockReason := .none
    blockedWaitlist := none
    timeout := false }

/-- The part of `waitlist_unblock` after the choice of `task` at `unblockIdx`. -/
def releaseTask (k : Kernel) (w : WaitlistRef) (unblockIdx : Nat) (task : TaskId) : Kernel :=
  (k.modifyTask task unblockTcb).setWaitlist w (waitlistRemoveTask (k.waitlist w) unblockIdx)

/-- The task released from the waitlist, with the kernel after the release. -/
def waitlistUnblock (k : Kernel) (w : WaitlistRef) : Option (Kernel × Option TaskId) :=
  let wl := k.waitlist w
  if wl.waitCount = 0 then some (k, none)
  else do
    let unblockIdx ← waitlistSelect k wl
    let task ← wl.taskWaitlist unblockIdx
    some (releaseTask k w unblockIdx task, some task)

def wakeupTickOf (systickCount timeout : U32) : U32 :=
  if timeout = osWaitForever then 0 else systickCount + timeout

/-- The part of `waitlist_block_current` after the test for a full waitlist. -/
def enqueueCurrent (k : Kernel) (w : WaitlistRef) (timeout : U32) (blockReason : BlockReason) :
    Kernel :=
  let wl := k.waitlist w
  let k := k.modifyTask k.currentTask fun tcb =>
    { tcb with
      currentState := .blocked
      blockReason := blockReason
      blockedWaitlist := some w
      wakeupTick := wakeupTickOf k.systickCount timeout }
  let k := k.setWaitlist w
    { wl with
      taskWaitlist := Function.update wl.taskWaitlist wl.waitCount (some k.currentTask)
      waitCount := wl.waitCount + 1 }
  k.portYield

/-- Everything up to and including `port_exit_critical`, where the task is switched out. -/
def waitlistBlockCurrent (k : Kernel) (w : WaitlistRef) (timeout : U32)
    (blockReason : BlockReason) : Kernel × OsErr :=
  if osMaxTasks ≤ (k.waitlist w).waitCount then (k, .waitlistFull)
  else (enqueueCurrent k w timeout blockReason, .ok)

end KoRTOS
