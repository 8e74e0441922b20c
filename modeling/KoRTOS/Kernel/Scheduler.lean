import KoRTOS.Kernel.Api

/-!
# Tasks, ticks and the scheduler

`os_task_create`, `os_tick`, `os_schedule_next_task` and the part of
`os_kernel_start` that touches the kernel's own state.
-/

namespace KoRTOS

def osTaskCreate (k : Kernel) (taskHandler : U32) (priority : Nat) (taskStackBase : Option U32)
    (taskStackSize : U32) : Kernel × OsErr :=
  if osMaxTasks ≤ k.taskCount then (k, .maxTasks)
  else if priority < osPriorityHighest ∨ osPriorityLowest < priority then (k, .outOfRange)
  else match taskStackBase with
    | none => (k, .nullPtr)
    | some base =>
      let (memory, sp) := Port.portInitTaskStackFrame k.memory taskHandler base taskStackSize
      let k := { k with memory := memory }
      let k := k.modifyTask k.taskCount fun tcb =>
        { tcb with
          stackPointer := sp
          taskHandler := taskHandler
          currentState := .ready
          basePriority := priority
          effectivePriority := priority
          wakeupTick := 0
          blockReason := .none
          blockedWaitlist := none
          timeout := false }
      ({ k with taskCount := k.taskCount + 1 }, .ok)

def initIdleTask (k : Kernel) (idleTaskHandler idleTaskStack : U32) : Kernel :=
  let (memory, sp) := Port.portInitTaskStackFrame k.memory idleTaskHandler idleTaskStack
    (BitVec.ofNat 32 (osIdleStackWords * 4))
  let k := { k with memory := memory }
  k.modifyTask idleTaskIdx fun tcb =>
    { tcb with
      stackPointer := sp
      taskHandler := idleTaskHandler
      currentState := .ready
      basePriority := osPriorityLowest + 1
      effectivePriority := osPriorityLowest + 1
      wakeupTick := 0
      blockReason := .none
      blockedWaitlist := none
      timeout := false }

/-- One round of a scheduler loop: `best` holds `highest_priority` and `task_to_run`. -/
def scheduleStep (k : Kernel) (best : Nat × TaskId) (i : TaskId) : Nat × TaskId :=
  if (k.userTasks i).currentState = .ready ∧ (k.userTasks i).effectivePriority < best.1 then
    ((k.userTasks i).effectivePriority, i)
  else best

/-- The `task_to_run` of the two loops: from after the current task to the end of the
table, then from the first user task up to the current one. -/
def scheduleSelect (k : Kernel) : TaskId :=
  let best := (List.range' (k.currentTask + 1) (k.taskCount - (k.currentTask + 1))).foldl
    (scheduleStep k) (osPriorityLowest + 1, idleTaskIdx)
  ((List.range' 1 k.currentTask).foldl (scheduleStep k) best).2

def osScheduleNextTask (k : Kernel) : Kernel :=
  let k :=
    if k.current.currentState = .running then
      k.modifyTask k.currentTask fun tcb => { tcb with currentState := .ready }
    else k
  if k.taskCount ≤ 1 then k
  else
    let k := { k with currentTask := scheduleSelect k }
    k.modifyTask k.currentTask fun tcb => { tcb with currentState := .running }

/-- The test of `unblock_tasks`; the difference is compared as an `int32_t`. -/
def wakeupReached (k : Kernel) (i : TaskId) : Prop :=
  (k.userTasks i).currentState = .blocked ∧ (k.userTasks i).wakeupTick ≠ 0 ∧
    0 ≤ (k.systickCount - (k.userTasks i).wakeupTick).toInt

instance (k : Kernel) (i : TaskId) : Decidable (wakeupReached k i) := by
  unfold wakeupReached; infer_instance

def removeFromWaitlist (k : Kernel) (i : TaskId) (w : WaitlistRef) : Kernel :=
  let wl := k.waitlist w
  match (List.range wl.waitCount).find? (fun j => wl.taskWaitlist j == some i) with
  | some removeIdx =>
    (k.setWaitlist w (waitlistRemoveTask wl removeIdx)).modifyTask i fun tcb =>
      { tcb with blockedWaitlist := none }
  | none => k

/-- The body of the loop of `unblock_tasks`. -/
def unblockTask (k : Kernel) (i : TaskId) : Kernel :=
  if wakeupReached k i then
    let k :=
      match (k.userTasks i).blockedWaitlist with
      | some w => removeFromWaitlist (k.modifyTask i fun tcb => { tcb with timeout := true }) i w
      | none => k.modifyTask i fun tcb => { tcb with timeout := false }
    k.modifyTask i fun tcb =>
      { tcb with currentState := .ready, blockReason := .none, wakeupTick := 0 }
  else k

def unblockTasks (k : Kernel) : Kernel :=
  if k.taskCount ≤ 1 then k
  else (List.range' 1 (k.taskCount - 1)).foldl unblockTask k

def updateTickCount (k : Kernel) : Kernel := { k with systickCount := k.systickCount + 1 }

def osTick (k : Kernel) : Kernel := (unblockTasks (updateTickCount k)).portYield

/-- The exception handler of `port.c`: taking it clears the pending bit. -/
def pendSVHandler (k : Kernel) : Kernel := osScheduleNextTask { k with pendSV := false }

def osKernelStart (k : Kernel) (idleTaskHandler idleTaskStack : U32) : Kernel :=
  osScheduleNextTask (initIdleTask k idleTaskHandler idleTaskStack)

end KoRTOS
