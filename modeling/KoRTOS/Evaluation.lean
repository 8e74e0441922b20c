import KoRTOS.Library.Strict
import KoRTOS.System

/-!
# Evaluating runs

States are forced after every transition, so that runs on concrete inputs can be
evaluated by the kernel of Lean. A run that evaluates is a run.
-/

namespace KoRTOS

open Strict

instance : Force OsErr where
  force x f := match x with
    | .ok => f .ok
    | .unavailable => f .unavailable
    | err => f err
  force_eq x _ := by cases x <;> rfl

instance : Force TaskState where
  force x f := match x with
    | .ready => f .ready
    | .running => f .running
    | .blocked => f .blocked
  force_eq x _ := by cases x <;> rfl

instance : Force BlockReason where
  force x f := match x with
    | .none => f .none
    | .delay => f .delay
    | .sem => f .sem
    | .mutex => f .mutex
    | .queueSend => f .queueSend
    | .queueRecv => f .queueRecv
  force_eq x _ := by cases x <;> rfl

instance : Force SchedulePolicy where
  force x f := match x with
    | .fifo => f .fifo
    | .priority => f .priority
  force_eq x _ := by cases x <;> rfl

instance : Force MutexState where
  force x f := match x with
    | .unlocked => f .unlocked
    | .locked => f .locked
  force_eq x _ := by cases x <;> rfl

instance : Force WaitlistRef where
  force x f := match x with
    | .sem i => forceNat i fun i => f (.sem i)
    | .mutex i => forceNat i fun i => f (.mutex i)
    | .queueSend i => forceNat i fun i => f (.queueSend i)
    | .queueRecv i => forceNat i fun i => f (.queueRecv i)
  force_eq x _ := by cases x <;> rfl

instance : Force Waitlist where
  force x f := force x.taskWaitlist fun list => force x.waitCount fun count =>
    force x.schedulePolicy fun policy => f ⟨list, count, policy⟩
  force_eq _ _ := by simp

instance : Force Semaphore where
  force x f := force x.count fun count => force x.waitlist fun wl => f ⟨count, wl⟩
  force_eq _ _ := by simp

instance : Force Mutex where
  force x f := force x.owner fun owner => force x.state fun state =>
    force x.waitlist fun wl => f ⟨owner, state, wl⟩
  force_eq _ _ := by simp

instance : Force Queue where
  force x f := force x.buffer fun buffer => force x.itemSize fun itemSize =>
    force x.maxItems fun maxItems => force x.count fun count => force x.head fun head =>
    force x.tail fun tail => force x.sendWaitlist fun send => force x.recvWaitlist fun recv =>
    force x.droppedCount fun dropped =>
      f ⟨buffer, itemSize, maxItems, count, head, tail, send, recv, dropped⟩
  force_eq _ _ := by simp

instance : Force Tcb where
  force x f := force x.stackPointer fun sp => force x.taskHandler fun handler =>
    force x.currentState fun state => force x.basePriority fun base =>
    force x.effectivePriority fun eff => force x.wakeupTick fun tick =>
    force x.blockReason fun reason => force x.blockedWaitlist fun w =>
    force x.ownedMutexes fun owned => force x.ownedMutexCount fun count =>
    force x.timeout fun timeout =>
      f ⟨sp, handler, state, base, eff, tick, reason, w, owned, count, timeout⟩
  force_eq _ _ := by simp

instance : Force Kernel where
  force x f := force x.userTasks fun tasks => force x.taskCount fun count =>
    force x.currentTask fun current => force x.systickCount fun tick =>
    force x.semaphores fun sems => force x.mutexes fun mutexes => force x.queues fun queues =>
    force x.pendSV fun pendSV =>
      f ⟨tasks, count, current, tick, sems, mutexes, queues, pendSV, x.memory⟩
  force_eq _ _ := by simp

instance : Force LockStage where
  force x f := match x with
    | .woken => f .woken
    | .visit owner n => force owner fun owner => forceNat n fun n => f (.visit owner n)
    | .scanned o n p => forceNat o fun o => forceNat n fun n => forceNat p fun p =>
      f (.scanned o n p)
    | .written o n => forceNat o fun o => forceNat n fun n => f (.written o n)
    | .recomputed => f .recomputed
  force_eq x _ := by cases x <;> simp [forceNat]

instance : Force Pending where
  force x f := match x with
    | .taskDelay => f .taskDelay
    | .semWait i => forceNat i fun i => f (.semWait i)
    | .mutexLock i r st => forceNat i fun i => force r fun r => force st fun st =>
      f (.mutexLock i r st)
    | .queueSend q item n d => forceNat q fun q => force n fun n => force d fun d =>
      f (.queueSend q item n d)
    | .queueRecv q n d => forceNat q fun q => force n fun n => force d fun d =>
      f (.queueRecv q n d)
  force_eq x _ := by cases x <;> simp [forceNat]

instance : Force Objects where
  force x f := force x.sem fun sem => force x.mutex fun mutex => force x.queue fun queue =>
    f ⟨sem, mutex, queue⟩
  force_eq _ _ := by simp

instance : Force Sys where
  force x f := force x.kernel fun k => force x.pending fun pending =>
    force x.created fun created => f ⟨k, pending, created⟩
  force_eq _ _ := by simp

def sampleImage : Image := ⟨0x08000101#32, 0x20000000#32, fun _ => 0⟩

def sampleTask (priority : Nat) : CreateCall :=
  .task 0x08000201#32 priority (some 0x20001000#32) 1024#32

/-- Runs the events, testing every transition with `check` and the last state with `final`. -/
def checkRun (check : Label → Bool) (final : Sys → Bool) : Sys → List Event → Bool
  | s, [] => final s
  | s, e :: events =>
    match step s e with
    | none => false
    | some (s', out) => force s' fun s' =>
      check ⟨s, e, out, s'⟩ && checkRun check final s' events

def checkBoot (image : Image) (calls : List CreateCall) (events : List Event)
    (check : Label → Bool) (final : Sys → Bool) : Bool :=
  match boot image calls with
  | none => false
  | some s => force s fun s => checkRun check final s events

def tallyRun (check mark : Label → Bool) (goal : Nat) : Nat → Sys → List Event → Bool
  | n, _, [] => n == goal
  | n, s, e :: events =>
    match step s e with
    | none => false
    | some (s', out) => force s' fun s' =>
      check ⟨s, e, out, s'⟩ &&
        force (n + if mark ⟨s, e, out, s'⟩ then 1 else 0) fun n =>
          tallyRun check mark goal n s' events

def checkHistory (check : List Label → Label → Bool) (final : List Label → Sys → Bool) :
    List Label → Sys → List Event → Bool
  | past, s, [] => final past s
  | past, s, e :: events =>
    match step s e with
    | none => false
    | some (s', out) => force s' fun s' =>
      check past ⟨s, e, out, s'⟩ &&
        checkHistory check final (past ++ [⟨s, e, out, s'⟩]) s' events

section

variable {check : Label → Bool} {final : Sys → Bool} {events : List Event}

theorem run_of_checkRun {start : Sys} (h : checkRun check final start events = true) :
    ∃ trace s, Run start trace s ∧ trace.map (·.event) = events ∧
      (∀ l ∈ trace, check l = true) ∧ final s = true := by
  induction events generalizing start with
  | nil => exact ⟨[], start, .nil, rfl, by simp, h⟩
  | cons e events ih =>
    rw [checkRun] at h
    split at h
    · cases h
    · rename_i s' out hStep
      rw [force_eq, Bool.and_eq_true] at h
      obtain ⟨hCheck, h⟩ := h
      obtain ⟨trace, s, hRun, hEvents, hAll, hFinal⟩ := ih h
      have hFirst : Run start ([] ++ [⟨start, e, out, s'⟩]) s' := .snoc .nil hStep
      refine ⟨_, s, hFirst.append hRun, by simp [hEvents], ?_, hFinal⟩
      intro l hl
      rcases List.mem_append.mp hl with hl | hl
      · obtain rfl := List.mem_singleton.mp hl
        exact hCheck
      · exact hAll l hl

theorem boot_of_checkBoot {image : Image} {calls : List CreateCall}
    (h : checkBoot image calls events check final = true) :
    ∃ start, boot image calls = some start ∧ checkRun check final start events = true := by
  unfold checkBoot at h
  split at h
  · cases h
  · rename_i start hBoot
    rw [force_eq] at h
    exact ⟨start, hBoot, h⟩

theorem reaches_of_checkBoot {image : Image} {calls : List CreateCall}
    (h : checkBoot image calls events check final = true) :
    ∃ trace s, Reaches trace s ∧ trace.map (·.event) = events ∧
      (∀ l ∈ trace, check l = true) ∧ final s = true := by
  obtain ⟨start, hBoot, h⟩ := boot_of_checkBoot h
  obtain ⟨trace, s, hRun, hRest⟩ := run_of_checkRun h
  exact ⟨trace, s, ⟨image, calls, start, hBoot, hRun⟩, hRest⟩

theorem run_of_tallyRun {mark : Label → Bool} {goal n : Nat} {start : Sys}
    (h : tallyRun check mark goal n start events = true) :
    ∃ trace s, Run start trace s ∧ (∀ l ∈ trace, check l = true) ∧ n + trace.countP mark = goal := by
  induction events generalizing start n with
  | nil =>
    rw [tallyRun, beq_iff_eq] at h
    exact ⟨[], start, .nil, by simp, h⟩
  | cons e events ih =>
    rw [tallyRun] at h
    split at h
    · cases h
    · rename_i s' out hStep
      rw [force_eq, Bool.and_eq_true] at h
      obtain ⟨hCheck, h⟩ := h
      rw [force_eq] at h
      obtain ⟨trace, s, hRun, hAll, hCount⟩ := ih h
      have hFirst : Run start ([] ++ [⟨start, e, out, s'⟩]) s' := .snoc .nil hStep
      refine ⟨_, s, hFirst.append hRun, ?_, ?_⟩
      · intro l hl
        obtain hl | hl := List.mem_append.mp hl
        · obtain rfl := List.mem_singleton.mp hl
          exact hCheck
        · exact hAll l hl
      · rw [List.nil_append, List.singleton_append, List.countP_cons, ← hCount]
        omega

theorem run_of_checkHistory {check : List Label → Label → Bool}
    {final : List Label → Sys → Bool} {past : List Label} {start : Sys}
    (h : checkHistory check final past start events = true) :
    ∃ trace s, Run start trace s ∧
      (∀ before l after, trace = before ++ l :: after → check (past ++ before) l = true) ∧
      final (past ++ trace) s = true := by
  induction events generalizing start past with
  | nil => exact ⟨[], start, .nil, by simp, by rwa [List.append_nil]⟩
  | cons e events ih =>
    rw [checkHistory] at h
    split at h
    · cases h
    · rename_i s' out hStep
      rw [force_eq, Bool.and_eq_true] at h
      obtain ⟨hCheck, h⟩ := h
      obtain ⟨trace, s, hRun, hAll, hFinal⟩ := ih h
      have hFirst : Run start ([] ++ [⟨start, e, out, s'⟩]) s' := .snoc .nil hStep
      refine ⟨_, s, hFirst.append hRun, ?_, by simpa using hFinal⟩
      intro before l after hEq
      cases before with
      | nil =>
        obtain rfl := List.head_eq_of_cons_eq hEq
        rwa [List.append_nil]
      | cons first before =>
        obtain rfl := List.head_eq_of_cons_eq hEq
        have hCheck' := hAll before l after (List.tail_eq_of_cons_eq hEq)
        rwa [List.append_assoc, List.singleton_append] at hCheck'

end
end KoRTOS
