import KoRTOS.Library.Inheritance
import KoRTOS.System

/-!
# Conditions on runs

What the application has to keep to: the idle task does not block, no task owns
more mutexes than its control block has room for, and nobody waits for himself.
`FreshWrite` and `RepairsGoOn` are about the interleaving: the unprotected
recomputation of a task woken from a mutex is not overtaken, and not cut short.
-/

namespace KoRTOS

def idleBlocks (l : Label) : Bool :=
  match l.event, l.out with
  | .call _, none => l.pre.kernel.currentTask == idleTaskIdx
  | _, _ => false

/-- Calls that switch their caller out are made by user tasks only. -/
def UserBlocks (l : Label) : Prop := idleBlocks l = false

instance (l : Label) : Decidable (UserBlocks l) := inferInstanceAs (Decidable (_ = false))

theorem UserBlocks.user {s s' : Sys} {c : ApiCall} (h : UserBlocks ⟨s, .call c, none, s'⟩) :
    s.kernel.currentTask ≠ idleTaskIdx := by
  simpa [UserBlocks, idleBlocks] using h

def WithinMutexLimit (k : Kernel) : Prop :=
  ∀ t : Nat, t < osMaxTasks → (k.userTasks t).ownedMutexCount ≤ osMaxMtxPerTask

instance (k : Kernel) : Decidable (WithinMutexLimit k) := by
  unfold WithinMutexLimit
  infer_instance

def AcyclicWaits (k : Kernel) : Prop := Inheritance.Acyclic (nextOwner k)

/-- The running task goes on to write a priority that is not the least of the owner's base
priority and the effective priorities of the tasks that now wait on its mutexes. -/
def staleWrite (l : Label) : Bool :=
  match l.event, l.pre.pending l.pre.kernel.currentTask with
  | .resume, some (.mutexLock _ _ (.scanned owner _ highestPriority)) =>
    highestPriority != scanOwner l.pre.kernel owner
  | _, _ => false

/-- An unprotected recomputation still finds what its scan found when it writes. -/
def FreshWrite (l : Label) : Prop := staleWrite l = false

instance (l : Label) : Decidable (FreshWrite l) := inferInstanceAs (Decidable (_ = false))

theorem FreshWrite.eq {s s' : Sys} {out : Option Ret} {i : MutexId} {r : OsErr} {o : TaskId}
    {n v : Nat} (h : FreshWrite ⟨s, .resume, out, s'⟩)
    (hPending : s.pending s.kernel.currentTask = some (.mutexLock i r (.scanned o n v))) :
    v = scanOwner s.kernel o := by
  simpa [FreshWrite, staleWrite, hPending] using h

/-- Task `t` was removed from the waitlist of mutex `i` and has not gone on since. -/
def justWoken (s : Sys) (i : MutexId) (t : TaskId) : Bool :=
  match s.pending t with
  | some (.mutexLock j _ .woken) => j == i && (s.kernel.userTasks t).blockedWaitlist.isNone
  | _ => false

/-- The running task frees a mutex that nobody waits for any more while a task that timed
out on it has not gone on, and the running task's priority is not what its waiters give. -/
def dropsRepair (l : Label) : Bool :=
  match l.event with
  | .call (.mutexUnlock (some i)) =>
    let k := l.pre.kernel
    (k.mutexes i).owner == some k.currentTask && (k.mutexes i).waitlist.waitCount == 0 &&
      (List.range osMaxTasks).any (justWoken l.pre i) &&
      k.current.effectivePriority != scanOwner k k.currentTask
  | _ => false

/-- An unprotected recomputation has used up its rounds before an owner whose priority is
not what its waiters give. -/
def endsEarly (l : Label) : Bool :=
  match l.event, l.pre.pending l.pre.kernel.currentTask with
  | .resume, some (.mutexLock _ _ (.visit (some owner) iterations)) =>
    osMaxTasks ≤ iterations &&
      (l.pre.kernel.userTasks owner).effectivePriority != scanOwner l.pre.kernel owner
  | _, _ => false

/-- What a task woken from a mutex is about to recompute is not left as it is. -/
def RepairsGoOn (l : Label) : Prop := dropsRepair l = false ∧ endsEarly l = false

instance (l : Label) : Decidable (RepairsGoOn l) := inferInstanceAs (Decidable (_ ∧ _))

theorem RepairsGoOn.unlock {s s' : Sys} {out : Option Ret} {i : MutexId} {t : TaskId}
    (h : RepairsGoOn ⟨s, .call (.mutexUnlock (some i)), out, s'⟩)
    (hOwner : (s.kernel.mutexes i).owner = some s.kernel.currentTask)
    (hEmpty : (s.kernel.mutexes i).waitlist.waitCount = 0) (ht : t < osMaxTasks)
    (hWoken : justWoken s i t = true) :
    s.kernel.current.effectivePriority = scanOwner s.kernel s.kernel.currentTask := by
  have hAny : (List.range osMaxTasks).any (justWoken s i) = true :=
    List.any_eq_true.mpr ⟨t, List.mem_range.mpr ht, hWoken⟩
  simpa [dropsRepair, hOwner, hEmpty, hAny] using h.1

theorem RepairsGoOn.rounds {s s' : Sys} {out : Option Ret} {i : MutexId} {r : OsErr} {o : TaskId}
    {n : Nat} (h : RepairsGoOn ⟨s, .resume, out, s'⟩)
    (hPending : s.pending s.kernel.currentTask = some (.mutexLock i r (.visit (some o) n)))
    (hRounds : osMaxTasks ≤ n) :
    (s.kernel.userTasks o).effectivePriority = scanOwner s.kernel o := by
  simpa [endsEarly, hPending, hRounds] using h.2

/-- The application keeps to both conditions. -/
def WellUsed (l : Label) : Prop := UserBlocks l ∧ WithinMutexLimit l.post.kernel

instance (l : Label) : Decidable (WellUsed l) := inferInstanceAs (Decidable (_ ∧ _))

end KoRTOS
