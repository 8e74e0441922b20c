import KoRTOS.Invariant.Candidates
import KoRTOS.Property.ExactInheritance
import KoRTOS.Property.LockOrder
import KoRTOS.Property.MostUrgentRuns
import KoRTOS.Property.OwnerPriority
import KoRTOS.Property.PriorityOrigin

/-!
# No unbounded priority inversion

What donation, the scheduler and an order of the mutexes are for together. While a
task waits for a mutex and the task that it comes down to could run, the processor is
not given to a task that has nothing to do with the wait and is less urgent.
-/

namespace KoRTOS

open Inheritance

/-- A transition that keeps to the conditions. -/
structure KeepsTo {K : Type*} [Preorder K] [DecidableLT K] (rank : MutexId → K) (l : Label) :
    Prop where
  used : WellUsed l
  created : createsTask l = false
  upward : WaitsUpward rank l
  fresh : FreshWrite l
  repair : RepairsGoOn l
  alone : RecomputesAlone l

section Runs

variable {K : Type*} [Preorder K] {rank : MutexId → K} {s s' : Sys} {e : Event} {out : Option Ret}
  {t o : TaskId}

theorem Prioritized.afterOrdered [DecidableLT K] (h : Prioritized s)
    (hOrdered : Ordered rank s.kernel) (hMove : Move s e s' out)
    (hKeeps : KeepsTo rank ⟨s, e, out, s'⟩) : Prioritized s' ∧ Ordered rank s'.kernel := by
  have hAfter := hOrdered.afterMove h.locks hMove hKeeps.upward
  exact ⟨h.afterMove hMove hKeeps.used.1 hKeeps.created hAfter.acyclic hKeeps.fresh
    hKeeps.repair hKeeps.alone, hAfter⟩

/-- The running task is at least as urgent as every task on whose chain there is a user task
that could run. -/
theorem Prioritized.eff_current_le (h : Prioritized s) (hRuns : OnlyCurrentRuns s.kernel)
    (hSwitched : s.kernel.pendSV = false) (hChain : OnChain (nextOwner s.kernel) t o)
    (hLt : o < s.kernel.taskCount) (hUser : o ≠ idleTaskIdx)
    (hFree : (s.kernel.userTasks o).currentState ≠ .blocked) :
    s.kernel.eff s.kernel.currentTask ≤ s.kernel.eff t := by
  have hRises : s.kernel.eff o ≤ s.kernel.eff t := Bounded.chain h.bounded hChain
  cases hState : (s.kernel.userTasks o).currentState with
  | blocked => exact absurd hState hFree
  | running => exact hRuns o hState ▸ hRises
  | ready => exact (h.urgent hSwitched o hUser hLt hState).trans hRises

/-- The priority of a task is that of a task which was created with it and waits for it. -/
theorem Prioritized.exists_source (h : Prioritized s) (hQuiet : Quiescent s)
    (hLt : o < s.kernel.taskCount) :
    ∃ u, OnChain (nextOwner s.kernel) u o ∧ s.kernel.base u = s.kernel.eff o := by
  have hExact : ∀ x, ExactAt s.kernel x := by
    intro x
    obtain hExact | ⟨w, hRepairs, _⟩ := h.settled x
    · exact hExact
    · exact absurd hRepairs (hQuiet.no_repairs h.locks)
  apply Exact.exists_source h.acyclic (S := Finset.range s.kernel.taskCount)
  · intro a b _ hab
    exact Finset.mem_range.mpr (h.locks.waiter_lt hab)
  · exact fun x _ => hExact x
  · exact Finset.mem_range.mpr hLt

end Runs

end KoRTOS
