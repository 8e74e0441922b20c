import KoRTOS.Invariant.Repairs
import KoRTOS.Property.OwnerPriority

/-!
# The most urgent task runs

While no switch is pending, no ready user task is more urgent than the running
one. Whoever makes a task ready pends a switch, and so does whoever blocks; the
recomputation of `os_mutex_lock` changes priorities without.
-/

namespace KoRTOS

open Inheritance

/-- Unless a switch is pending, no ready user task is more urgent than the running one. -/
def RunsMostUrgent (k : Kernel) : Prop :=
  k.pendSV = false → ∀ t, t ≠ idleTaskIdx → t < k.taskCount →
    (k.userTasks t).currentState = .ready →
    k.current.effectivePriority ≤ (k.userTasks t).effectivePriority

def createsTask (l : Label) : Bool :=
  match l.event with
  | .call (.create (.task ..)) => true
  | _ => false

/-- The task that `t` recomputes next inside of `os_mutex_lock`. -/
def recomputes (s : Sys) (t : TaskId) : Option TaskId :=
  match s.pending t with
  | some (.mutexLock i _ .woken) =>
    if (s.kernel.userTasks t).blockedWaitlist.isNone then (s.kernel.mutexes i).owner else none
  | some (.mutexLock _ _ (.visit owner _)) => owner
  | some (.mutexLock _ _ (.scanned owner _ _)) => some owner
  | some (.mutexLock _ _ (.written owner _)) => nextOwner s.kernel owner
  | _ => none

/-- The running task goes on to write its own effective priority while a task that timed out
on a mutex is inside of `os_mutex_lock`, about to recompute the running task. -/
def meetsRepair (l : Label) : Bool :=
  match l.event, l.pre.pending l.pre.kernel.currentTask with
  | .resume, some (.mutexLock _ _ (.scanned owner _ _)) =>
    owner == l.pre.kernel.currentTask && (List.range osMaxTasks).any fun t =>
      (l.pre.kernel.userTasks t).timeout && recomputes l.pre t == some owner
  | _, _ => false

/-- A task recomputes itself only while no task that timed out is about to do it too. -/
def RecomputesAlone (l : Label) : Prop := meetsRepair l = false

instance (l : Label) : Decidable (RecomputesAlone l) := inferInstanceAs (Decidable (_ = false))

theorem Repairs.recomputes {s : Sys} {o t : TaskId} (h : Repairs s o t) :
    recomputes s t = some o := by
  unfold KoRTOS.recomputes
  cases h with
  | woken hPending hLeft hOwner =>
    have hNone : (s.kernel.userTasks t).blockedWaitlist = none := hLeft
    rw [hPending]
    dsimp only
    rw [hNone]
    exact hOwner
  | visit hPending => rw [hPending]
  | scanned hPending => rw [hPending]
  | written hPending hNext =>
    rw [hPending]
    exact hNext

theorem RecomputesAlone.on_time {s s' : Sys} {out : Option Ret} {i : MutexId} {r : OsErr}
    {n v : Nat} {t : TaskId} (h : RecomputesAlone ⟨s, .resume, out, s'⟩)
    (hPending : s.pending s.kernel.currentTask =
      some (.mutexLock i r (.scanned s.kernel.currentTask n v))) (ht : t < osMaxTasks)
    (hRepairs : Repairs s s.kernel.currentTask t) : (s.kernel.userTasks t).timeout = false := by
  have hAlone : meetsRepair ⟨s, .resume, out, s'⟩ = false := h
  simp only [meetsRepair, hPending, beq_self_eq_true, Bool.true_and, List.any_eq_false] at hAlone
  simpa [hRepairs.recomputes] using hAlone t (List.mem_range.mpr ht)

section Order

variable {s s' : Sys} {k k' : Kernel} {piece : Piece} {f : Flow} {e : Event} {out : Option Ret}
  {t o : TaskId}

theorem runsMostUrgent_schedule (hCurrent : k.currentTask < k.taskCount)
    (hUser : ∀ t, t ≠ idleTaskIdx → k.eff t ≤ osPriorityLowest) :
    RunsMostUrgent (osScheduleNextTask k) := by
  intro _ t ht hLt hReady
  have hSame := sameButStates_osScheduleNextTask (k := k)
  rw [hSame.taskCount] at hLt
  have hEff : ∀ u, ((osScheduleNextTask k).userTasks u).effectivePriority = k.eff u :=
    fun u => congrFun hSame.eff u
  have hMany : ¬ (readied k).taskCount ≤ 1 := by
    rw [taskCount_readied]
    have : 0 < t := Nat.pos_of_ne_zero ht
    unfold TaskId at *
    omega
  have hNow : (osScheduleNextTask k).currentTask = scheduleSelect (readied k) := by
    rw [osScheduleNextTask_eq, if_neg hMany]
    rfl
  have hReady' : ((readied k).userTasks t).currentState = .ready := by
    rw [osScheduleNextTask_eq, if_neg hMany, userTasks_dispatch] at hReady
    split at hReady
    · cases hReady
    · exact hReady
  have hEff' : (readied k).eff = k.eff := sameButStates_readied.eff
  have hMem : t ∈ scheduleOrder (readied k) := by
    rw [mem_scheduleOrder (by simpa using hCurrent), taskCount_readied]
    exact ⟨ht, hLt⟩
  rw [Kernel.current, hEff, hEff, hNow]
  obtain ⟨_, hNone⟩ | ⟨p, _, hMin⟩ := scheduleSelect_cases (k := readied k)
  · have hLow := hNone t hMem hReady'
    rw [hEff'] at hLow
    exact absurd (hUser t ht) (Nat.not_le.mpr hLow)
  · have hChosen := (readyKey_eq_some hMin.1).2
    rw [hEff'] at hChosen
    rw [hChosen, ← hEff']
    exact hMin.le hMem (if_pos hReady')

theorem Section.calm (h : Waiting k) (hs : Section k piece k' f) (hRun : k'.pendSV = false) :
    (SameRanks k k' ∧ ∀ t, (k'.userTasks t).currentState = (k.userTasks t).currentState) ∨
    ∃ i r o n v, piece = .rest (.mutexLock i r (.scanned o n v)) ∧
      k' = k.setEffectivePriority o v := by
  have hQuiet : ∀ {k'}, Quiet k k' →
      SameRanks k k' ∧ ∀ t, (k'.userTasks t).currentState = (k.userTasks t).currentState :=
    fun hQuiet => ⟨.of_userTasks hQuiet.userTasks, fun _ => hQuiet.currentState⟩
  cases hs with
  | refuse => exact .inl (hQuiet (.refl k))
  | take => exact .inl (hQuiet quiet_takeToken)
  | post => exact .inl (hQuiet quiet_addToken)
  | serve hTraffic => exact .inl (hQuiet hTraffic.quiet)
  | acquire => exact .inl ⟨.acquire, acquire_blocking.currentState⟩
  | free => exact .inl ⟨.free, free_blocking.currentState⟩
  | lockFull _ _ _ hFull => exact absurd h.waitCount_lt (Nat.not_lt.mpr hFull)
  | stage => exact .inl (hQuiet (.refl k))
  | write => exact .inr ⟨_, _, _, _, _, rfl, rfl⟩
  | wake => cases hRun
  | handOff => cases hRun
  | delay => cases hRun
  | block => cases hRun
  | lockBlock => cases hRun

theorem RunsMostUrgent.congr (h : RunsMostUrgent k) (hRanks : SameRanks k k')
    (hStates : ∀ t, (k'.userTasks t).currentState = (k.userTasks t).currentState)
    (hCurrent : k'.currentTask = k.currentTask) (hCount : k'.taskCount = k.taskCount)
    (hPendSV : k'.pendSV = false → k.pendSV = false) : RunsMostUrgent k' := by
  intro hRun t ht hLt hReady
  rw [hCount] at hLt
  rw [hStates] at hReady
  have hEff : ∀ u, (k'.userTasks u).effectivePriority = k.eff u := congrFun hRanks.eff
  rw [Kernel.current, hCurrent, hEff, hEff]
  exact h (hPendSV hRun) t ht hLt hReady

/-- The running task is exact before it writes its own priority. -/
theorem exactAt_own_write {i : MutexId} {r : OsErr} {n v : Nat} (hLocks : Locks s)
    (hSettled : Settled s s.kernel.currentTask)
    (hPending : s.pending s.kernel.currentTask =
      some (.mutexLock i r (.scanned s.kernel.currentTask n v)))
    (hAlone : RecomputesAlone ⟨s, .resume, out, s'⟩) :
    ExactAt s.kernel s.kernel.currentTask := by
  obtain hExact | ⟨t, hRepairs, hLate⟩ := hSettled
  · exact hExact
  · obtain ⟨_, _, _, hInside⟩ := hRepairs.pending
    have ht := (hLocks.sound.pending_user hInside).2.trans_le hLocks.sound.waiting.taskCount_le
    have hOnTime := hAlone.on_time hPending ht hRepairs
    exact absurd (hLate.symm.trans hOnTime) (by simp)

/-- A fresh write leaves the running task as urgent as it is, and makes no other task more
urgent. -/
theorem eff_afterWrite {i : MutexId} {r : OsErr} {n v : Nat} (hLocks : Locks s)
    (hBounded : AllBounded s.kernel) (hSettled : Settled s s.kernel.currentTask)
    (hPending : s.pending s.kernel.currentTask = some (.mutexLock i r (.scanned o n v)))
    (hFresh : FreshWrite ⟨s, .resume, out, s'⟩)
    (hAlone : RecomputesAlone ⟨s, .resume, out, s'⟩) :
    s.kernel.eff o ≤ v ∧ (o = s.kernel.currentTask → v = s.kernel.eff o) := by
  have hLeast := hLocks.fresh_least hFresh hPending
  refine ⟨hBounded o hLeast.1, ?_⟩
  rintro rfl
  have hExact := exactAt_own_write hLocks hSettled hPending hAlone
  exact hLeast.unique hExact

theorem RunsMostUrgent.afterWrite {v : Nat} (h : RunsMostUrgent s.kernel)
    (hRun : s.kernel.pendSV = false) (hRises : s.kernel.eff o ≤ v)
    (hOwn : o = s.kernel.currentTask → v = s.kernel.eff o) :
    RunsMostUrgent (s.kernel.setEffectivePriority o v) := by
  intro _ t ht hLt hReady
  rw [(Reranked.setEffectivePriority s.kernel o v).currentState] at hReady
  have hOld : s.kernel.eff s.kernel.currentTask ≤ s.kernel.eff t := h hRun t ht hLt hReady
  have hEff : ∀ u, ((s.kernel.setEffectivePriority o v).userTasks u).effectivePriority =
      Function.update s.kernel.eff o v u := congrFun eff_setEffectivePriority
  have hCurrent : Function.update s.kernel.eff o v s.kernel.currentTask =
      s.kernel.eff s.kernel.currentTask := by
    rw [Function.update_apply]
    split
    · rename_i hEq
      rw [hOwn hEq.symm, hEq]
    · rfl
  have hOther : s.kernel.eff t ≤ Function.update s.kernel.eff o v t := by
    rw [Function.update_apply]
    split
    · rename_i hEq
      exact hEq ▸ hRises
    · exact le_rfl
  rw [Kernel.current, hEff, hEff]
  exact hCurrent.trans_le (hOld.trans hOther)

theorem RunsMostUrgent.afterMove (h : RunsMostUrgent s.kernel) (hLocks : Locks s)
    (hRanks : Ranks s) (hBounded : AllBounded s.kernel)
    (hSettled : Settled s s.kernel.currentTask) (hMove : Move s e s' out)
    (hCreated : createsTask ⟨s, e, out, s'⟩ = false) (hFresh : FreshWrite ⟨s, e, out, s'⟩)
    (hAlone : RecomputesAlone ⟨s, e, out, s'⟩) : RunsMostUrgent s'.kernel := by
  have hSound := hLocks.sound
  have hPiece : ∀ {piece k' f}, Section s.kernel piece k' f →
      (∀ i r o n v, piece = .rest (.mutexLock i r (.scanned o n v)) →
        RunsMostUrgent (s.kernel.setEffectivePriority o v)) → RunsMostUrgent k' := by
    intro piece k' f hSection hWrite hRun
    obtain ⟨hSame, hStates⟩ | ⟨i, r, o, n, v, hPiece, rfl⟩ :=
      hSection.calm hSound.waiting hRun
    · exact h.congr hSame hStates hSection.current.1 hSection.current.2 hSection.pendSV hRun
    · exact hWrite i r o n v hPiece hRun
  cases hMove with
  | @create c k' err _ _ _ hCreation =>
    have hCurrent := current_creation hCreation
    obtain ⟨hTasks, hCount⟩ | ⟨_, _, _, _, _, hCount, _⟩ := userTasks_creation hCreation
    · exact h.congr (.of_userTasks hTasks) (fun t => by rw [Sys.afterCreate, hTasks])
        hCurrent.1 hCount fun hRun => hCurrent.2.1 ▸ hRun
    · cases hCreation with
      | task => exact absurd hCreated (by simp [createsTask])
      | fail => exact absurd hCount (by simp)
      | sem => exact absurd hCount (Nat.succ_ne_self _).symm
      | mutex => exact absurd hCount (Nat.succ_ne_self _).symm
      | queue => exact absurd hCount (Nat.succ_ne_self _).symm
  | call _ _ _ hSection =>
    refine hPiece hSection ?_
    rintro i r o n v ⟨⟩
  | resume hRun hPending hSection =>
    refine hPiece hSection ?_
    rintro i r o n v ⟨⟩
    obtain ⟨hRises, hOwn⟩ := eff_afterWrite hLocks hBounded hSettled hPending hFresh hAlone
    exact h.afterWrite hRun hRises hOwn
  | @isrSend queue _ k' err _ _ hSection =>
    have hAfter : RunsMostUrgent k' := by
      refine hPiece hSection ?_
      rintro i r o n v ⟨⟩
    split
    · have hQuiet := quiet_countDropped k' queue
      exact hAfter.congr (.of_userTasks hQuiet.userTasks) (fun _ => hQuiet.currentState)
        hQuiet.currentTask hQuiet.taskCount fun hRun => hQuiet.pendSV ▸ hRun
    · exact hAfter
  | isrRecv _ hSection =>
    refine hPiece hSection ?_
    rintro i r o n v ⟨⟩
  | tick =>
    intro hRun
    cases hRun
  | pendSV =>
    exact runsMostUrgent_schedule (k := { s.kernel with pendSV := false }) hSound.current_lt
      fun t ht => hRanks.user ht

end Order

theorem runsMostUrgent_of_boot {image : Image} {calls : List CreateCall} {start : Sys}
    (h : boot image calls = some start) : RunsMostUrgent start.kernel := by
  have hRanks := (ranks_of_boot h).1
  obtain ⟨s, _, hBooting, rfl⟩ := boot_induction (P := fun _ _ => True) h trivial
    fun _ _ _ _ _ _ _ _ _ => trivial
  have hSame := (hBooting.ranks image.idleTaskHandler image.idleTaskStack).1
  refine runsMostUrgent_schedule ?_ fun t ht => ?_
  · have hCurrent : (initIdleTask s.kernel image.idleTaskHandler image.idleTaskStack).currentTask =
        idleTaskIdx := hBooting.currentTask
    rw [hCurrent]
    exact hBooting.taskCount_pos
  · rw [← hSame.eff]
    exact hRanks.user ht

/-- What holds in runs that keep to the conditions. -/
structure Prioritized (s : Sys) : Prop where
  locks : Locks s
  ranks : Ranks s
  acyclic : AcyclicWaits s.kernel
  bounded : AllBounded s.kernel
  settled : ∀ o, Settled s o
  urgent : RunsMostUrgent s.kernel

theorem prioritized_of_boot {image : Image} {calls : List CreateCall} {start : Sys}
    (h : boot image calls = some start) : Prioritized start :=
  ⟨locks_of_boot h, (ranks_of_boot h).1, acyclic_of_boot h, allBounded_of_boot h,
    fun _ => settled_of_boot h, runsMostUrgent_of_boot h⟩

theorem Prioritized.afterMove {s s' : Sys} {e : Event} {out : Option Ret} (h : Prioritized s)
    (hMove : Move s e s' out) (hUser : UserBlocks ⟨s, e, out, s'⟩)
    (hCreated : createsTask ⟨s, e, out, s'⟩ = false) (hPost : AcyclicWaits s'.kernel)
    (hFresh : FreshWrite ⟨s, e, out, s'⟩) (hRepair : RepairsGoOn ⟨s, e, out, s'⟩)
    (hAlone : RecomputesAlone ⟨s, e, out, s'⟩) : Prioritized s' :=
  ⟨h.locks.afterMove hMove hUser, h.ranks.afterMove h.locks hMove, hPost,
    h.bounded.afterMove h.locks hMove h.acyclic hPost hFresh,
    fun o => (h.settled o).afterMove h.locks hMove h.acyclic hPost hFresh hRepair,
    h.urgent.afterMove h.locks h.ranks h.bounded (h.settled _) hMove hCreated hFresh hAlone⟩

/-- As long as nobody waits for himself, recomputations are neither overtaken nor cut short, and
no task recomputes itself while a task that timed out is about to do it too, the most urgent
task runs whenever no switch is pending. -/
theorem most_urgent_runs {trace : List Label} {s : Sys} (h : Reaches trace s)
    (hUsed : ∀ l ∈ trace, WellUsed l) (hCreated : ∀ l ∈ trace, createsTask l = false)
    (hAcyclic : ∀ l ∈ trace, AcyclicWaits l.post.kernel) (hFresh : ∀ l ∈ trace, FreshWrite l)
    (hRepair : ∀ l ∈ trace, RepairsGoOn l) (hAlone : ∀ l ∈ trace, RecomputesAlone l) :
    RunsMostUrgent s.kernel := by
  obtain ⟨image, calls, start, hBoot, hRun⟩ := h
  have hAll := hRun.invariant (I := Prioritized)
    (C := fun l => UserBlocks l ∧ createsTask l = false ∧ AcyclicWaits l.post.kernel ∧
      FreshWrite l ∧ RepairsGoOn l ∧ RecomputesAlone l)
    (prioritized_of_boot hBoot)
    (fun l hTaken hC hPre => by
      obtain ⟨hUser, hCreated, hPost, hFresh, hRepair, hAlone⟩ := hC
      exact hPre.afterMove (move_of_step hTaken) hUser hCreated hPost hFresh hRepair hAlone)
    fun l hl => ⟨(hUsed l hl).1, hCreated l hl, hAcyclic l hl, hFresh l hl, hRepair l hl,
      hAlone l hl⟩
  exact hAll.urgent

/-- Task 2 times out on the mutex of task 1 and takes its donation back; nobody is overtaken. -/
theorem most_urgent_runs_afterTimeout :
    ∃ trace s, Reaches trace s ∧ s.kernel.currentTask = 2 ∧ s.kernel.eff 1 = 5 ∧
      RunsMostUrgent s.kernel := by
  have hCheck : checkBoot sampleImage [sampleTask 5, sampleTask 4, .mutex (some 0)]
      [.call (.taskDelay 1), .pendSV, .call (.mutexLock (some 0) 0), .tick, .pendSV, .resume,
        .call (.mutexLock (some 0) 1), .pendSV, .tick, .pendSV, .resume, .resume, .resume,
        .resume, .resume]
      (fun l => decide (WellUsed l) && !createsTask l && decide (FreshWrite l) &&
        decide (RepairsGoOn l) && decide (RecomputesAlone l) && flatWaits l.post.kernel)
      (fun s => s.kernel.currentTask == 2 && s.kernel.eff 1 == 5) = true := by
    decide +kernel
  obtain ⟨trace, s, hReaches, _, hEach, hFinal⟩ := reaches_of_checkBoot hCheck
  simp only [Bool.and_eq_true, Bool.not_eq_true', beq_iff_eq, decide_eq_true_eq] at hEach hFinal
  have hUsed : ∀ l ∈ trace, WellUsed l := fun l hl => (hEach l hl).1.1.1.1.1
  have hUrgent := most_urgent_runs hReaches hUsed (fun l hl => (hEach l hl).1.1.1.1.2)
    (hReaches.acyclic (fun l hl => (hUsed l hl).1) fun l hl => (hEach l hl).2)
    (fun l hl => (hEach l hl).1.1.1.2) (fun l hl => (hEach l hl).1.1.2)
    fun l hl => (hEach l hl).1.2
  exact ⟨trace, s, hReaches, hFinal.1, hFinal.2, hUrgent⟩

/-- Task 3 times out on the mutex that task 2 was handed, is preempted inside of its
recomputation, and task 2 lowers itself below task 3 by its own. -/
theorem running_task_overtaken :
    ¬ ∀ trace s, Reaches trace s →
      (∀ l ∈ trace, WellUsed l ∧ createsTask l = false) → RunsMostUrgent s.kernel := by
  intro hClaim
  have hCheck : checkBoot sampleImage
      [sampleTask 5, sampleTask 4, sampleTask 1, .mutex (some 0)]
      [.call (.taskDelay 2), .pendSV, .call (.taskDelay 1), .pendSV,
        .call (.mutexLock (some 0) osWaitForever), .tick, .pendSV, .resume,
        .call (.mutexLock (some 0) osWaitForever), .pendSV, .call (.mutexUnlock (some 0)),
        .pendSV, .tick, .pendSV, .resume, .call (.mutexLock (some 0) 1), .pendSV, .tick, .pendSV,
        .resume, .tick, .pendSV, .resume, .resume, .resume]
      (fun l => decide (WellUsed l) && decide (FreshWrite l) && !createsTask l)
      (fun s => !s.kernel.pendSV && decide (3 < s.kernel.taskCount) &&
        s.kernel.currentTask == 2 && (s.kernel.userTasks 3).currentState == .ready &&
        s.kernel.eff 2 == 4 && s.kernel.eff 3 == 1) = true := by
    decide +kernel
  obtain ⟨trace, s, hReaches, _, hEach, hFinal⟩ := reaches_of_checkBoot hCheck
  simp only [Bool.and_eq_true, Bool.not_eq_true', beq_iff_eq, decide_eq_true_eq] at hEach hFinal
  obtain ⟨⟨⟨⟨⟨hRun, hLt⟩, hCurrent⟩, hReady⟩, hRunning⟩, hWaiting⟩ := hFinal
  have hUrgent := hClaim trace s hReaches fun l hl => ⟨(hEach l hl).1.1, (hEach l hl).2⟩
  have hLe : s.kernel.eff s.kernel.currentTask ≤ s.kernel.eff 3 :=
    hUrgent hRun 3 (by decide) hLt hReady
  rw [hCurrent, hRunning, hWaiting] at hLe
  exact absurd hLe (by decide)

end KoRTOS
