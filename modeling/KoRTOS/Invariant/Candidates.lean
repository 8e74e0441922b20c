import KoRTOS.Invariant.Entries
import KoRTOS.Invariant.Graph

/-!
# The candidates of the scheduler

What holds of them in every run, even one in which the idle task blocks: only
the current task is marked as running, and no user task has a lower priority
than user tasks may be created with.
-/

namespace KoRTOS

structure UserPriorities (k : Kernel) : Prop where
  base_le : ∀ t, t ≠ idleTaskIdx → k.base t ≤ osPriorityLowest
  eff_le : ∀ t, t ≠ idleTaskIdx → k.eff t ≤ osPriorityLowest

theorem foldl_le_start {α : Type*} {f : Nat → α → Nat} (hf : ∀ n a, f n a ≤ n) (l : List α)
    (n : Nat) : l.foldl f n ≤ n := by
  induction l generalizing n with
  | nil => exact le_rfl
  | cons a l ih => exact (ih (f n a)).trans (hf n a)

theorem scanOwner_le_base (k : Kernel) (o : TaskId) : scanOwner k o ≤ k.base o := by
  have hWaiter : ∀ wl n j, scanWaiter k wl n j ≤ n := by
    intro wl n j
    unfold scanWaiter
    split
    · split
      · rename_i hLower
        exact hLower.le
      · exact le_rfl
    · exact le_rfl
  refine foldl_le_start (fun n i => ?_) _ _
  unfold scanOwnedMutex
  split
  · exact foldl_le_start (hWaiter _) _ _
  · exact le_rfl

namespace UserPriorities

variable {k k' : Kernel} {o t : TaskId} {p v n : Nat} {piece : Piece} {f : Flow}

theorem of_sameRanks (h : UserPriorities k) (hSame : SameRanks k k') : UserPriorities k' where
  base_le t ht := by
    rw [hSame.base]
    exact h.base_le t ht
  eff_le t ht := by
    rw [hSame.eff]
    exact h.eff_le t ht

theorem of_quiet (h : UserPriorities k) (hQuiet : Quiet k k') : UserPriorities k' :=
  h.of_sameRanks (.of_userTasks hQuiet.userTasks)

theorem setEffectivePriority (h : UserPriorities k)
    (hv : o ≠ idleTaskIdx → v ≤ osPriorityLowest) :
    UserPriorities (k.setEffectivePriority o v) where
  base_le t ht := by
    rw [(Reranked.setEffectivePriority k o v).base]
    exact h.base_le t ht
  eff_le t ht := by
    rw [eff_setEffectivePriority, Function.update_apply]
    split
    · rename_i hEq
      exact hv (hEq ▸ ht)
    · exact h.eff_le t ht

theorem donateLoop (h : UserPriorities k) (next : Option TaskId) :
    UserPriorities (donateLoop p n next k) := by
  induction n generalizing next k with
  | zero => exact h
  | succ n ih =>
    cases next with
    | none => exact h
    | some owner =>
      have hFirst : UserPriorities (if p < (k.userTasks owner).effectivePriority then
          k.setEffectivePriority owner p else k) := by
        split
        · rename_i hLower
          exact h.setEffectivePriority fun hUser => hLower.le.trans (h.eff_le owner hUser)
        · exact h
      rw [KoRTOS.donateLoop]
      generalize (if p < (k.userTasks owner).effectivePriority then
        k.setEffectivePriority owner p else k) = k₁ at hFirst ⊢
      split
      · exact hFirst
      · exact ih hFirst _

theorem recomputeLoop (h : UserPriorities k) (next : Option TaskId) :
    UserPriorities (recomputeLoop n next k) := by
  induction n generalizing next k with
  | zero => exact h
  | succ n ih =>
    cases next with
    | none => exact h
    | some owner =>
      have hFirst : UserPriorities (k.setEffectivePriority owner (scanOwner k owner)) :=
        h.setEffectivePriority fun hUser =>
          (scanOwner_le_base k owner).trans (h.base_le owner hUser)
      rw [KoRTOS.recomputeLoop]
      split
      · exact hFirst
      · exact ih hFirst _

theorem handOff (h : UserPriorities k) {i : MutexId} {j : Nat} :
    UserPriorities (handOff k i j t) := by
  have hReleased : UserPriorities (releaseOwned k i j t) := h.of_sameRanks .releaseOwned
  have hGiven := (hReleased.recomputeLoop (n := osMaxTasks)
    ((releaseOwned k i j t).mutexes i).owner).of_sameRanks (.giveMutex (i := i) (t := t))
  exact hGiven.recomputeLoop _

theorem afterSection (h : UserPriorities k) (hs : Section k piece k' f)
    (hScanned : ∀ i r o n v, piece = .rest (.mutexLock i r (.scanned o n v)) →
      o ≠ idleTaskIdx → v ≤ osPriorityLowest) : UserPriorities k' := by
  have hYield : ∀ {k}, UserPriorities k → UserPriorities k.portYield := fun h =>
    h.of_sameRanks (.of_userTasks Kernel.userTasks_portYield)
  cases hs with
  | take => exact h.of_quiet quiet_takeToken
  | post => exact h.of_quiet quiet_addToken
  | serve hTraffic => exact h.of_quiet hTraffic.quiet
  | wake hTraffic =>
    exact hYield ((h.of_quiet hTraffic.quiet).of_sameRanks (.leaveWaitlist (b := false)))
  | acquire => exact h.of_sameRanks .acquire
  | free => exact h.of_sameRanks .free
  | handOff => exact hYield h.handOff
  | delay => exact h.of_sameRanks .delayCurrent
  | block => exact h.of_sameRanks .enqueueCurrent
  | lockBlock => exact (h.donateLoop _).of_sameRanks .enqueueCurrent
  | lockFull => exact h.donateLoop _
  | write => exact h.setEffectivePriority (hScanned _ _ _ _ _ rfl)
  | _ => exact h

theorem afterTick (h : UserPriorities k) : UserPriorities (osTick k) := by
  have hTask : ∀ k i, SameRanks k (unblockTask k i) := by
    intro k i
    unfold unblockTask removeFromWaitlist
    split
    · dsimp only
      split
      · split
        · exact ((SameRanks.modifyTask rfl rfl).trans
            ((SameRanks.of_userTasks (Kernel.userTasks_setWaitlist ..)).trans
              (.modifyTask rfl rfl))).trans (.modifyTask rfl rfl)
        · exact (SameRanks.modifyTask rfl rfl).trans (.modifyTask rfl rfl)
      · exact (SameRanks.modifyTask rfl rfl).trans (.modifyTask rfl rfl)
    · exact .of_userTasks rfl
  have hFold : ∀ (l : List TaskId) k, UserPriorities k → UserPriorities (l.foldl unblockTask k) := by
    intro l
    induction l with
    | nil => exact fun _ h => h
    | cons i l ih => exact fun k h => ih _ (h.of_sameRanks (hTask k i))
  have hTicked : UserPriorities (updateTickCount k) := h.of_sameRanks (.of_userTasks rfl)
  have hWoken : UserPriorities (unblockTasks (updateTickCount k)) := by
    unfold unblockTasks
    split
    · exact hTicked
    · exact hFold _ _ hTicked
  exact hWoken.of_sameRanks (.of_userTasks Kernel.userTasks_portYield)

theorem afterCreate {c : CreateCall} {err : OsErr} (h : UserPriorities k)
    (hCreation : Creation k c k' err) : UserPriorities k' := by
  obtain ⟨hTasks, _⟩ | ⟨_, _, p, _, hPriority, _, hTasks⟩ := userTasks_creation hCreation
  · exact h.of_sameRanks (.of_userTasks hTasks)
  · constructor
    · intro t ht
      rw [Kernel.base, hTasks]
      split
      · exact hPriority
      · exact h.base_le t ht
    · intro t ht
      rw [Kernel.eff, hTasks]
      split
      · exact hPriority
      · exact h.eff_le t ht

end UserPriorities

def OnlyCurrentRuns (k : Kernel) : Prop :=
  ∀ t, (k.userTasks t).currentState = .running → t = k.currentTask

section Running

variable {k k' : Kernel} {t : TaskId} {rest : Option Pending}

theorem Reblocks.running (hr : Reblocks k k' rest)
    (h : (k'.userTasks t).currentState = .running) :
    (k.userTasks t).currentState = .running := by
  cases hr with
  | same hSame => rwa [hSame.currentState] at h
  | leave _ hSame =>
    rw [hSame.currentState, userTasks_leaveWaitlist] at h
    split at h
    · cases h
    · exact h
  | delay =>
    simp only [delayCurrent, Kernel.userTasks_portYield, Kernel.userTasks_modifyTask] at h
    split at h
    · cases h
    · exact h
  | enter hSame =>
    rw [userTasks_enqueueCurrent] at h
    split at h
    · cases h
    · rwa [hSame.currentState] at h

theorem running_of_osTick (h : ((osTick k).userTasks t).currentState = .running) :
    (k.userTasks t).currentState = .running := by
  have hTask : ∀ k i, ((unblockTask k i).userTasks t).currentState = .running →
      (k.userTasks t).currentState = .running := by
    intro k i hRunning
    by_cases hEq : t = i
    · subst hEq
      unfold unblockTask at hRunning
      split at hRunning
      · simp at hRunning
      · exact hRunning
    · rwa [frame_unblockTask.2 t hEq] at hRunning
  have hFold : ∀ (l : List TaskId) k, ((l.foldl unblockTask k).userTasks t).currentState =
      .running → (k.userTasks t).currentState = .running := by
    intro l
    induction l with
    | nil => exact fun _ h => h
    | cons i l ih => exact fun k h => hTask k i (ih _ h)
  rw [osTick, Kernel.userTasks_portYield, unblockTasks] at h
  split at h
  · exact h
  · exact hFold _ (updateTickCount k) h

theorem OnlyCurrentRuns.afterSchedule (h : OnlyCurrentRuns k) :
    OnlyCurrentRuns (osScheduleNextTask k) := by
  have hReadied : ∀ t, ((readied k).userTasks t).currentState ≠ .running := by
    intro t hRunning
    rw [userTasks_readied] at hRunning
    split at hRunning
    · cases hRunning
    · rename_i hOther
      exact hOther ⟨h t hRunning, hRunning⟩
  intro t hRunning
  rw [osScheduleNextTask_eq] at hRunning ⊢
  split at hRunning
  · exact absurd hRunning (hReadied t)
  · rename_i hMany
    rw [if_neg hMany]
    rw [userTasks_dispatch] at hRunning
    split at hRunning
    · rename_i hEq
      exact hEq
    · exact absurd hRunning (hReadied t)

end Running

/-- What the scheduler may rely on in every run. -/
structure Candidates (s : Sys) : Prop where
  running : OnlyCurrentRuns s.kernel
  priorities : UserPriorities s.kernel
  scanned_le : ∀ {t i r o n v}, s.pending t = some (.mutexLock i r (.scanned o n v)) →
    o ≠ idleTaskIdx → v ≤ osPriorityLowest

namespace Candidates

variable {s s' : Sys} {piece : Piece} {k' : Kernel} {f : Flow} {e : Event} {out : Option Ret}

theorem afterPiece (h : Candidates s) (hListed : Listed s.kernel)
    (hSection : Section s.kernel piece k' f)
    (hPiece : ∀ rest, piece = .rest rest → s.pending s.kernel.currentTask = some rest) :
    Candidates (s.afterPiece k' f) where
  running t hRunning := by
    rw [show (s.afterPiece k' f).kernel = k' from rfl, hSection.current.1]
    exact h.running t ((hSection.reblocks hListed).running hRunning)
  priorities := by
    refine h.priorities.afterSection hSection ?_
    rintro i r o n v rfl
    exact h.scanned_le (hPiece _ rfl)
  scanned_le {t i r o n v} hPending hUser := by
    rw [pending_afterPiece hSection] at hPending
    split at hPending
    · cases hSection with
      | block hBlocks => cases hBlocks <;> cases hPending
      | stage hNext =>
        cases hPending
        cases hNext
        exact (scanOwner_le_base _ o).trans (h.priorities.base_le o hUser)
      | _ => cases hPending
    · exact h.scanned_le hPending hUser

theorem afterIsr {c : ApiCall} {err : OsErr} {data : List U8} (h : Candidates s)
    (hListed : Listed s.kernel) (hSection : Section s.kernel (.call c) k' (.returned err data)) :
    Candidates { s with kernel := k' } where
  running t hRunning := by
    rw [show ({ s with kernel := k' } : Sys).kernel = k' from rfl, hSection.current.1]
    exact h.running t ((hSection.reblocks hListed).running hRunning)
  priorities := h.priorities.afterSection hSection nofun
  scanned_le := h.scanned_le

theorem congr (h : Candidates s) (hQuiet : Quiet s.kernel k') :
    Candidates { s with kernel := k' } where
  running t hRunning := by
    dsimp only at hRunning ⊢
    rw [hQuiet.userTasks] at hRunning
    rw [hQuiet.currentTask]
    exact h.running t hRunning
  priorities := h.priorities.of_quiet hQuiet
  scanned_le := h.scanned_le

theorem afterMove (h : Candidates s) (hListed : Listed s.kernel) (hMove : Move s e s' out) :
    Candidates s' := by
  cases hMove with
  | create _ _ _ hCreation =>
    refine ⟨?_, h.priorities.afterCreate hCreation, h.scanned_le⟩
    intro t hRunning
    dsimp only [Sys.afterCreate] at hRunning ⊢
    rw [(current_creation hCreation).1]
    obtain ⟨hTasks, _⟩ | ⟨_, _, _, _, _, _, hTasks⟩ := userTasks_creation hCreation
    · exact h.running t (hTasks ▸ hRunning)
    · rw [hTasks] at hRunning
      split at hRunning
      · cases hRunning
      · exact h.running t hRunning
  | call _ _ _ hSection => exact h.afterPiece hListed hSection fun _ h => nomatch h
  | resume _ hPending hSection =>
    refine h.afterPiece hListed hSection ?_
    rintro rest ⟨⟩
    exact hPending
  | isrSend _ hSection =>
    have hAfter := h.afterIsr hListed hSection
    split
    · exact hAfter.congr (quiet_countDropped _ _)
    · exact hAfter
  | isrRecv _ hSection => exact h.afterIsr hListed hSection
  | tick =>
    refine ⟨fun t hRunning => ?_, h.priorities.afterTick, h.scanned_le⟩
    rw [show (osTick s.kernel).currentTask = s.kernel.currentTask from frame_osTick.1]
    exact h.running t (running_of_osTick hRunning)
  | pendSV =>
    have hReady : OnlyCurrentRuns { s.kernel with pendSV := false } := h.running
    have hSame : SameButStates { s.kernel with pendSV := false } (pendSVHandler s.kernel) :=
      sameButStates_osScheduleNextTask
    exact ⟨hReady.afterSchedule, h.priorities.of_sameRanks ⟨hSame.base, hSame.eff⟩, h.scanned_le⟩

end Candidates

theorem candidates_of_boot {image : Image} {calls : List CreateCall} {start : Sys}
    (h : boot image calls = some start) : Candidates start := by
  have hIdle := (idle_of_boot h).2
  obtain ⟨s, _, hBooting, rfl⟩ := boot_induction (P := fun _ _ => True) h trivial
    fun _ _ _ _ _ _ _ _ _ => trivial
  have hSame := sameButStates_osScheduleNextTask
    (k := initIdleTask s.kernel image.idleTaskHandler image.idleTaskStack)
  have hTasks : ∀ t, t ≠ idleTaskIdx →
      (initIdleTask s.kernel image.idleTaskHandler image.idleTaskStack).userTasks t =
        s.kernel.userTasks t := by
    intro t ht
    rw [initIdleTask, Kernel.userTasks_modifyTask, if_neg ht]
  refine ⟨OnlyCurrentRuns.afterSchedule ?_, UserPriorities.of_sameRanks ?_ ⟨hSame.base, hSame.eff⟩,
    fun hPending => ?_⟩
  · intro t hRunning
    rw [initIdleTask, Kernel.userTasks_modifyTask] at hRunning
    split at hRunning
    · cases hRunning
    · exact absurd ((hBooting.ready t).symm.trans hRunning) (by simp)
  · constructor
    · intro t ht
      rw [Kernel.base, hTasks t ht]
      exact hBooting.user t
    · intro t ht
      rw [Kernel.eff, hTasks t ht, hBooting.rank t]
      exact hBooting.user t
  · rw [hIdle] at hPending
    cases hPending

theorem candidates_of_run {start s : Sys} {trace : List Label} (hRun : Run start trace s)
    (hStart : Seated start.kernel ∧ Candidates start) : Seated s.kernel ∧ Candidates s :=
  hRun.invariant (I := fun s => Seated s.kernel ∧ Candidates s) (C := fun _ => True) hStart
    (fun _ hTaken _ hPre =>
      have hMove := move_of_step hTaken
      ⟨hPre.1.afterMove hMove, hPre.2.afterMove hPre.1.entries.listed hMove⟩) fun _ _ => trivial

theorem Reaches.candidates {trace : List Label} {s : Sys} (h : Reaches trace s) :
    Candidates s := by
  obtain ⟨image, calls, start, hBoot, hRun⟩ := h
  exact (candidates_of_run hRun ⟨.of_sound (sound_of_boot hBoot), candidates_of_boot hBoot⟩).2

end KoRTOS
