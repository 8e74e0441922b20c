import KoRTOS.Invariant.Graph

/-!
# Transitions and the waits-for graph

`Evolves` says what a transition of the system does to the waits-for graph and
to the priorities. From it follows that effective priorities are never less
urgent than base priorities, so that every user task has a user task's priority.
-/

namespace KoRTOS

open Inheritance

inductive Evolves (s : Sys) : Event → Sys → Prop
  | piece {e s' p} (hPiece : ∀ rest, p = .rest rest →
        e = .resume ∧ s.pending s.kernel.currentTask = some rest)
      (hBase : s'.kernel.base = s.kernel.base) (hInherits : Inherits s.kernel p s'.kernel) :
      Evolves s e s'
  | tick {s'} (hBase : s'.kernel.base = s.kernel.base) (hEff : s'.kernel.eff = s.kernel.eff)
      (hNext : ∀ t o, nextOwner s'.kernel t = some o → nextOwner s.kernel t = some o) :
      Evolves s .tick s'
  | join {e s' p} (hPriority : p ≤ osPriorityLowest)
      (hBase : s'.kernel.base = Function.update s.kernel.base s.kernel.taskCount p)
      (hEff : s'.kernel.eff = Function.update s.kernel.eff s.kernel.taskCount p)
      (hNext : nextOwner s'.kernel = nextOwner s.kernel) : Evolves s e s'

theorem Evolves.of_call {s s' : Sys} {e : Event} {c : ApiCall}
    (h : s'.kernel.base = s.kernel.base ∧ Inherits s.kernel (.call c) s'.kernel) :
    Evolves s e s' :=
  .piece (p := .call c) (fun _ hPiece => nomatch hPiece) h.1 h.2

theorem Inherits.congr {k k' k'' : Kernel} {piece : Piece} (h : Inherits k piece k')
    (hEff : k''.eff = k'.eff) (hNext : nextOwner k'' = nextOwner k') : Inherits k piece k'' := by
  cases h with
  | still hEff' hNext' => exact .still (hEff.trans hEff') (hNext.trans hNext')
  | donate hOwner hOther hFree hEff' hNext' =>
    exact .donate hOwner hOther hFree (hEff.trans hEff') (hNext.trans hNext')
  | write hEff' hNext' => exact .write (hEff.trans hEff') (hNext.trans hNext')
  | handOff hOwner hWaits hFree hNext' hEff' hGiver hTaker =>
    rw [← hNext] at hNext' hGiver hTaker
    exact .handOff hOwner hWaits hFree hNext' (hEff.trans hEff') hGiver hTaker

section Evolution

variable {s s' : Sys} {piece : Piece} {f : Flow} {k' : Kernel} {e : Event} {out : Option Ret}
  {t o : TaskId}

theorem ranks_creation {k : Kernel} {c : CreateCall} {err : OsErr} (h : Creation k c k' err) :
    SameRanks k k' ∨
    ∃ p, p ≤ osPriorityLowest ∧ k'.base = Function.update k.base k.taskCount p ∧
      k'.eff = Function.update k.eff k.taskCount p := by
  obtain ⟨hTasks, _⟩ | ⟨handler, sp, p, _, hPriority, _, hTasks⟩ := userTasks_creation h
  · exact .inl (.of_userTasks hTasks)
  · refine .inr ⟨p, hPriority, funext fun t => ?_, funext fun t => ?_⟩
    · rw [Kernel.base, hTasks, Function.update_apply]
      split <;> rfl
    · rw [Kernel.eff, hTasks, Function.update_apply]
      split <;> rfl

namespace Locks

theorem evolves_isr {c : ApiCall} {err : OsErr} {data : List U8} (h : Locks s)
    (hSection : Section s.kernel (.call c) k' (.returned err data))
    (hQueue : ∀ mtx, c ≠ .mutexUnlock mtx) :
    k'.base = s.kernel.base ∧ Inherits s.kernel (.call c) k' := by
  refine ⟨hSection.base, h.inherits hSection ?_⟩
  rintro (hRest | ⟨mtx, hUnlock⟩)
  · exact absurd rfl hRest
  · exact absurd (Piece.call.inj hUnlock) (hQueue mtx)

theorem evolves_create {c : CreateCall} {err : OsErr} (h : Locks s)
    (hFresh : s.created.fresh c = true) (hCreation : Creation s.kernel c k' err) :
    Evolves s (.call (.create c)) (s.afterCreate c k' err) := by
  have hNext : nextOwner k' = nextOwner s.kernel :=
    nextOwner_congr (blockedOn_creation h.sound.waiting hCreation)
      (h.ownerOf_creation hFresh hCreation)
  obtain hRanks | ⟨p, hPriority, hBase, hEff⟩ := ranks_creation hCreation
  · exact .of_call (c := .create c) ⟨hRanks.base, .still hRanks.eff hNext⟩
  · exact .join hPriority hBase hEff hNext

theorem evolves (h : Locks s) (hMove : Move s e s' out) : Evolves s e s' := by
  cases hMove with
  | create _ _ hFresh hCreation => exact h.evolves_create hFresh hCreation
  | call hRun _ _ hSection =>
    exact .of_call ⟨hSection.base, h.inherits hSection fun _ => h.sound.current_free hRun⟩
  | resume hRun hPending hSection =>
    refine .piece ?_ hSection.base (h.inherits hSection fun _ => h.sound.current_free hRun)
    rintro rest ⟨⟩
    exact ⟨rfl, hPending⟩
  | @isrSend queue _ k' err _ _ hSection =>
    obtain ⟨hBase, hInherits⟩ := h.evolves_isr hSection nofun
    split
    · have hQuiet := quiet_countDropped k' queue
      exact .of_call ⟨hQuiet.base.trans hBase,
        hInherits.congr (SameRanks.of_userTasks hQuiet.userTasks).eff
          (nextOwner_congr hQuiet.blockedOn hQuiet.ownerOf)⟩
    · exact .of_call ⟨hBase, hInherits⟩
  | isrRecv _ hSection => exact .of_call (h.evolves_isr hSection nofun)
  | tick =>
    have hTicked := h.sound.waiting.updateTickCount.ticked_unblockTasks
    refine .tick hTicked.base hTicked.eff fun t o hNext => ?_
    obtain ⟨i, hOn, hOwner⟩ := nextOwner_eq_some.mp hNext
    have hOwners : (osTick s.kernel).ownerOf = s.kernel.ownerOf := hTicked.ownerOf
    rw [hOwners] at hOwner
    exact nextOwner_eq_some.mpr ⟨i, (hTicked.blockedOn_eq_some hOn).1, hOwner⟩
  | pendSV =>
    have hSame : SameButStates { s.kernel with pendSV := false } (pendSVHandler s.kernel) :=
      sameButStates_osScheduleNextTask
    exact .of_call (c := .taskDelay 0)
      ⟨hSame.base, .still hSame.eff (nextOwner_congr hSame.blockedOn hSame.ownerOf)⟩

theorem fresh_least (h : Locks s) {i : MutexId} {r : OsErr} {o : TaskId} {n v : Nat}
    (hFresh : FreshWrite ⟨s, .resume, out, s'⟩)
    (hPending : s.pending s.kernel.currentTask = some (.mutexLock i r (.scanned o n v))) :
    IsLeast (claims s.kernel.base s.kernel.eff (nextOwner s.kernel) o) v := by
  rw [hFresh.eq hPending]
  exact scanOwner_least h.sound.waiting.listed h.sound.waiting.fibers h.owning o

end Locks
end Evolution

/-- A task is at least as urgent as its base priority, and only the idle task has a lower
one than user tasks may have. -/
structure Ranks (s : Sys) : Prop where
  eff_le : ∀ t, s.kernel.eff t ≤ s.kernel.base t
  base_le : ∀ t, t ≠ idleTaskIdx → s.kernel.base t ≤ osPriorityLowest
  scanned_le : ∀ {t i r o n v}, s.pending t = some (.mutexLock i r (.scanned o n v)) →
    v ≤ s.kernel.base o

namespace Ranks

variable {s s' : Sys} {piece : Piece} {f : Flow} {k' : Kernel} {e : Event} {out : Option Ret}
  {t : TaskId}

theorem user (h : Ranks s) (ht : t ≠ idleTaskIdx) : s.kernel.eff t ≤ osPriorityLowest :=
  (h.eff_le t).trans (h.base_le t ht)

theorem scanned_afterPiece (h : Ranks s) (hLocks : Locks s)
    (hSection : Section s.kernel piece k' f) {i : MutexId} {r : OsErr} {o : TaskId} {n v : Nat}
    (hPiece : ∀ rest, piece = .rest rest → s.pending s.kernel.currentTask = some rest)
    (hPending : (s.afterPiece k' f).pending t = some (.mutexLock i r (.scanned o n v))) :
    o < s.kernel.taskCount ∧ v ≤ s.kernel.base o := by
  have hWaiting := hLocks.sound.waiting
  rw [pending_afterPiece hSection] at hPending
  split at hPending
  · cases hSection with
    | block hBlocks => cases hBlocks <;> cases hPending
    | stage hNext =>
      cases hPending
      cases hNext
      exact ⟨hLocks.target_lt (hPiece _ rfl) rfl,
        (scanOwner_least hWaiting.listed hWaiting.fibers hLocks.owning o).2 (.inl rfl)⟩
    | _ => cases hPending
  · exact ⟨hLocks.target_lt hPending rfl, h.scanned_le hPending⟩

theorem scanned_afterMove (h : Ranks s) (hLocks : Locks s) (hMove : Move s e s' out)
    {i : MutexId} {r : OsErr} {o : TaskId} {n v : Nat}
    (hPending : s'.pending t = some (.mutexLock i r (.scanned o n v))) :
    o < s.kernel.taskCount ∧ v ≤ s.kernel.base o := by
  cases hMove with
  | call _ _ _ hSection =>
    exact h.scanned_afterPiece hLocks hSection (fun _ h => nomatch h) hPending
  | resume _ hRest hSection =>
    refine h.scanned_afterPiece hLocks hSection ?_ hPending
    rintro rest ⟨⟩
    exact hRest
  | _ => exact ⟨hLocks.target_lt hPending rfl, h.scanned_le hPending⟩

theorem afterMove (h : Ranks s) (hLocks : Locks s) (hMove : Move s e s' out) : Ranks s' := by
  have hEvolves := hLocks.evolves hMove
  cases hEvolves with
  | piece hPiece hBase hInherits =>
    refine ⟨fun t => ?_, fun t => ?_, fun hPending => ?_⟩
    · rw [hBase]
      cases hInherits with
      | still hEff =>
        rw [hEff]
        exact h.eff_le t
      | donate _ _ _ hEff =>
        rw [hEff, donate]
        split
        · exact (min_le_left _ _).trans (h.eff_le t)
        · exact h.eff_le t
      | write hEff =>
        rw [hEff, Function.update_apply]
        split
        · rename_i hEq
          subst hEq
          exact h.scanned_le (hPiece _ rfl).2
        · exact h.eff_le t
      | handOff _ _ _ _ hEff hGiver hTaker =>
        rw [hEff, Function.update_apply, Function.update_apply]
        split
        · rename_i hEq
          subst hEq
          exact hTaker.2 (.inl rfl)
        · split
          · rename_i hEq
            subst hEq
            exact hGiver.2 (.inl rfl)
          · exact h.eff_le t
    · rw [hBase]
      exact h.base_le t
    · rw [hBase]
      exact (h.scanned_afterMove hLocks hMove hPending).2
  | tick hBase hEff =>
    refine ⟨fun t => ?_, fun t => ?_, fun hPending => ?_⟩
    · rw [hBase, hEff]
      exact h.eff_le t
    · rw [hBase]
      exact h.base_le t
    · rw [hBase]
      exact (h.scanned_afterMove hLocks hMove hPending).2
  | join hPriority hBase hEff =>
    refine ⟨fun t => ?_, fun t ht => ?_, fun hPending => ?_⟩
    · rw [hBase, hEff, Function.update_apply, Function.update_apply]
      split
      · exact le_rfl
      · exact h.eff_le t
    · rw [hBase, Function.update_apply]
      split
      · exact hPriority
      · exact h.base_le t ht
    · obtain ⟨hLt, hLe⟩ := h.scanned_afterMove hLocks hMove hPending
      rw [hBase, Function.update_of_ne hLt.ne]
      exact hLe

end Ranks

theorem Booting.ranks {s : Sys} (h : Booting s) (handler stack : U32) :
    SameRanks (initIdleTask s.kernel handler stack) (osKernelStart s.kernel handler stack) ∧
    (∀ t, (initIdleTask s.kernel handler stack).eff t =
      (initIdleTask s.kernel handler stack).base t) ∧
    ∀ t, t ≠ idleTaskIdx → (initIdleTask s.kernel handler stack).base t ≤ osPriorityLowest := by
  have hSame := sameButStates_osScheduleNextTask (k := initIdleTask s.kernel handler stack)
  refine ⟨⟨hSame.base, hSame.eff⟩, fun t => ?_, fun t ht => ?_⟩
  · rw [initIdleTask, Kernel.eff, Kernel.base, Kernel.userTasks_modifyTask]
    split
    · rfl
    · exact h.rank t
  · rw [initIdleTask, Kernel.base, Kernel.userTasks_modifyTask, if_neg ht]
    exact h.user t

theorem ranks_of_boot {image : Image} {calls : List CreateCall} {start : Sys}
    (h : boot image calls = some start) :
    Ranks start ∧ ∀ t, start.kernel.eff t = start.kernel.base t := by
  obtain ⟨s, _, hBooting, rfl⟩ := boot_induction (P := fun _ _ => True) h trivial
    fun _ _ _ _ _ _ _ _ _ => trivial
  obtain ⟨hRanks, hEq, hUser⟩ := hBooting.ranks image.idleTaskHandler image.idleTaskStack
  have hSame : ∀ t, (osKernelStart s.kernel image.idleTaskHandler image.idleTaskStack).eff t =
      (osKernelStart s.kernel image.idleTaskHandler image.idleTaskStack).base t := by
    intro t
    rw [hRanks.eff, hRanks.base]
    exact hEq t
  refine ⟨⟨fun t => (hSame t).le, fun t ht => ?_, fun hPending => ?_⟩, hSame⟩
  · dsimp only
    rw [hRanks.base]
    exact hUser t ht
  · rw [(idle_of_boot h).2] at hPending
    cases hPending

theorem nextOwner_of_boot {image : Image} {calls : List CreateCall} {start : Sys}
    (h : boot image calls = some start) : nextOwner start.kernel = fun _ => none := by
  funext t
  apply nextOwner_eq_none
  intro i hOn
  have hMem := (sound_of_boot h).waiting.mem_waiters.mpr hOn
  rw [(idle_of_boot h).1] at hMem
  cases hMem

theorem acyclic_of_boot {image : Image} {calls : List CreateCall} {start : Sys}
    (h : boot image calls = some start) : AcyclicWaits start.kernel := by
  rw [AcyclicWaits, nextOwner_of_boot h]
  exact acyclic_of_rank (fun _ => 0) nofun

/-- The invariants of the runs in which the idle task does not block. -/
theorem ranks_of_run {start s : Sys} {trace : List Label} (hRun : Run start trace s)
    (hStart : Locks start ∧ Ranks start) (hUser : ∀ l ∈ trace, UserBlocks l) :
    Locks s ∧ Ranks s :=
  hRun.invariant (I := fun s => Locks s ∧ Ranks s) hStart
    (fun _ hTaken hUser hPre =>
      have hMove := move_of_step hTaken
      ⟨hPre.1.afterMove hMove hUser, hPre.2.afterMove hPre.1 hMove⟩) hUser

theorem Reaches.ranks {trace : List Label} {s : Sys} (h : Reaches trace s)
    (hUser : ∀ l ∈ trace, UserBlocks l) : Ranks s := by
  obtain ⟨image, calls, start, hBoot, hRun⟩ := h
  exact (ranks_of_run hRun ⟨locks_of_boot hBoot, (ranks_of_boot hBoot).1⟩ hUser).2

end KoRTOS
