import KoRTOS.Invariant.Entries

/-!
# Where a blocked task is

The other direction of `UserEntries`, also for every run: a user task whose
`blocked_waitlist` is set is in that waitlist, whose primitive was created, and
the reason for which a task is blocked agrees with the place.
-/

namespace KoRTOS

def reasonOf : Option WaitlistRef → BlockReason
  | none => .delay
  | some w => w.blockReason

structure Placed (k : Kernel) : Prop where
  listed : ∀ {t w}, t ≠ idleTaskIdx → k.blockedOn t = some w → t ∈ k.waiters w
  reason : ∀ {t}, t ≠ idleTaskIdx → (k.userTasks t).currentState = .blocked →
    (k.userTasks t).blockReason = reasonOf (k.blockedOn t)

namespace Placed

variable {k k' : Kernel} {t : TaskId} {w : WaitlistRef} {j : Nat} {b : Bool} {n : U32}

theorem congr (h : Placed k) (hSame : SameBlocking k k') : Placed k' where
  listed ht hOn := by
    rw [hSame.waiters]
    exact h.listed ht (hSame.blockedOn ▸ hOn)
  reason ht hState := by
    rw [hSame.blockReason, hSame.blockedOn]
    exact h.reason ht (hSame.currentState _ ▸ hState)

theorem modifyTask (h : Placed k) {f : Tcb → Tcb}
    (hState : (f (k.userTasks t)).currentState ≠ .blocked)
    (hOn : t ≠ idleTaskIdx → ∀ {w}, (f (k.userTasks t)).blockedWaitlist = some w →
      k.blockedOn t = some w) : Placed (k.modifyTask t f) := by
  constructor
  · intro u w hu hu'
    rw [Kernel.waiters, Kernel.waitlist_modifyTask]
    rw [Kernel.blockedOn, Kernel.userTasks_modifyTask] at hu'
    split at hu'
    · subst u
      exact h.listed hu (hOn hu hu')
    · exact h.listed hu hu'
  · intro u hu hBlocked
    rw [Kernel.userTasks_modifyTask] at hBlocked
    rw [Kernel.blockedOn, Kernel.userTasks_modifyTask]
    split at hBlocked
    · exact absurd hBlocked hState
    · rename_i hne
      rw [if_neg hne]
      exact h.reason hu hBlocked

theorem afterLeave (h : Placed k) (hk : Listed k)
    (hj : ∃ hj : j < (k.waiters w).length, (k.waiters w)[j] = t) :
    Placed (leaveWaitlist k w j t b) := by
  obtain ⟨hj, hAt⟩ := hj
  constructor
  · intro u w' hu hOn
    rw [blockedOn_leaveWaitlist, Function.update_apply] at hOn
    rw [hk.leave hj, Function.update_apply]
    split at hOn
    · cases hOn
    · rename_i hne
      have hMem := h.listed hu hOn
      split
      · subst w'
        -- only the entry of the task itself is taken out
        have hPerm := (List.getElem_cons_eraseIdx_perm hj).mem_iff (a := u)
        rw [hAt] at hPerm
        exact (List.mem_cons.mp (hPerm.mpr hMem)).resolve_left hne
      · exact hMem
  · intro u hu hState
    rw [userTasks_leaveWaitlist] at hState
    rw [blockedOn_leaveWaitlist, userTasks_leaveWaitlist, Function.update_apply]
    split at hState
    · cases hState
    · rename_i hne
      rw [if_neg hne, if_neg hne]
      exact h.reason hu hState

theorem afterEnqueue (h : Placed k) (hk : Listed k) :
    Placed (enqueueCurrent k w n w.blockReason) := by
  constructor
  · intro u w' hu hOn
    rw [blockedOn_enqueueCurrent, Function.update_apply] at hOn
    rw [waiters_enqueueCurrent hk, Function.update_apply]
    split at hOn
    · cases hOn
      subst u
      rw [if_pos rfl]
      exact List.mem_append_right _ (List.mem_singleton_self _)
    · split
      · subst w'
        exact List.mem_append_left _ (h.listed hu hOn)
      · exact h.listed hu hOn
  · intro u hu hState
    rw [blockedOn_enqueueCurrent, userTasks_enqueueCurrent, Function.update_apply]
    rw [userTasks_enqueueCurrent] at hState
    split at hState
    · rename_i hEq
      rw [if_pos hEq, if_pos hEq]
      rfl
    · rename_i hne
      rw [if_neg hne, if_neg hne]
      exact h.reason hu hState

theorem afterDelay (h : Placed k) (hFree : k.currentTask ≠ idleTaskIdx →
    k.blockedOn k.currentTask = none) : Placed (delayCurrent k n) := by
  constructor
  · intro u w hu hOn
    rw [blockedOn_delayCurrent] at hOn
    rw [delayCurrent, (SameShape.portYield _).waiters, Kernel.waiters, Kernel.waitlist_modifyTask]
    exact h.listed hu hOn
  · intro u hu hState
    rw [blockedOn_delayCurrent]
    rw [delayCurrent, Kernel.userTasks_portYield, Kernel.userTasks_modifyTask] at hState ⊢
    split at hState
    · rename_i hEq
      subst u
      rw [if_pos rfl, hFree hu]
      rfl
    · rename_i hne
      rw [if_neg hne]
      exact h.reason hu hState

theorem afterUnblockTask (h : Placed k) (hk : Listed k) (i : TaskId) :
    Placed (unblockTask k i) := by
  rcases hk.unblockTask_cases i with ⟨_, hEq⟩ | ⟨_, _, hEq⟩ | ⟨_, w, j, _, hj, hEq⟩ |
    ⟨_, w, hOn, _, hEq⟩
  · rw [hEq]
    exact h
  · rw [hEq]
    apply h.modifyTask
    · exact nofun
    · intro _ w hSome
      cases hSome
  · rw [hEq]
    exact h.afterLeave hk hj
  · rw [hEq]
    apply h.modifyTask
    · exact nofun
    · intro _ w' hSome
      exact hOn.trans hSome

theorem afterUnblockTasks (h : Placed k) (hEntries : UserEntries k) :
    Placed (unblockTasks k) ∧ Ticked k (unblockTasks k) := by
  have hRounds : UserEntries (unblockTasks k) ∧ Placed (unblockTasks k) ∧
      Ticked k (unblockTasks k) :=
    unblockTasks_induction (P := fun k' => UserEntries k' ∧ Placed k' ∧ Ticked k k')
      ⟨hEntries, h, .refl k⟩ fun _ i hUser _ ⟨hEntries', hPlaced', hTicked⟩ =>
        ⟨hEntries'.afterUnblockTask hUser, hPlaced'.afterUnblockTask hEntries'.listed i,
          hTicked.trans (ticked_unblockTask hEntries'.listed fun _ => hPlaced'.listed hUser)⟩
  exact hRounds.2

theorem afterTick (h : Placed k) (hEntries : UserEntries k) :
    Placed (osTick k) ∧ Ticked (updateTickCount k) (unblockTasks (updateTickCount k)) := by
  have hSame : SameBlocking k (updateTickCount k) :=
    SameBlocking.of_userTasks rfl rfl (by funext w; cases w <;> rfl)
  obtain ⟨hPlaced, hTicked⟩ := (h.congr hSame).afterUnblockTasks (hEntries.congr hSame)
  exact ⟨hPlaced.congr (SameShape.portYield _).sameBlocking, hTicked⟩

theorem afterReblocks {rest : Option Pending} (h : Placed k) (hSeated : Seated k)
    (hReblocks : Reblocks k k' rest) (hRun : rest ≠ none → k.pendSV = false) : Placed k' := by
  have hListed := hSeated.entries.listed
  cases hReblocks with
  | same hSame => exact h.congr hSame
  | leave hj hSame => exact (h.afterLeave hListed hj).congr hSame
  | delay hUser =>
    refine h.afterDelay fun _ => ?_
    cases hOn : k.blockedOn k.currentTask with
    | none => rfl
    | some w =>
      have hState := (hSeated.entries.blocked hUser (h.listed hUser hOn)).2.2
      exact absurd hState (hSeated.current_free (hRun (by simp)) hUser)
  | enter hSame =>
    apply (h.congr hSame).afterEnqueue
    intro w
    rw [hSame.waitlist, hSame.waiters]
    exact hListed w

theorem afterSchedule (h : Placed k) : Placed (osScheduleNextTask k) := by
  have hSame := sameButStates_osScheduleNextTask (k := k)
  constructor
  · intro t w ht hOn
    rw [hSame.blockedOn] at hOn
    rw [Kernel.waiters, hSame.waitlist]
    exact h.listed ht hOn
  · intro t ht hState
    rw [hSame.blockReason, hSame.blockedOn]
    exact h.reason ht (blocked_of_schedule hState)

end Placed

/-- The same with the fact that what tasks wait for was created. -/
structure Housed (s : Sys) : Prop where
  placed : Placed s.kernel
  pending : PendingCreated s
  created : ∀ {t w}, s.kernel.blockedOn t = some w → s.created.has w = true

namespace Housed

variable {s s' : Sys} {k' : Kernel} {piece : Piece} {f : Flow} {e : Event} {out : Option Ret}

theorem of_sound (h : Sound s) : Housed s where
  placed := by
    constructor
    · intro t w _ hOn
      exact h.waiting.mem_waiters.mpr hOn
    · intro t _ hState
      cases hOn : s.kernel.blockedOn t with
      | none =>
        obtain ⟨_, _, _, hDelay⟩ | ⟨hFree, _⟩ := h.waiting.unlisted hOn
        · exact hDelay
        · exact absurd hState hFree
      | some w => exact (h.waiting.blocked hOn).2.2.2
  pending := h.pending_created
  created {t w} hOn := by
    cases hHas : s.created.has w with
    | true => rfl
    | false =>
      have hMem := h.waiting.mem_waiters.mpr hOn
      rw [h.waiters_absent hHas] at hMem
      cases hMem

theorem afterPiece (h : Housed s) (hSeated : Seated s.kernel)
    (hs : Section s.kernel piece k' f) (hRun : s.kernel.pendSV = false)
    (hPending : PendingCreated (s.afterPiece k' f)) : Housed (s.afterPiece k' f) := by
  have hReblocks := hs.reblocks hSeated.entries.listed
  refine ⟨h.placed.afterReblocks hSeated hReblocks fun _ => hRun, hPending, ?_⟩
  intro t w hOn
  obtain hOn | ⟨rfl, rest, hRest, hWaits⟩ := hReblocks.blockedOn hOn
  · exact h.created hOn
  · have hNow : (s.afterPiece k' f).pending s.kernel.currentTask = some rest := by
      rw [pending_afterPiece hs, if_pos rfl, hRest]
    exact hPending _ rest w hNow (Pending.uses_of_waitsOn hWaits)

theorem afterIsr {err : OsErr} {data : List U8} (h : Housed s) (hSeated : Seated s.kernel)
    (hs : Section s.kernel piece k' (.returned err data)) : Housed { s with kernel := k' } := by
  have hReblocks := hs.reblocks hSeated.entries.listed
  refine ⟨h.placed.afterReblocks hSeated hReblocks fun hRest => absurd rfl hRest, h.pending, ?_⟩
  intro t w hOn
  obtain hOn | ⟨_, _, hRest, _⟩ := hReblocks.blockedOn hOn
  · exact h.created hOn
  · cases hRest

theorem congr (h : Housed s) (hSame : SameBlocking s.kernel k') :
    Housed { s with kernel := k' } where
  placed := h.placed.congr hSame
  pending := h.pending
  created hOn := h.created (hSame.blockedOn ▸ hOn)

theorem afterCreate {c : CreateCall} {err : OsErr} (h : Housed s)
    (hFresh : s.created.fresh c = true) (hCreation : Creation s.kernel c k' err)
    (hPending : PendingCreated (s.afterCreate c k' err)) : Housed (s.afterCreate c k' err) := by
  have hOld : ∀ {t w}, k'.blockedOn t = some w → s.kernel.blockedOn t = some w := by
    intro t w hOn
    obtain ⟨hTasks, _⟩ | ⟨_, _, _, _, _, _, hTasks⟩ := userTasks_creation hCreation
    · rw [Kernel.blockedOn, hTasks] at hOn
      exact hOn
    · rw [Kernel.blockedOn, hTasks] at hOn
      split at hOn
      · cases hOn
      · exact hOn
  refine ⟨⟨?_, ?_⟩, hPending, ?_⟩
  · intro t w ht hOn
    have hMem := h.placed.listed ht (hOld hOn)
    obtain hSame | ⟨hAbsent, _⟩ := waitlist_creation hCreation w
    · change t ∈ (k'.waitlist w).tasks
      rw [hSame]
      exact hMem
    · exact absurd (h.created (hOld hOn)) (by rw [hAbsent _ hFresh]; simp)
  · intro t ht hState
    change (k'.userTasks t).currentState = .blocked at hState
    change (k'.userTasks t).blockReason = reasonOf (k'.blockedOn t)
    obtain ⟨hTasks, _⟩ | ⟨_, _, _, _, _, _, hTasks⟩ := userTasks_creation hCreation
    · rw [hTasks] at hState
      rw [Kernel.blockedOn, hTasks]
      exact h.placed.reason ht hState
    · rw [hTasks] at hState
      rw [Kernel.blockedOn, hTasks]
      split at hState
      · cases hState
      · rename_i hOther
        rw [if_neg hOther]
        exact h.placed.reason ht hState
  · intro t w hOn
    have hHas := h.created (hOld hOn)
    dsimp only [Sys.afterCreate]
    split
    · exact has_add hHas
    · exact hHas

theorem afterMove (h : Housed s) (hSeated : Seated s.kernel) (hMove : Move s e s' out) :
    Housed s' := by
  have hPending := h.pending.afterMove hMove
  cases hMove with
  | create _ _ hFresh hCreation => exact h.afterCreate hFresh hCreation hPending
  | call hRun _ _ hSection => exact h.afterPiece hSeated hSection hRun hPending
  | resume hRun _ hSection => exact h.afterPiece hSeated hSection hRun hPending
  | isrSend _ hSection =>
    have hAfter := h.afterIsr hSeated hSection
    split
    · exact hAfter.congr (quiet_countDropped _ _).sameBlocking
    · exact hAfter
  | isrRecv _ hSection => exact h.afterIsr hSeated hSection
  | tick =>
    obtain ⟨hPlaced, hTicked⟩ := h.placed.afterTick hSeated.entries
    exact ⟨hPlaced, h.pending, fun hOn => h.created (hTicked.blockedOn_eq_some hOn).1⟩
  | pendSV =>
    have hSame : Placed { s.kernel with pendSV := false } :=
      h.placed.congr (SameBlocking.of_userTasks rfl rfl (by funext w; cases w <;> rfl))
    refine ⟨hSame.afterSchedule, h.pending, ?_⟩
    intro t w hOn
    dsimp only [pendSVHandler] at hOn
    rw [sameButStates_osScheduleNextTask.blockedOn] at hOn
    exact h.created (t := t) hOn

end Housed

theorem Reaches.housed {trace : List Label} {s : Sys} (h : Reaches trace s) : Housed s := by
  obtain ⟨image, calls, start, hBoot, hRun⟩ := h
  have hStart := sound_of_boot hBoot
  have hBoth : Housed s ∧ Seated s.kernel :=
    hRun.invariant (I := fun s => Housed s ∧ Seated s.kernel) (C := fun _ => True)
      ⟨.of_sound hStart, .of_sound hStart⟩
      (fun _ hTaken _ hPre =>
        have hMove := move_of_step hTaken
        ⟨hPre.1.afterMove hPre.2 hMove, hPre.2.afterMove hMove⟩)
      fun _ _ => trivial
  exact hBoth.1

end KoRTOS
