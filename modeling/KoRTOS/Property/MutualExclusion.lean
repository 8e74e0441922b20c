import KoRTOS.Evaluation
import KoRTOS.Invariant.Ranks

/-!
# Sections between lock and unlock

What an application sees of a mutex is which calls returned `OS_OK`. A task is in a
section from such a return of `os_mutex_lock` up to that of `os_mutex_unlock`. A mutex
can have an owner that is in no section, as it is handed over before the lock returns.
-/

namespace KoRTOS

def lockGranted (i : MutexId) (l : Label) : Bool :=
  match l.event, l.pre.pending l.pre.kernel.currentTask, l.out with
  | .call (.mutexLock (some j) _), _, some r => j == i && r.err == .ok
  | .resume, some (.mutexLock j _ _), some r => j == i && r.err == .ok
  | _, _, _ => false

def lockReleased (i : MutexId) (l : Label) : Bool :=
  match l.event, l.out with
  | .call (.mutexUnlock (some j)), some r => j == i && r.err == .ok
  | _, _ => false

def nextHolder (i : MutexId) (holder : Option TaskId) (l : Label) : Option TaskId :=
  if lockGranted i l then some l.pre.kernel.currentTask
  else if lockReleased i l then none
  else holder

/-- The task that entered a section last, unless it has been left. -/
def holder (i : MutexId) (trace : List Label) : Option TaskId := trace.foldl (nextHolder i) none

/-- Task `t` owns mutex `i`, and no call of it on the mutex is in progress. -/
def Holds (s : Sys) (i : MutexId) (t : TaskId) : Prop :=
  s.kernel.ownerOf i = some t ∧ ∀ rest, s.pending t = some rest → rest.uses ≠ some (.mutex i)

/-- A transition enters a section, leaves one, or neither. -/
inductive Sectioned (i : MutexId) (l : Label) : Prop
  | enter (hGranted : lockGranted i l = true) (hReleased : lockReleased i l = false)
      (hBefore : ∀ t, ¬ Holds l.pre i t)
      (hAfter : ∀ t, Holds l.post i t ↔ t = l.pre.kernel.currentTask)
  | leave (hGranted : lockGranted i l = false) (hReleased : lockReleased i l = true)
      (hBefore : Holds l.pre i l.pre.kernel.currentTask) (hAfter : ∀ t, ¬ Holds l.post i t)
  | keep (hGranted : lockGranted i l = false) (hReleased : lockReleased i l = false)
      (hSame : ∀ t, Holds l.post i t ↔ Holds l.pre i t)

section Steps

variable {s s' : Sys} {e : Event} {out : Option Ret} {i m : MutexId} {k' : Kernel} {f : Flow}
  {t : TaskId} {piece : Piece} {n : U32}

theorem Holds.unique {u : TaskId} (h : Holds s i t) (h' : Holds s i u) : u = t :=
  Option.some.inj (h'.1.symm.trans h.1)

theorem holds_congr (hOwner : s'.kernel.ownerOf i = s.kernel.ownerOf i)
    (hPending : s'.pending = s.pending) (t : TaskId) : Holds s' i t ↔ Holds s i t := by
  rw [Holds, Holds, hOwner, hPending]

theorem holds_afterPiece (hs : Section s.kernel piece k' f)
    (hOwner : k'.ownerOf i = s.kernel.ownerOf i)
    (hCurrent : s.kernel.ownerOf i = some s.kernel.currentTask →
      ((∀ rest, f.rest = some rest → rest.uses ≠ some (.mutex i)) ↔
        ∀ rest, s.pending s.kernel.currentTask = some rest → rest.uses ≠ some (.mutex i)))
    (t : TaskId) : Holds (s.afterPiece k' f) i t ↔ Holds s i t := by
  have hOwned : (s.afterPiece k' f).kernel.ownerOf i = s.kernel.ownerOf i := hOwner
  unfold Holds
  rw [hOwned, pending_afterPiece hs]
  refine and_congr_right fun hMine => ?_
  split
  · rename_i hEq
    subst hEq
    exact hCurrent hMine
  · exact Iff.rfl

theorem uses_rest (hs : Section s.kernel piece k' f) (hUses : piece.uses ≠ some (.mutex i)) :
    ∀ rest, f.rest = some rest → rest.uses ≠ some (.mutex i) := by
  intro rest hRest
  rw [hs.uses hRest]
  exact hUses

theorem holds_elsewhere (hs : Section s.kernel piece k' f) (hOwner : k'.ownerOf i = s.kernel.ownerOf i)
    (hUses : piece.uses ≠ some (.mutex i))
    (hPending : ∀ rest, s.pending s.kernel.currentTask = some rest → rest.uses ≠ some (.mutex i)) :
    ∀ t, Holds (s.afterPiece k' f) i t ↔ Holds s i t :=
  holds_afterPiece hs hOwner fun _ => ⟨fun _ => hPending, fun _ => uses_rest hs hUses⟩

theorem Section.holds_granted {err : OsErr} (hs : Section s.kernel piece k' (.ret err))
    (hOwner : k'.ownerOf i = some s.kernel.currentTask) (t : TaskId) :
    Holds (s.afterPiece k' (.ret err)) i t ↔ t = s.kernel.currentTask := by
  have hNow : (s.afterPiece k' (.ret err)).kernel.ownerOf i = some s.kernel.currentTask := hOwner
  rw [Holds, hNow, pending_afterPiece hs]
  constructor
  · rintro ⟨⟨⟩, _⟩
    rfl
  · rintro rfl
    refine ⟨rfl, fun rest hRest => ?_⟩
    rw [if_pos rfl] at hRest
    cases hRest

theorem Locks.sectioned_lock (h : Locks s) (hFree : s.pending s.kernel.currentTask = none)
    (hs : Section s.kernel (.call (.mutexLock (some m) n)) k' f) :
    Sectioned i ⟨s, .call (.mutexLock (some m) n), f.result, s.afterPiece k' f⟩ := by
  have hIdle : ∀ rest, s.pending s.kernel.currentTask = some rest →
      rest.uses ≠ some (.mutex i) := by
    intro rest hRest
    rw [hFree] at hRest
    cases hRest
  have hKeep : k'.ownerOf = s.kernel.ownerOf →
      (m = i → s.kernel.ownerOf i = some s.kernel.currentTask → f.rest = none) →
      ∀ t, Holds (s.afterPiece k' f) i t ↔ Holds s i t := by
    intro hOwner hRest
    refine holds_afterPiece hs (congrFun hOwner i) fun hMine => ⟨fun _ => hIdle, fun _ => ?_⟩
    intro rest hSome hUses
    rw [hs.uses hSome] at hUses
    obtain rfl : m = i := by simpa [Piece.uses] using hUses
    rw [hRest rfl hMine] at hSome
    cases hSome
  have hSection := hs
  cases hs with
  | refuse hRefused =>
    have hQuiet : ∀ err, err ≠ .ok → Sectioned i
        ⟨s, .call (.mutexLock (some m) n), (Flow.ret err).result, s.afterPiece s.kernel (.ret err)⟩ := by
      intro err hErr
      refine .keep ?_ rfl (hKeep rfl fun _ _ => rfl)
      simp [lockGranted, hFree, Flow.ret, Flow.result, hErr]
    cases hRefused with
    | recursive => exact hQuiet _ (by simp)
    | lockBusy => exact hQuiet _ (by simp)
    | sendFull hPiece => cases hPiece.locks
    | recvEmpty hPiece => cases hPiece.locks
    | listFull hBlocks => cases hBlocks.locks
  | serve hTraffic => cases hTraffic.locks
  | wake hTraffic => cases hTraffic.locks
  | acquire hUnlocked =>
    have hOwners := (h.owning.afterAcquire hUnlocked).2
    cases hEq : m == i with
    | false =>
      have hne : m ≠ i := by simpa using hEq
      refine .keep ?_ rfl (holds_elsewhere hSection ?_ (by simpa [Piece.uses] using hne) hIdle)
      · simp [lockGranted, hFree, hEq, Flow.ret, Flow.result]
      · rw [hOwners, Function.update_of_ne hne.symm]
    | true =>
      obtain rfl : m = i := eq_of_beq hEq
      refine .enter ?_ rfl (fun t hHolds => ?_) fun t => ?_
      · simp [lockGranted, hFree, Flow.ret, Flow.result]
      · rw [Holds, (h.owning.unlocked m).mp hUnlocked] at hHolds
        cases hHolds.1
      · exact hSection.holds_granted (by rw [hOwners, Function.update_self]) t
  | block hBlocks => cases hBlocks.locks
  | lockBlock _ hOwner =>
    have hRanks := (Reranked.mutexDonatePriority s.kernel (s.kernel.mutexes m).owner).toSameShape
    refine .keep rfl rfl (hKeep ((SameOwning.of_shape hRanks).trans .enqueueCurrent).ownerOf ?_)
    rintro rfl hMine
    exact absurd hMine hOwner
  | lockFull _ hOwner =>
    have hRanks := (Reranked.mutexDonatePriority s.kernel (s.kernel.mutexes m).owner).toSameShape
    refine .keep rfl rfl (hKeep (SameOwning.of_shape hRanks).ownerOf ?_)
    rintro rfl hMine
    exact absurd hMine hOwner

theorem Locks.sectioned_unlock (h : Locks s) (hFree : s.pending s.kernel.currentTask = none)
    (hs : Section s.kernel (.call (.mutexUnlock (some m))) k' f) :
    Sectioned i ⟨s, .call (.mutexUnlock (some m)), f.result, s.afterPiece k' f⟩ := by
  have hIdle : ∀ rest, s.pending s.kernel.currentTask = some rest →
      rest.uses ≠ some (.mutex i) := by
    intro rest hRest
    rw [hFree] at hRest
    cases hRest
  have hGranted : ∀ out s', lockGranted i ⟨s, .call (.mutexUnlock (some m)), out, s'⟩ = false :=
    fun _ _ => rfl
  have hUses : (Piece.call (.mutexUnlock (some m))).uses ≠ some (.mutex i) := by simp [Piece.uses]
  have hGiven : ∀ owner, k'.ownerOf = Function.update s.kernel.ownerOf m owner →
      f = .ret .ok → s.kernel.ownerOf m = some s.kernel.currentTask →
      (∀ t, owner = some t → t ≠ s.kernel.currentTask ∧
        ∃ rest, s.pending t = some rest ∧ rest.uses = some (.mutex m)) →
      Sectioned i ⟨s, .call (.mutexUnlock (some m)), f.result, s.afterPiece k' f⟩ := by
    rintro owner hOwners rfl hMine hTaker
    cases hEq : m == i with
    | false =>
      have hne : m ≠ i := by simpa using hEq
      refine .keep (hGranted _ _) ?_ (holds_elsewhere hs ?_ hUses hIdle)
      · simp [lockReleased, hEq, Flow.ret, Flow.result]
      · rw [hOwners, Function.update_of_ne hne.symm]
    | true =>
      obtain rfl : m = i := eq_of_beq hEq
      refine .leave (hGranted _ _) ?_ ⟨hMine, hIdle⟩ fun t hHolds => ?_
      · simp [lockReleased, Flow.ret, Flow.result]
      · have hOwner : owner = some t := by
          have hNow := hHolds.1
          rw [Sys.afterPiece, hOwners, Function.update_self] at hNow
          exact hNow
        obtain ⟨hne, rest, hRest, hWaits⟩ := hTaker t hOwner
        refine hHolds.2 rest ?_ hWaits
        rw [pending_afterPiece hs, if_neg hne]
        exact hRest
  have hSection := hs
  cases hs with
  | refuse hRefused =>
    cases hRefused with
    | notOwner =>
      exact .keep (hGranted _ _) (by simp [lockReleased, Flow.ret, Flow.result])
        (holds_elsewhere hSection rfl hUses hIdle)
    | sendFull hPiece => cases hPiece
    | recvEmpty hPiece => cases hPiece
    | listFull hBlocks => cases hBlocks with
      | send hPiece => cases hPiece
      | recv hPiece => cases hPiece
  | serve hTraffic => cases hTraffic with
    | push hPiece => cases hPiece
    | pop hPiece => cases hPiece
  | wake hTraffic => cases hTraffic with
    | push hPiece => cases hPiece
    | pop hPiece => cases hPiece
  | block hBlocks => cases hBlocks with
    | send hPiece => cases hPiece
    | recv hPiece => cases hPiece
  | free hOwner =>
    refine hGiven none (h.owning.afterFree hOwner).2 rfl hOwner ?_
    rintro t ⟨⟩
  | @handOff _ j u hOwner hChosen =>
    have hOn := hChosen.blockedOn h.sound.waiting
    obtain ⟨rest, hRest, hWaits⟩ := h.sound.pending_waits hOn
    refine hGiven (some u) (h.owning.afterHandOff hOwner).2 rfl hOwner ?_
    rintro t ⟨⟩
    refine ⟨?_, rest, hRest, Pending.uses_of_waitsOn hWaits⟩
    rintro rfl
    rw [hFree] at hRest
    cases hRest

theorem Locks.sectioned_rest (h : Locks s) (hRun : s.kernel.pendSV = false) {r : OsErr}
    {st : LockStage} (hPending : s.pending s.kernel.currentTask = some (.mutexLock i r st))
    (hs : Section s.kernel (.rest (.mutexLock i r st)) k' f) :
    Sectioned i ⟨s, .resume, f.result, s.afterPiece k' f⟩ := by
  have hOn : s.kernel.blockedOn s.kernel.currentTask = none :=
    h.sound.waiting.free_of_not_blocked (h.sound.current_free hRun)
  have hTruth := h.truth hPending hOn
  have hOutside : ∀ t, Holds s i t → t ≠ s.kernel.currentTask := by
    rintro t hHolds rfl
    exact hHolds.2 _ hPending rfl
  have hGoesOn : ∀ st', k'.ownerOf = s.kernel.ownerOf → f = .suspended (.mutexLock i r st') →
      Sectioned i ⟨s, .resume, f.result, s.afterPiece k' f⟩ := by
    rintro st' hOwner rfl
    refine .keep (by simp [lockGranted, hPending, Flow.result]) rfl
      (holds_afterPiece hs (congrFun hOwner i) fun _ => ⟨fun hRest => ?_, fun hRest => ?_⟩)
    · exact absurd rfl (hRest _ rfl)
    · exact absurd rfl (hRest _ hPending)
  have hSection := hs
  cases hs with
  | refuse hRefused =>
    cases hRefused with
    | lockOver =>
      cases hTimeout : (s.kernel.userTasks s.kernel.currentTask).timeout with
      | false =>
        have hResult : timeoutResult s.kernel = .ok := by
          simp [timeoutResult, Kernel.current, hTimeout]
        have hOwner := hTruth.mp hTimeout
        rw [hResult] at hSection ⊢
        refine .enter ?_ rfl (fun t hHolds => ?_) fun t => ?_
        · simp [lockGranted, hPending, Flow.ret, Flow.result]
        · exact hOutside t hHolds (Option.some.inj (hHolds.1.symm.trans hOwner))
        · exact hSection.holds_granted hOwner t
      | true =>
        have hResult : timeoutResult s.kernel = .unavailable := by
          simp [timeoutResult, Kernel.current, hTimeout]
        have hOther : s.kernel.ownerOf i ≠ some s.kernel.currentTask := by
          intro hOwner
          rw [hTruth.mpr hOwner] at hTimeout
          cases hTimeout
        rw [hResult] at hSection ⊢
        exact .keep (by simp [lockGranted, hPending, Flow.ret, Flow.result]) rfl
          (holds_afterPiece hSection rfl fun hMine => absurd hMine hOther)
    | lockFailed hErr => exact absurd (h.sound.lock_ok hPending) hErr
    | sendFull hPiece => cases hPiece.locks
    | recvEmpty hPiece => cases hPiece.locks
    | listFull hBlocks => cases hBlocks.locks
  | serve hTraffic => cases hTraffic.locks
  | wake hTraffic => cases hTraffic.locks
  | block hBlocks => cases hBlocks.locks
  | stage => exact hGoesOn _ rfl rfl
  | write =>
    exact hGoesOn _ (SameOwning.of_shape (Reranked.setEffectivePriority _ _ _).toSameShape).ownerOf rfl

theorem Locks.sectioned_call {c : ApiCall} (h : Locks s)
    (hFree : s.pending s.kernel.currentTask = none) (hs : Section s.kernel (.call c) k' f) :
    Sectioned i ⟨s, .call c, f.result, s.afterPiece k' f⟩ := by
  have hIdle : ∀ rest, s.pending s.kernel.currentTask = some rest →
      rest.uses ≠ some (.mutex i) := by
    intro rest hRest
    rw [hFree] at hRest
    cases hRest
  have hTransfer := hs.transfer
  cases c with
  | mutexLock mtx n =>
    cases mtx with
    | some m => exact h.sectioned_lock hFree hs
    | none =>
      cases hTransfer with
      | stay hSame =>
        exact .keep rfl rfl
          (holds_elsewhere hs (congrFun hSame.ownerOf i) (by simp [Piece.uses]) hIdle)
  | mutexUnlock mtx =>
    cases mtx with
    | some m => exact h.sectioned_unlock hFree hs
    | none =>
      cases hTransfer with
      | stay hSame =>
        exact .keep rfl rfl
          (holds_elsewhere hs (congrFun hSame.ownerOf i) (by simp [Piece.uses]) hIdle)
  | _ =>
    cases hTransfer with
    | stay hSame =>
      exact .keep rfl rfl
        (holds_elsewhere hs (congrFun hSame.ownerOf i) (by simp [Piece.uses]) hIdle)

theorem Locks.sectioned_resume {rest : Pending} (h : Locks s) (hRun : s.kernel.pendSV = false)
    (hPending : s.pending s.kernel.currentTask = some rest)
    (hs : Section s.kernel (.rest rest) k' f) :
    Sectioned i ⟨s, .resume, f.result, s.afterPiece k' f⟩ := by
  have hElse : rest.uses ≠ some (.mutex i) →
      lockGranted i ⟨s, .resume, f.result, s.afterPiece k' f⟩ = false →
      Sectioned i ⟨s, .resume, f.result, s.afterPiece k' f⟩ := by
    intro hUses hGranted
    have hTransfer := hs.transfer
    cases hTransfer with
    | stay hSame =>
      refine .keep hGranted rfl (holds_elsewhere hs (congrFun hSame.ownerOf i) hUses ?_)
      intro rest' hRest
      rw [hPending] at hRest
      cases hRest
      exact hUses
  cases rest with
  | mutexLock m r st =>
    cases hEq : m == i with
    | true =>
      obtain rfl : m = i := eq_of_beq hEq
      exact h.sectioned_rest hRun hPending hs
    | false =>
      have hne : m ≠ i := by simpa using hEq
      refine hElse (by simpa [Pending.uses] using hne) ?_
      cases f <;> simp [lockGranted, hPending, hEq, Flow.result]
  | _ => exact hElse (by simp [Pending.uses]) (by simp [lockGranted, hPending])

theorem Locks.sectioned (h : Locks s) (hMove : Move s e s' out) :
    Sectioned i ⟨s, e, out, s'⟩ := by
  cases hMove with
  | create _ _ hFresh hCreation =>
    have hOwner := congrFun (h.ownerOf_creation hFresh hCreation) i
    exact .keep rfl rfl (holds_congr hOwner rfl)
  | call _ hFree _ hs => exact h.sectioned_call hFree hs
  | resume hRun hPending hs => exact h.sectioned_resume hRun hPending hs
  | @isrSend queue _ k' _ _ _ hs =>
    have hOwner := (hs.sameOwning_isr (.inl ⟨_, _, rfl⟩)).ownerOf
    refine .keep rfl rfl (holds_congr ?_ rfl)
    dsimp only
    split
    · rw [(quiet_countDropped k' queue).ownerOf, hOwner]
    · rw [hOwner]
  | isrRecv _ hs =>
    have hOwner := (hs.sameOwning_isr (.inr ⟨_, _, rfl⟩)).ownerOf
    exact .keep rfl rfl (holds_congr (congrFun hOwner i) rfl)
  | tick =>
    have hTicked := h.sound.waiting.updateTickCount.ticked_unblockTasks
    have hOwner : (osTick s.kernel).ownerOf = s.kernel.ownerOf := hTicked.ownerOf
    exact .keep rfl rfl (holds_congr (congrFun hOwner i) rfl)
  | pendSV =>
    have hSame : SameButStates { s.kernel with pendSV := false } (pendSVHandler s.kernel) :=
      sameButStates_osScheduleNextTask
    have hOwner : (pendSVHandler s.kernel).ownerOf = s.kernel.ownerOf :=
      (SameOwning.of_states hSame).ownerOf
    exact .keep rfl rfl (holds_congr (congrFun hOwner i) rfl)

end Steps

/-- Sections are entered when nobody is in one and left by who is. -/
def Bracketed (i : MutexId) (before : List Label) (l : Label) : Prop :=
  (lockGranted i l = true → holder i before = none) ∧
    (lockReleased i l = true → holder i before = some l.pre.kernel.currentTask)

/-- What is promised of the sections of mutex `i` in a run that leads to `s`. -/
structure SectionsSerial (i : MutexId) (trace : List Label) (s : Sys) : Prop where
  holds : ∀ t, holder i trace = some t ↔ Holds s i t
  bracketed : ∀ before l after, trace = before ++ l :: after → Bracketed i before l

section Runs

variable {i : MutexId} {trace rest before after : List Label} {l first : Label} {s s' : Sys}
  {e : Event} {out : Option Ret} {t : TaskId}

theorem holder_snoc : holder i (trace ++ [l]) = nextHolder i (holder i trace) l := by
  rw [holder, List.foldl_append]
  rfl

theorem ownerOf_of_boot {image : Image} {calls : List CreateCall} {start : Sys}
    (h : boot image calls = some start) : start.kernel.ownerOf i = none := by
  obtain ⟨s, _, hBooting, rfl⟩ := boot_induction (P := fun _ _ => True) h trivial
    fun _ _ _ _ _ _ _ _ _ => trivial
  have hSame := sameButStates_osScheduleNextTask
    (k := initIdleTask s.kernel image.idleTaskHandler image.idleTaskStack)
  exact (congrFun (SameOwning.of_states hSame).ownerOf i).trans (hBooting.unowned i)

theorem SectionsSerial.afterMove (h : SectionsSerial i trace s) (hLocks : Locks s)
    (hMove : Move s e s' out) : SectionsSerial i (trace ++ [⟨s, e, out, s'⟩]) s' := by
  have hNobody : (∀ t, ¬ Holds s i t) → holder i trace = none := by
    intro hFree
    cases hHolder : holder i trace with
    | none => rfl
    | some t => exact absurd ((h.holds t).mp hHolder) (hFree t)
  cases hLocks.sectioned (i := i) hMove with
  | enter hGranted hReleased hBefore hAfter =>
    refine ⟨fun t => ?_, Transition.forall_split_snoc.mpr ⟨h.bracketed, ?_, ?_⟩⟩
    · rw [holder_snoc, nextHolder, if_pos hGranted, hAfter, Option.some_inj]
      exact eq_comm
    · exact fun _ => hNobody hBefore
    · rw [hReleased]
      rintro ⟨⟩
  | leave hGranted hReleased hBefore hAfter =>
    refine ⟨fun t => ?_, Transition.forall_split_snoc.mpr ⟨h.bracketed, ?_, ?_⟩⟩
    · rw [holder_snoc, nextHolder, hGranted, hReleased]
      exact ⟨by rintro ⟨⟩, fun hHolds => absurd hHolds (hAfter t)⟩
    · rw [hGranted]
      rintro ⟨⟩
    · exact fun _ => (h.holds _).mpr hBefore
  | keep hGranted hReleased hSame =>
    refine ⟨fun t => ?_, Transition.forall_split_snoc.mpr ⟨h.bracketed, ?_, ?_⟩⟩
    · rw [holder_snoc, nextHolder, hGranted, hReleased, hSame]
      exact h.holds t
    · rw [hGranted]
      rintro ⟨⟩
    · rw [hReleased]
      rintro ⟨⟩

/-- A task that has entered a section is in it until it leaves it. -/
theorem holder_or_released
    (h : ∀ before l after, before ++ l :: after = trace → Bracketed i before l)
    (hTrace : trace = before ++ first :: (rest ++ after)) (hGranted : lockGranted i first = true) :
    (∃ l ∈ rest, lockReleased i l = true ∧
        l.pre.kernel.currentTask = first.pre.kernel.currentTask) ∨
      holder i (before ++ first :: rest) = some first.pre.kernel.currentTask := by
  induction rest using List.reverseRecOn generalizing after with
  | nil =>
    right
    rw [holder_snoc, nextHolder, if_pos hGranted]
  | append_singleton rest l ih =>
    have hSplit : (before ++ first :: rest) ++ l :: after = trace := by
      rw [hTrace]
      simp
    obtain ⟨hEnter, hLeave⟩ := h _ l after hSplit
    have hShift : trace = before ++ first :: (rest ++ l :: after) := by
      rw [hTrace]
      simp
    obtain ⟨x, hx, hReleased, hSame⟩ | hHolder := ih hShift
    · exact .inl ⟨x, List.mem_append_left _ hx, hReleased, hSame⟩
    · cases hGrant : lockGranted i l with
      | true =>
        rw [hEnter hGrant] at hHolder
        cases hHolder
      | false =>
        cases hRelease : lockReleased i l with
        | true =>
          rw [hLeave hRelease] at hHolder
          exact .inl ⟨l, by simp, hRelease, Option.some.inj hHolder⟩
        | false =>
          right
          rw [← List.cons_append, ← List.append_assoc, holder_snoc, nextHolder, hGrant, hRelease]
          exact hHolder

end Runs

end KoRTOS
