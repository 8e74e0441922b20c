import KoRTOS.Property.Progress
import KoRTOS.Invariant.Ownership

/-!
# How long a task waits in a FIFO waitlist

A post, or the end of a send or a receive, serves a waitlist: it releases the head
if the policy is `FIFO`. Nobody overtakes, so a task is released by as many of them
as there are tasks in front of it, and one more.
-/

namespace KoRTOS

/-- The transition calls `waitlist_unblock` on the waitlist. -/
def serves (w : WaitlistRef) (l : Label) : Bool := served l.pre l.event == some w

section Positions

variable {α : Type*} [DecidableEq α] {l l' : List α} {a b : α}

theorem idxOf_le_of_sublist (h : l'.Sublist l) (hNodup : l.Nodup) (ha : a ∈ l') :
    l'.idxOf a ≤ l.idxOf a := by
  induction h with
  | slnil => cases ha
  | cons b h ih =>
    have hne : b ≠ a := by
      rintro rfl
      exact (List.nodup_cons.mp hNodup).1 (h.subset ha)
    rw [List.idxOf_cons_ne _ hne]
    exact (ih (List.nodup_cons.mp hNodup).2 ha).trans (Nat.le_succ _)
  | cons_cons b h ih =>
    obtain rfl | hMem := List.mem_cons.mp ha
    · simp
    · have hNotIn := (List.nodup_cons.mp hNodup).1
      have hne : b ≠ a := by
        rintro rfl
        exact hNotIn (h.subset hMem)
      rw [List.idxOf_cons_ne _ hne, List.idxOf_cons_ne _ hne]
      exact Nat.succ_le_succ (ih (List.nodup_cons.mp hNodup).2 hMem)

end Positions

section Pieces

variable {k k' : Kernel} {piece : Piece} {f : Flow} {w : WaitlistRef} {q : QueueId}
  {item : Nat → U8} {n d : U32}

theorem Sending.serves (h : Sending k piece q item n d) : piece.serves k = sendServes k q := by
  cases h with
  | call => rfl
  | rest hTimeout => exact if_neg (by simp [hTimeout])

theorem Receiving.serves (h : Receiving k piece q n d) : piece.serves k = recvServes k q := by
  cases h with
  | call => rfl
  | rest hTimeout => exact if_neg (by simp [hTimeout])

theorem Blocks.serves {v : WaitlistRef} {rest : Pending} (h : Blocks k piece v n rest) :
    piece.serves k = none := by
  cases h with
  | sem => rfl
  | send hPiece hFull => exact hPiece.serves.trans (if_pos hFull)
  | recv hPiece hEmpty => exact hPiece.serves.trans (if_pos hEmpty)

theorem Refused.serves {err : OsErr} (h : Refused k piece err) : piece.serves k = none := by
  cases h with
  | @nullSend queue _ _ hNull =>
    obtain rfl | rfl := hNull
    · rfl
    · cases queue <;> rfl
  | @nullRecv queue _ _ hNull =>
    obtain rfl | rfl := hNull
    · rfl
    · cases queue <;> rfl
  | notOwner hOwner => exact if_pos hOwner
  | sendFull hPiece hFull => exact hPiece.serves.trans (if_pos hFull)
  | recvEmpty hPiece hEmpty => exact hPiece.serves.trans (if_pos hEmpty)
  | listFull hBlocks => exact hBlocks.serves
  | sendOver hTimeout => exact if_pos hTimeout
  | recvOver hTimeout => exact if_pos hTimeout
  | _ => rfl

theorem Traffic.serves {data : List U8} (h : Traffic k piece w k' data) :
    piece.serves k = some w := by
  cases h with
  | post => rfl
  | push hPiece hRoom => exact hPiece.serves.trans (if_neg (by omega))
  | pop hPiece hItem => exact hPiece.serves.trans (if_neg hItem)

theorem Section.releases_head (h : Waiting k) (hs : Section k piece k' f)
    (hFifo : k.policy w = .fifo) (hMutex : ∀ i, w ≠ .mutex i) (hSome : k.waiters w ≠ [])
    (hServes : piece.serves k = some w) : ∃ t, k.waiters w = t :: k'.waiters w := by
  have hBusy : (k.waitlist w).waitCount ≠ 0 := by
    rw [h.waitCount_eq]
    exact fun hZero => hSome (List.length_eq_zero_iff.mp hZero)
  have hOther : piece.serves k = none → ∃ t, k.waiters w = t :: k'.waiters w := fun hNone => by
    rw [hNone] at hServes
    cases hServes
  cases hs with
  | refuse hRefused => exact hOther hRefused.serves
  | post hEmpty =>
    cases hServes
    exact absurd hEmpty hBusy
  | serve hTraffic _ hEmpty =>
    obtain rfl := Option.some.inj (hTraffic.serves.symm.trans hServes)
    rw [hTraffic.quiet.waitlist] at hEmpty
    exact absurd hEmpty hBusy
  | @wake _ v k₁ _ j t hTraffic hChosen =>
    obtain rfl := Option.some.inj (hTraffic.serves.symm.trans hServes)
    have hQuiet := hTraffic.quiet
    have hListed : Listed k₁ := h.listed.congr hQuiet.sameBlocking
    obtain ⟨hj, hAt⟩ := hListed.chosen hChosen
    have hPolicy : (k₁.waitlist v).schedulePolicy = .fifo := by
      rw [hQuiet.waitlist]
      exact hFifo
    obtain rfl := hChosen.head hPolicy
    refine ⟨t, ?_⟩
    rw [(SameShape.portYield _).waiters, releaseTask_eq, hListed.leave hj, Function.update_self,
      ← hQuiet.waiters, ← hAt, List.eraseIdx_zero]
    exact (List.cons_getElem_drop_succ (h := hj)).symm.trans (by simp)
  | free hOwner =>
    rw [Piece.serves, if_neg (by simp [hOwner])] at hServes
    cases hServes
    exact absurd rfl (hMutex _)
  | handOff hOwner =>
    rw [Piece.serves, if_neg (by simp [hOwner])] at hServes
    cases hServes
    exact absurd rfl (hMutex _)
  | block hBlocks => exact hOther hBlocks.serves
  | _ => exact hOther rfl

theorem Section.advances (h : Waiting k) (hs : Section k piece k' f) {t : TaskId}
    (hFifo : k.policy w = .fifo) (hMutex : ∀ i, w ≠ .mutex i) (ht : t ∈ k.waiters w)
    (ht' : t ∈ k'.waiters w) :
    (k'.waiters w).idxOf t + (if piece.serves k = some w then 1 else 0) ≤
      (k.waiters w).idxOf t := by
  have hNodup : (k.waiters w).Nodup := h.fibers.nodup w
  split
  · rename_i hServes
    obtain ⟨u, hHead⟩ := hs.releases_head h hFifo hMutex (List.ne_nil_of_mem ht) hServes
    have hne : u ≠ t := by
      rintro rfl
      rw [hHead] at hNodup
      exact (List.nodup_cons.mp hNodup).1 ht'
    rw [hHead, List.idxOf_cons_ne _ hne]
  · obtain hSub | ⟨_, hEnd⟩ := (hs.reblocks h.listed).waiters_cases h.listed w
    · exact idxOf_le_of_sublist hSub hNodup ht'
    · rw [hEnd, List.idxOf_append_of_mem ht]
      exact le_rfl

end Pieces

section Moves

variable {s s' : Sys} {e : Event} {out : Option Ret} {w : WaitlistRef} {t : TaskId}

theorem Sound.policy_kept (h : Sound s) (hMove : Move s e s' out)
    (ht : t ∈ s'.kernel.waiters w) : s'.kernel.policy w = s.kernel.policy w := by
  have hSection : ∀ {piece k' f}, Section s.kernel piece k' f → k'.policy = s.kernel.policy :=
    fun hs => (hs.reblocks h.waiting.listed).policy
  cases hMove with
  | create _ _ _ hCreation =>
    obtain hSame | ⟨_, _, hInit⟩ := waitlist_creation hCreation w
    · exact congrArg Waitlist.schedulePolicy hSame
    · rw [Kernel.waiters, Sys.afterCreate, hInit, Waitlist.tasks_init] at ht
      cases ht
  | call _ _ _ hs => exact congrFun (hSection hs) w
  | resume _ _ hs => exact congrFun (hSection hs) w
  | @isrSend queue _ k' _ _ _ hs =>
    refine Eq.trans ?_ (congrFun (hSection hs) w)
    dsimp only
    split
    · exact congrFun (policy_of_waitlist (quiet_countDropped k' queue).waitlist) w
    · rfl
  | isrRecv _ hs => exact congrFun (hSection hs) w
  | tick => exact congrFun h.waiting.updateTickCount.ticked_unblockTasks.policy w
  | pendSV =>
    have hSame : SameButStates { s.kernel with pendSV := false } (pendSVHandler s.kernel) :=
      sameButStates_osScheduleNextTask
    have hWaitlist : (pendSVHandler s.kernel).waitlist = s.kernel.waitlist :=
      hSame.waitlist.trans (by funext v; cases v <;> rfl)
    exact congrFun (policy_of_waitlist hWaitlist) w

theorem Locks.not_mutex (h : Locks s) (hFifo : s.kernel.policy w = .fifo)
    (ht : t ∈ s.kernel.waiters w) (i : MutexId) : w ≠ .mutex i := by
  rintro rfl
  obtain ⟨rest, hPending, hWaits⟩ :=
    h.sound.pending_waits (h.sound.waiting.mem_waiters.mp ht)
  have hCreated := h.sound.pending_created _ _ _ hPending (Pending.uses_of_waitsOn hWaits)
  exact absurd ((h.policy hCreated).symm.trans hFifo) (by simp)

/-- A transition that serves the waitlist brings a waiter one place forward, and no transition
puts it back. -/
theorem Locks.advances (h : Locks s) (hMove : Move s e s' out) (hFifo : s.kernel.policy w = .fifo)
    (ht : t ∈ s.kernel.waiters w) (ht' : t ∈ s'.kernel.waiters w) :
    (s'.kernel.waiters w).idxOf t + (if served s e = some w then 1 else 0) ≤
      (s.kernel.waiters w).idxOf t := by
  have hWaiting := h.sound.waiting
  have hMutex := h.not_mutex hFifo ht
  cases hMove with
  | create _ _ hFresh hCreation =>
    have hSame := congrFun (h.sound.waiters_creation hFresh hCreation).1 w
    exact (congrArg (List.idxOf t) hSame).le
  | call _ _ _ hs => exact hs.advances hWaiting hFifo hMutex ht ht'
  | resume _ hPending hs =>
    rw [served, hPending]
    exact hs.advances hWaiting hFifo hMutex ht ht'
  | @isrSend queue item k' err data _ hs =>
    have hKept : (if err = .unavailable then countDropped k' queue else k').waiters =
        k'.waiters := by
      split
      · exact (quiet_countDropped k' queue).waiters
      · rfl
    rw [hKept] at ht' ⊢
    exact hs.advances hWaiting hFifo hMutex ht ht'
  | isrRecv _ hs => exact hs.advances hWaiting hFifo hMutex ht ht'
  | tick =>
    have hTicked := hWaiting.updateTickCount.ticked_unblockTasks
    exact idxOf_le_of_sublist (hTicked.waiters w) (hWaiting.fibers.nodup w) ht'
  | pendSV =>
    have hSame : SameButStates { s.kernel with pendSV := false } (pendSVHandler s.kernel) :=
      sameButStates_osScheduleNextTask
    have hWaitlist : (pendSVHandler s.kernel).waitlist = s.kernel.waitlist :=
      hSame.waitlist.trans (by funext v; cases v <;> rfl)
    have hWaiters : (pendSVHandler s.kernel).waiters w = s.kernel.waiters w :=
      congrArg Waitlist.tasks (congrFun hWaitlist w)
    exact (congrArg (List.idxOf t) hWaiters).le

end Moves

/-- As long as a task stays in a `FIFO` waitlist, each transition that serves it brings the task
one place forward, and nothing puts it back: it outlasts at most as many of them as there were
tasks in front of it. -/
theorem fifo_wait_bounded {past trace : List Label} {s₀ s : Sys} {w : WaitlistRef} {t : TaskId}
    (hReach : Reaches past s₀) (hRun : Run s₀ trace s) (hUser : ∀ l ∈ past ++ trace, UserBlocks l)
    (hFifo : s₀.kernel.policy w = .fifo) (hWaits : t ∈ s₀.kernel.waiters w)
    (hStays : ∀ l ∈ trace, t ∈ l.post.kernel.waiters w) :
    trace.countP (serves w) + (s.kernel.waiters w).idxOf t ≤ (s₀.kernel.waiters w).idxOf t := by
  have hLocks := hReach.locks fun l hl => hUser l (List.mem_append_left _ hl)
  have hAll : Locks s ∧ s.kernel.policy w = .fifo ∧ t ∈ s.kernel.waiters w ∧
      trace.countP (serves w) + (s.kernel.waiters w).idxOf t ≤
        (s₀.kernel.waiters w).idxOf t := by
    refine hRun.historyInvariant
      (I := fun trace s => Locks s ∧ s.kernel.policy w = .fifo ∧ t ∈ s.kernel.waiters w ∧
        trace.countP (serves w) + (s.kernel.waiters w).idxOf t ≤ (s₀.kernel.waiters w).idxOf t)
      (C := fun l => UserBlocks l ∧ t ∈ l.post.kernel.waiters w)
      ⟨hLocks, hFifo, hWaits, by simp⟩ ?_
      fun l hl => ⟨hUser l (List.mem_append_right _ hl), hStays l hl⟩
    rintro trace l hTaken ⟨hUser, hStays⟩ ⟨hPre, hPolicy, hIn, hCount⟩
    have hMove := move_of_step hTaken
    have hStep := hPre.advances hMove hPolicy hIn hStays
    refine ⟨hPre.afterMove hMove hUser, ?_, hStays, ?_⟩
    · exact (hPre.sound.policy_kept hMove hStays).trans hPolicy
    · rw [List.countP_append, List.countP_singleton, serves]
      simp only [beq_iff_eq]
      omega
  exact hAll.2.2.2

/-- Task 2 waits behind task 1; the post to the semaphore releases task 1. -/
theorem fifo_wait_bounded_one :
    ∃ trace s₀ s, Run s₀ trace s ∧ (s₀.kernel.waiters (.sem 0)).idxOf 2 = 1 ∧
      trace.countP (serves (.sem 0)) = 1 ∧
      trace.countP (serves (.sem 0)) + (s.kernel.waiters (.sem 0)).idxOf 2 ≤ 1 := by
  have hCheck : checkBoot sampleImage
      [sampleTask 5, sampleTask 5, sampleTask 9, .sem (some 0) 0 (some .fifo)]
      [.call (.semWait (some 0) osWaitForever), .pendSV,
        .call (.semWait (some 0) osWaitForever), .pendSV]
      (fun l => decide (UserBlocks l))
      (fun s => s.kernel.policy (.sem 0) == .fifo && s.kernel.waiters (.sem 0) == [1, 2] &&
        (step s (.call (.semPost (some 0)))).any fun next =>
          next.1.kernel.waiters (.sem 0) == [2]) = true := by
    decide +kernel
  obtain ⟨past, s₀, hReach, _, hEach, hFinal⟩ := reaches_of_checkBoot hCheck
  simp only [Bool.and_eq_true, decide_eq_true_eq, beq_iff_eq, Option.any_eq_true] at hEach hFinal
  obtain ⟨⟨hFifo, hWaiters⟩, ⟨s, out⟩, hStep, hLeft⟩ := hFinal
  have hRun : Run s₀ ([] ++ [⟨s₀, .call (.semPost (some 0)), out, s⟩]) s := .snoc .nil hStep
  have hIndex : (s₀.kernel.waiters (.sem 0)).idxOf 2 = 1 := by
    rw [hWaiters]
    rfl
  have hUser : ∀ l ∈ past ++ [⟨s₀, .call (.semPost (some 0)), out, s⟩], UserBlocks l := by
    intro l hl
    obtain hl | hl := List.mem_append.mp hl
    · exact hEach l hl
    · obtain rfl := List.mem_singleton.mp hl
      cases move_of_step hStep with
      | call _ _ _ hs =>
        cases hs with
        | refuse => rfl
        | post => rfl
        | serve => rfl
        | wake => rfl
        | block hBlocks => cases hBlocks with
          | send hPiece => cases hPiece
          | recv hPiece => cases hPiece
  refine ⟨_, s₀, s, hRun, hIndex, rfl, ?_⟩
  rw [← hIndex]
  refine fifo_wait_bounded hReach hRun hUser hFifo ?_ ?_
  · simp [hWaiters]
  · intro l hl
    obtain rfl := List.mem_singleton.mp hl
    simp [hLeft]

end KoRTOS
