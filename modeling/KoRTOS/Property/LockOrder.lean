import KoRTOS.Evaluation
import KoRTOS.Invariant.Graph

/-!
# Locking in order

Nothing in the kernel looks for a deadlock. An application that ranks its mutexes,
and only waits for one that is ranked above all those the waiting task owns, never
needs it: the waits-for graph stays acyclic, and every chain of waiting tasks ends
in a task that waits for no mutex.
-/

namespace KoRTOS

open Inheritance

variable {K : Type*} [Preorder K]

/-- Who waits for a mutex owns lower ones only. -/
def Ordered (rank : MutexId → K) (k : Kernel) : Prop :=
  ∀ t i m, k.blockedOn t = some (.mutex i) → k.ownerOf m = some t → rank m < rank i

section Steps

variable {rank : MutexId → K} {k k' : Kernel} {s : Sys} {piece : Piece} {f : Flow} {i : MutexId}

theorem Ordered.acyclic (h : Ordered rank k) : AcyclicWaits k := by
  let awaited (t : TaskId) : WithBot K :=
    (k.blockedOn t).bind fun w => (castWaitlistToMutex (some w)).map rank
  apply acyclic_of_ascending awaited
  intro a b c hab hbc
  obtain ⟨i, hi, hOwner⟩ := nextOwner_eq_some.mp hab
  obtain ⟨j, hj, _⟩ := nextOwner_eq_some.mp hbc
  have hRank : rank i < rank j := h b j i hj hOwner
  have ha : awaited a = (rank i : WithBot K) := by
    simp only [awaited, hi]
    rfl
  have hb : awaited b = (rank j : WithBot K) := by
    simp only [awaited, hj]
    rfl
  rw [ha, hb]
  exact WithBot.coe_lt_coe.mpr hRank

theorem Ordered.kept (h : Ordered rank k) (hOwner : k'.ownerOf = k.ownerOf)
    (hOn : ∀ t i, k'.blockedOn t = some (.mutex i) → k.blockedOn t = some (.mutex i)) :
    Ordered rank k' := by
  intro t i m ht hm
  exact h t i m (hOn t i ht) (hOwner ▸ hm)

theorem Section.locks (hs : Section k piece k' f) {rest : Pending} (hRest : f.rest = some rest)
    (hWaits : rest.waitsOn = some (.mutex i)) (hOff : k.blockedOn k.currentTask = none)
    (hOn : k'.blockedOn k.currentTask = some (.mutex i)) :
    (∃ n, piece = .call (.mutexLock (some i) n)) ∧ SameOwning k k' ∧ f.result = none := by
  have hStill : SameBlocking k k' → False := fun hSame => by
    rw [hSame.blockedOn, hOff] at hOn
    cases hOn
  cases hs with
  | delay =>
    cases hRest
    cases hWaits
  | block hBlocks =>
    cases hRest
    cases hBlocks <;> cases hWaits
  | @lockBlock j n =>
    cases hRest
    cases hWaits
    have hRanks := (Reranked.mutexDonatePriority k (k.mutexes i).owner).toSameShape
    exact ⟨⟨n, rfl⟩, (SameOwning.of_shape hRanks).trans .enqueueCurrent, rfl⟩
  | lockFull => exact (hStill (Reranked.mutexDonatePriority k _).sameBlocking).elim
  | stage => exact absurd (hOff.symm.trans hOn) (by simp)
  | write => exact (hStill (Reranked.setEffectivePriority _ _ _).sameBlocking).elim
  | _ => cases hRest

theorem Ordered.afterPiece (h : Ordered rank s.kernel) (hLocks : Locks s)
    (hRun : s.kernel.pendSV = false) (hs : Section s.kernel piece k' f)
    (hUp : ∀ i n, piece = .call (.mutexLock (some i) n) → f.result = none →
      ∀ m ∈ s.kernel.owned s.kernel.currentTask, rank m < rank i) : Ordered rank k' := by
  have hWaiting := hLocks.sound.waiting
  have hOff := hWaiting.free_of_not_blocked (hLocks.sound.current_free hRun)
  intro t i m ht hm
  obtain hOld | ⟨rfl, rest, hRest, hWaits⟩ := (hs.reblocks hWaiting.listed).blockedOn ht
  · have hOther : t ≠ s.kernel.currentTask := by
      rintro rfl
      exact absurd (hOff.symm.trans hOld) (by simp)
    have hKept : s.kernel.blockedOn t = none ∨ k'.blockedOn t = s.kernel.blockedOn t :=
      .inr (ht.trans hOld.symm)
    exact h t i m hOld ((hs.transfer.ownerOf hLocks.owning hOther hKept hWaiting).mp hm)
  · obtain ⟨⟨n, hPiece⟩, hOwning, hResult⟩ := hs.locks hRest hWaits hOff ht
    apply hUp i n hPiece hResult
    rw [hOwning.ownerOf] at hm
    exact hLocks.owning.fibers.mem_iff.mpr hm

theorem Ordered.afterIsr {c : ApiCall} {err : OsErr} {data : List U8} (h : Ordered rank s.kernel)
    (hLocks : Locks s) (hs : Section s.kernel (.call c) k' (.returned err data))
    (hQueue : (∃ queue item, c = .queueSend queue item 0) ∨
      ∃ queue itemNull, c = .queueRecv queue itemNull 0) : Ordered rank k' := by
  apply h.kept (hs.sameOwning_isr hQueue).ownerOf
  intro t i ht
  obtain hOld | ⟨_, _, hRest, _⟩ := (hs.reblocks hLocks.sound.waiting.listed).blockedOn ht
  · exact hOld
  · cases hRest

end Steps

variable [DecidableLT K]

/-- The running task comes to wait for a mutex although it owns one that is not ranked below it. -/
def waitsDownward (rank : MutexId → K) (l : Label) : Bool :=
  match l.event, l.out with
  | .call (.mutexLock (some i) _), none =>
    (l.pre.kernel.owned l.pre.kernel.currentTask).any fun m => !decide (rank m < rank i)
  | _, _ => false

def WaitsUpward (rank : MutexId → K) (l : Label) : Prop := waitsDownward rank l = false

instance (rank : MutexId → K) (l : Label) : Decidable (WaitsUpward rank l) :=
  inferInstanceAs (Decidable (_ = false))

section Moves

variable {rank : MutexId → K} {s s' : Sys} {e : Event} {out : Option Ret} {i m : MutexId} {n : U32}

theorem WaitsUpward.lt (h : WaitsUpward rank ⟨s, .call (.mutexLock (some i) n), none, s'⟩)
    (hm : m ∈ s.kernel.owned s.kernel.currentTask) : rank m < rank i := by
  have hAll : ∀ x ∈ s.kernel.owned s.kernel.currentTask, rank x < rank i := by
    simpa [WaitsUpward, waitsDownward] using h
  exact hAll m hm

theorem Ordered.afterMove (h : Ordered rank s.kernel) (hLocks : Locks s) (hMove : Move s e s' out)
    (hUp : WaitsUpward rank ⟨s, e, out, s'⟩) : Ordered rank s'.kernel := by
  have hWaiting := hLocks.sound.waiting
  cases hMove with
  | create _ _ hFresh hCreation =>
    apply h.kept (hLocks.ownerOf_creation hFresh hCreation)
    intro t i ht
    exact blockedOn_creation hWaiting hCreation ▸ ht
  | call hRun _ _ hs =>
    apply h.afterPiece hLocks hRun hs
    rintro i n ⟨⟩ hResult
    rw [hResult] at hUp
    exact fun m => hUp.lt
  | resume hRun _ hs =>
    apply h.afterPiece hLocks hRun hs
    rintro i n ⟨⟩
  | @isrSend queue _ k' err _ _ hs =>
    have hAfter := h.afterIsr hLocks hs (.inl ⟨_, _, rfl⟩)
    dsimp only
    split
    · have hQuiet := quiet_countDropped k' queue
      apply hAfter.kept hQuiet.ownerOf
      intro t i ht
      exact hQuiet.blockedOn ▸ ht
    · exact hAfter
  | isrRecv _ hs => exact h.afterIsr hLocks hs (.inr ⟨_, _, rfl⟩)
  | tick =>
    have hTicked := hWaiting.updateTickCount.ticked_unblockTasks
    have hOwner : (osTick s.kernel).ownerOf = s.kernel.ownerOf := hTicked.ownerOf
    apply h.kept hOwner
    intro t i ht
    exact (hTicked.blockedOn_eq_some ht).1
  | pendSV =>
    have hSame : SameButStates { s.kernel with pendSV := false } (pendSVHandler s.kernel) :=
      sameButStates_osScheduleNextTask
    apply h.kept (SameOwning.of_states hSame).ownerOf
    intro t i ht
    exact hSame.blockedOn ▸ ht

end Moves

omit [DecidableLT K] in
theorem ordered_of_boot {rank : MutexId → K} {image : Image} {calls : List CreateCall}
    {start : Sys} (h : boot image calls = some start) : Ordered rank start.kernel := by
  intro t i m ht
  have hMem := (sound_of_boot h).waiting.mem_waiters.mpr ht
  rw [(idle_of_boot h).1] at hMem
  cases hMem

theorem ordered_of_run {rank : MutexId → K} {start s : Sys} {trace : List Label}
    (hRun : Run start trace s) (hStart : Locks start) (hOrdered : Ordered rank start.kernel)
    (hUser : ∀ l ∈ trace, UserBlocks l) (hUp : ∀ l ∈ trace, WaitsUpward rank l) :
    Locks s ∧ Ordered rank s.kernel := by
  refine hRun.invariant (I := fun s => Locks s ∧ Ordered rank s.kernel)
    (C := fun l => UserBlocks l ∧ WaitsUpward rank l) ⟨hStart, hOrdered⟩ ?_
    fun l hl => ⟨hUser l hl, hUp l hl⟩
  rintro l hTaken ⟨hUser, hUp⟩ ⟨hLocks, hOrdered⟩
  have hMove := move_of_step hTaken
  exact ⟨hLocks.afterMove hMove hUser, hOrdered.afterMove hLocks hMove hUp⟩

/-- If tasks only wait for mutexes above those they own, then in every reachable state whoever
waits for a mutex is at the start of a chain of owners that ends in another task, one that waits
for no mutex; so no tasks wait for each other in a circle. -/
theorem chains_end {rank : MutexId → K} {trace : List Label} {s : Sys} (hReach : Reaches trace s)
    (hUser : ∀ l ∈ trace, UserBlocks l) (hUp : ∀ l ∈ trace, WaitsUpward rank l) :
    AcyclicWaits s.kernel ∧ ∀ t i, s.kernel.blockedOn t = some (.mutex i) →
      ∃ o, OnChain (nextOwner s.kernel) t o ∧ o ≠ t ∧ o < s.kernel.taskCount ∧
        ∀ j, s.kernel.blockedOn o ≠ some (.mutex j) := by
  obtain ⟨image, calls, start, hBoot, hRun⟩ := hReach
  obtain ⟨hLocks, hOrdered⟩ :=
    ordered_of_run hRun (locks_of_boot hBoot) (ordered_of_boot hBoot) hUser hUp
  have hAcyclic := hOrdered.acyclic
  refine ⟨hAcyclic, fun t i ht => ?_⟩
  have hBounded : ∀ a b, nextOwner s.kernel a = some b → b ∈ Finset.range s.kernel.taskCount :=
    fun a b hab => Finset.mem_range.mpr (hLocks.next_lt hab)
  obtain ⟨o, hChain, hLast⟩ := hAcyclic.exists_end hBounded t
  have hFree : ∀ j, s.kernel.blockedOn o ≠ some (.mutex j) := by
    intro j hj
    obtain ⟨owner, hOwner, _⟩ := hLocks.waits_other hj
    rw [nextOwner_of_blockedOn hj, hOwner] at hLast
    cases hLast
  have hne : o ≠ t := fun hEq => hFree i (hEq ▸ ht)
  refine ⟨o, hChain, hne, ?_, hFree⟩
  obtain rfl | ⟨x, _, hx⟩ := Relation.ReflTransGen.cases_tail hChain
  · exact absurd rfl hne
  · exact hLocks.next_lt hx

/-- Task 2 owns mutex 1 and waits for nothing, task 1 owns mutex 0 and waits for mutex 1. -/
theorem chains_end_two : ∃ trace s, Reaches trace s ∧ s.kernel.blockedOn 1 = some (.mutex 1) ∧
    ∃ o, OnChain (nextOwner s.kernel) 1 o ∧ o ≠ 1 ∧ o < s.kernel.taskCount ∧
      ∀ j, s.kernel.blockedOn o ≠ some (.mutex j) := by
  have hCheck : checkBoot sampleImage
      [sampleTask 5, sampleTask 5, .mutex (some 0), .mutex (some 1)]
      [.call (.mutexLock (some 0) osWaitForever), .tick, .pendSV,
        .call (.mutexLock (some 1) osWaitForever), .tick, .pendSV,
        .call (.mutexLock (some 1) osWaitForever), .pendSV]
      (fun l => decide (UserBlocks l) && decide (WaitsUpward id l))
      (fun s => s.kernel.blockedOn 1 == some (.mutex 1)) = true := by
    decide +kernel
  obtain ⟨trace, s, hReach, _, hEach, hFinal⟩ := reaches_of_checkBoot hCheck
  simp only [Bool.and_eq_true, decide_eq_true_eq, beq_iff_eq] at hEach hFinal
  have hUser : ∀ l ∈ trace, UserBlocks l := fun l hl => (hEach l hl).1
  have hUp : ∀ l ∈ trace, WaitsUpward id l := fun l hl => (hEach l hl).2
  exact ⟨trace, s, hReach, hFinal, (chains_end hReach hUser hUp).2 1 1 hFinal⟩

end KoRTOS
