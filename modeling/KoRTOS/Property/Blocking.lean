import KoRTOS.Evaluation
import KoRTOS.Invariant.Sound

/-!
# The representation of blocking

A task is blocked on a primitive exactly when it is in one waitlist, once, and
its control block names that waitlist. The waitlists are never full.
-/

namespace KoRTOS

/-- Task `t` is one of the first `wait_count` entries of the waitlist, at index `i`. -/
def ListedAt (k : Kernel) (t : TaskId) (w : WaitlistRef) (i : Nat) : Prop :=
  i < (k.waitlist w).waitCount ∧ (k.waitlist w).taskWaitlist i = some t

/-- `TASK_BLOCKED` for another reason than a delay. -/
def BlockedOnPrimitive (k : Kernel) (t : TaskId) : Prop :=
  (k.userTasks t).currentState = .blocked ∧
    ((k.userTasks t).blockReason = .sem ∨ (k.userTasks t).blockReason = .mutex ∨
      (k.userTasks t).blockReason = .queueSend ∨ (k.userTasks t).blockReason = .queueRecv)

/-- `t` occurs in one waitlist, once; that is its `blocked_waitlist`, of the kind that its
`block_reason` names. -/
def ProperlyListed (k : Kernel) (t : TaskId) : Prop :=
  ∃ w i, ListedAt k t w i ∧ (∀ w' i', ListedAt k t w' i' → w' = w ∧ i' = i) ∧
    (k.userTasks t).blockedWaitlist = some w ∧ (k.userTasks t).blockReason = w.blockReason

def UserTask (k : Kernel) (t : TaskId) : Prop := t ≠ idleTaskIdx ∧ t < k.taskCount

structure BlockingInvariant (k : Kernel) : Prop where
  listed_iff : ∀ t, UserTask k t → (BlockedOnPrimitive k t ↔ ProperlyListed k t)
  unlisted : ∀ t, ¬ (UserTask k t ∧ BlockedOnPrimitive k t) →
    (k.userTasks t).blockedWaitlist = none
  beyond : ∀ w i, (k.waitlist w).waitCount ≤ i → (k.waitlist w).taskWaitlist i = none
  total : ∀ W : Finset WaitlistRef, ∑ w ∈ W, (k.waitlist w).waitCount ≤ k.taskCount - 1

section Waiting

variable {k k' : Kernel} {t : TaskId} {w : WaitlistRef} {i : Nat}

theorem WaitlistRef.blockReason_cases (w : WaitlistRef) :
    w.blockReason = .sem ∨ w.blockReason = .mutex ∨ w.blockReason = .queueSend ∨
      w.blockReason = .queueRecv := by cases w <;> simp [WaitlistRef.blockReason]

theorem Waiting.listedAt_iff (h : Waiting k) : ListedAt k t w i ↔ (k.waiters w)[i]? = some t := by
  have hList := h.listed w
  constructor
  · intro hAt
    rw [← hList.entry]
    exact hAt.2
  · intro hAt
    constructor
    · rw [hList.count]
      exact (List.getElem?_eq_some_iff.mp hAt).1
    · rw [hList.entry]
      exact hAt

theorem Waiting.blockedOn_of_listedAt (h : Waiting k) (hAt : ListedAt k t w i) :
    k.blockedOn t = some w :=
  h.mem_waiters.mp (List.mem_of_getElem? (h.listedAt_iff.mp hAt))

theorem Waiting.properlyListed (h : Waiting k) (ht : k.blockedOn t = some w) :
    ProperlyListed k t := by
  obtain ⟨i, hi⟩ := List.getElem?_of_mem (h.mem_waiters.mpr ht)
  refine ⟨w, i, h.listedAt_iff.mpr hi, ?_, ht, (h.blocked ht).2.2.2⟩
  intro w' i' hAt
  have hw : w' = w := by
    have hOn := h.blockedOn_of_listedAt hAt
    rw [ht] at hOn
    exact (Option.some.inj hOn).symm
  subst hw
  have hi' := h.listedAt_iff.mp hAt
  refine ⟨rfl, ?_⟩
  have hLt := (List.getElem?_eq_some_iff.mp hi').1
  exact (List.getElem?_inj hLt (h.fibers.nodup w')).mp (hi'.trans hi.symm)

theorem Waiting.blockedOnPrimitive_iff (h : Waiting k) :
    BlockedOnPrimitive k t ↔ ∃ w, k.blockedOn t = some w := by
  constructor
  · rintro ⟨hState, hReason⟩
    cases hOn : k.blockedOn t with
    | some w => exact ⟨w, rfl⟩
    | none =>
      rcases h.unlisted hOn with ⟨_, _, _, hDelay⟩ | ⟨hFree, _⟩
      · rw [hDelay] at hReason
        simp at hReason
      · exact absurd hState hFree
  · rintro ⟨w, hOn⟩
    obtain ⟨_, _, hState, hReason⟩ := h.blocked hOn
    exact ⟨hState, hReason ▸ w.blockReason_cases⟩

theorem Waiting.blockingInvariant (h : Waiting k) : BlockingInvariant k where
  listed_iff t _ := by
    rw [h.blockedOnPrimitive_iff]
    constructor
    · rintro ⟨w, hOn⟩
      exact h.properlyListed hOn
    · rintro ⟨w, i, hAt, _⟩
      exact ⟨w, h.blockedOn_of_listedAt hAt⟩
  unlisted t ht := by
    cases hOn : k.blockedOn t with
    | none => exact hOn
    | some w =>
      obtain ⟨hUser, hLt, _⟩ := h.blocked hOn
      exact absurd ⟨⟨hUser, hLt⟩, h.blockedOnPrimitive_iff.mpr ⟨w, hOn⟩⟩ ht
  beyond w i hi := by
    rw [(h.listed w).entry, List.getElem?_eq_none]
    rw [← (h.listed w).count]
    exact hi
  total := h.sum_waitCount_le

theorem Section.result_ne_full {piece : Piece} {err : OsErr} {data : List U8} (h : Waiting k)
    (hs : Section k piece k' (.returned err data))
    (hLock : ∀ i r st, piece = .rest (.mutexLock i r st) → r = .ok) : err ≠ .waitlistFull := by
  have hRefused : ∀ {err}, Refused k piece err → err ≠ .waitlistFull := by
    intro err hRefused
    cases hRefused with
    | listFull _ hFull => exact absurd h.waitCount_lt (Nat.not_lt.mpr hFull)
    | lockFailed hErr => exact absurd (hLock _ _ _ rfl) hErr
    | semOver =>
      unfold timeoutResult
      split <;> simp
    | lockOver =>
      unfold timeoutResult
      split <;> simp
    | _ => simp
  cases hs with
  | refuse hErr => exact hRefused hErr
  | _ => simp

end Waiting

theorem Sound.result_ne_full {s s' : Sys} {e : Event} {ret : Ret} (h : Sound s)
    (hMove : Move s e s' (some ret)) : ret.err ≠ .waitlistFull := by
  generalize hOut : some ret = out at hMove
  cases hMove with
  | create _ _ _ hCreation =>
    cases hOut
    cases hCreation with
    | fail _ hFull => exact hFull
    | _ => simp
  | @call c k' f _ _ _ hSection =>
    cases f with
    | suspended => cases hOut
    | returned err data =>
      cases hOut
      exact hSection.result_ne_full h.waiting (by simp)
  | @resume rest k' f _ hPending hSection =>
    cases f with
    | suspended => cases hOut
    | returned err data =>
      cases hOut
      apply hSection.result_ne_full h.waiting
      intro i r st hRest
      cases hRest
      exact h.lock_ok hPending
  | isrSend _ hSection =>
    cases hOut
    exact hSection.result_ne_full h.waiting (by simp)
  | isrRecv _ hSection =>
    cases hOut
    exact hSection.result_ne_full h.waiting (by simp)
  | tick => cases hOut
  | pendSV => cases hOut

theorem blocking_representation {trace : List Label} {s : Sys} (h : Reaches trace s)
    (hUsed : ∀ l ∈ trace, WellUsed l) :
    BlockingInvariant s.kernel ∧ ∀ l ∈ trace, ∀ ret, l.out = some ret →
      ret.err ≠ .waitlistFull := by
  have hUser : ∀ l ∈ trace, UserBlocks l := fun l hl => (hUsed l hl).1
  constructor
  · exact (h.sound hUser).waiting.blockingInvariant
  · intro l hl ret hOut
    obtain ⟨image, calls, start, hBoot, hRun⟩ := h
    obtain ⟨hTaken, before, after, hTrace, hBefore⟩ := hRun.split hl
    have hPre : Sound l.pre := sound_of_run hBefore (sound_of_boot hBoot) fun l' hl' =>
      hUser l' (hTrace ▸ List.mem_append_left _ hl')
    have hMove := move_of_step hTaken
    rw [hOut] at hMove
    exact hPre.result_ne_full hMove

/-- Two tasks wait for one semaphore, one of them with a time-out. -/
theorem blocking_representation_twoWaiters :
    ∃ trace s, Reaches trace s ∧ s.kernel.waiters (.sem 0) = [1, 2] ∧
      BlockingInvariant s.kernel ∧
      ∀ l ∈ trace, ∀ ret, l.out = some ret → ret.err ≠ .waitlistFull := by
  have hCheck : checkBoot sampleImage
      [sampleTask 1, sampleTask 2, .sem (some 0) 0 (some .fifo)]
      [.call (.semWait (some 0) osWaitForever), .pendSV, .call (.semWait (some 0) 5), .pendSV]
      (fun l => decide (WellUsed l)) (fun s => s.kernel.waiters (.sem 0) == [1, 2]) = true := by
    decide +kernel
  obtain ⟨trace, s, hReaches, _, hUsed, hFinal⟩ := reaches_of_checkBoot hCheck
  have hRepresentation := blocking_representation hReaches fun l hl =>
    of_decide_eq_true (hUsed l hl)
  exact ⟨trace, s, hReaches, by simpa using hFinal, hRepresentation⟩

end KoRTOS
