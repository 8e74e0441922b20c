import KoRTOS.Property.TimedBlocking

/-!
# The deadline of a queue call

A queue call with a finite time-out computes the tick of its deadline once, and
in every round of its loop what is left until then. Tick 0 stands for no
deadline at all, and a deadline has passed when a difference modulo `2 ^ 32` is
not negative, which is wrong from half the range on.
-/

namespace KoRTOS

def queueTimeout : ApiCall → Option U32
  | .queueSend _ _ n => some n
  | .queueRecv _ _ n => some n
  | _ => none

/-- The code that task `t` itself runs in this transition. -/
def ownPiece (t : TaskId) (l : Label) : Option Piece :=
  if l.pre.kernel.currentTask = t then
    match l.event with
    | .call c => some (.call c)
    | .resume => (l.pre.pending t).map .rest
    | _ => none
  else none

def Returns (t : TaskId) (l : Label) : Prop := ownPiece t l ≠ none ∧ l.out ≠ none

/-- The call with which the transitions begin has not ended in any of them. -/
def InCall (t : TaskId) (trace : List Label) : Prop := ∀ l ∈ trace, ¬ Returns t l

/-- The piece is a round that finds the queue full, for a sender, or empty. -/
def hasToWait (k : Kernel) : Piece → Bool
  | .call (.queueSend (some q) (some _) _) => decide ((k.queues q).maxItems ≤ (k.queues q).count)
  | .call (.queueRecv (some q) false _) => decide ((k.queues q).count = 0)
  | .rest (.queueSend q _ _ _) =>
    !k.current.timeout && decide ((k.queues q).maxItems ≤ (k.queues q).count)
  | .rest (.queueRecv q _ _) => !k.current.timeout && decide ((k.queues q).count = 0)
  | _ => false

/-- In a call made `m` ticks ago, when the counter was `start`, the test for the deadline says
what it should. -/
def InTime (start n : U32) (m : Nat) : Prop :=
  start + n ≠ 0 ∧ (m < n.toNat → n.toNat ≤ m + 2 ^ 31) ∧
    (n.toNat ≤ m → (m - n.toNat) % 2 ^ 32 < 2 ^ 31)

/-- A blocked task that stored `wake` is woken by the `n`-th tick after `start`, which is still
to come after `m` ticks, and by none between. -/
def WakesAt (start wake : U32) (m n : Nat) : Prop :=
  m < n ∧ Due start wake n ∧ ∀ j, m < j → j < n → ¬ Due start wake j

/-- What one transition does inside of the call that began `before`: it does not give up before
`n` ticks, and if the task is blocked afterwards the `n`-th tick wakes it. -/
structure KeepsDeadline (t : TaskId) (start n : U32) (before : List Label) (l : Label) : Prop where
  early : ∀ ret, ownPiece t l ≠ none → l.out = some ret → ret.err = .unavailable →
    n.toNat ≤ ticks before
  wake : ¬ Returns t l → (l.post.kernel.userTasks t).currentState = .blocked →
    WakesAt start (l.post.kernel.userTasks t).wakeupTick (ticks (before ++ [l])) n.toNat

/-- Every round of the call that has to wait is a user task's, and in time. -/
def RoundsInTime (t : TaskId) (start n : U32) (trace : List Label) : Prop :=
  ∀ before l after, trace = before ++ l :: after → InCall t before →
    ∀ piece, ownPiece t l = some piece → hasToWait l.pre.kernel piece = true →
      t ≠ idleTaskIdx ∧ InTime start n (ticks before)

/-- The deadline is kept in all transitions until the call ends. -/
def DeadlineKept (t : TaskId) (start n : U32) (trace : List Label) : Prop :=
  ∀ before l after, trace = before ++ l :: after → InCall t before →
    KeepsDeadline t start n before l

def Pending.deadline : Pending → Option (U32 × U32)
  | .queueSend _ _ n d => some (n, d)
  | .queueRecv _ n d => some (n, d)
  | _ => none

def Piece.deadline (k : Kernel) : Piece → Option (U32 × U32)
  | .call c => (queueTimeout c).map fun n => (n, deadlineTickOf k.systickCount n)
  | .rest p => p.deadline

/-- The ways in which a round of a queue call can end. -/
inductive Round (k : Kernel) (piece : Piece) (n d : U32) : Kernel → Flow → Prop
  | ends {k' err data} (hErr : err ≠ .unavailable)
      (hGoes : hasToWait k piece = true → ∃ w, osMaxTasks ≤ (k.waitlist w).waitCount) :
      Round k piece n d k' (.returned err data)
  | timedOut (hTimeout : k.current.timeout = true) (hRest : ∃ p, piece = .rest p)
      (hGoes : hasToWait k piece = false) : Round k piece n d k (.ret .unavailable)
  | givesUp (hWaits : hasToWait k piece = true) (hGivesUp : GivesUp k n d) :
      Round k piece n d k (.ret .unavailable)
  | waits {w rest} (hWaits : hasToWait k piece = true) (hStay : ¬ GivesUp k n d)
      (hRest : rest.deadline = some (n, d)) :
      Round k piece n d (enqueueCurrent k w (remainingTimeout k d) w.blockReason) (.suspended rest)

section Rounds

variable {k k' : Kernel} {piece : Piece} {f : Flow} {q : QueueId} {item : Nat → U8} {n d : U32}
  {w : WaitlistRef} {rest : Pending} {err : OsErr}

theorem Sending.deadline (h : Sending k piece q item n d) : piece.deadline k = some (n, d) := by
  cases h <;> rfl

theorem Receiving.deadline (h : Receiving k piece q n d) : piece.deadline k = some (n, d) := by
  cases h <;> rfl

theorem Sending.hasToWait_eq (h : Sending k piece q item n d) :
    hasToWait k piece = decide ((k.queues q).maxItems ≤ (k.queues q).count) := by
  cases h with
  | call => rfl
  | rest hTimeout => rw [hasToWait, hTimeout]; rfl

theorem Receiving.hasToWait_eq (h : Receiving k piece q n d) :
    hasToWait k piece = decide ((k.queues q).count = 0) := by
  cases h with
  | call => rfl
  | rest hTimeout => rw [hasToWait, hTimeout]; rfl

theorem Blocks.round (h : Blocks k piece w n rest) {n' : U32}
    (hDeadline : piece.deadline k = some (n', d)) :
    n = remainingTimeout k d ∧ hasToWait k piece = true ∧ ¬ GivesUp k n' d ∧
      rest.deadline = some (n', d) := by
  cases h with
  | sem => cases hDeadline
  | send hPiece hFull hStay =>
    rw [hPiece.deadline] at hDeadline
    cases hDeadline
    exact ⟨rfl, by rw [hPiece.hasToWait_eq]; exact decide_eq_true hFull, hStay, rfl⟩
  | recv hPiece hEmpty hStay =>
    rw [hPiece.deadline] at hDeadline
    cases hDeadline
    exact ⟨rfl, by rw [hPiece.hasToWait_eq]; exact decide_eq_true hEmpty, hStay, rfl⟩

theorem Refused.round (h : Refused k piece err) (hDeadline : piece.deadline k = some (n, d)) :
    Round k piece n d k (.ret err) := by
  cases h with
  | nullSend hNull =>
    refine .ends (by simp) fun hWaits => ?_
    obtain rfl | rfl := hNull
    · cases hWaits
    · unfold hasToWait at hWaits
      split at hWaits <;> simp_all
  | nullRecv hNull =>
    refine .ends (by simp) fun hWaits => ?_
    obtain rfl | rfl := hNull
    · cases hWaits
    · unfold hasToWait at hWaits
      split at hWaits <;> simp_all
  | sendFull hPiece hFull hGivesUp =>
    rw [hPiece.deadline] at hDeadline
    cases hDeadline
    exact .givesUp (by rw [hPiece.hasToWait_eq]; exact decide_eq_true hFull) hGivesUp
  | recvEmpty hPiece hEmpty hGivesUp =>
    rw [hPiece.deadline] at hDeadline
    cases hDeadline
    exact .givesUp (by rw [hPiece.hasToWait_eq]; exact decide_eq_true hEmpty) hGivesUp
  | listFull hBlocks hFull => exact .ends (by simp) fun _ => ⟨_, hFull⟩
  | sendOver hTimeout => exact .timedOut hTimeout ⟨_, rfl⟩ (by rw [hasToWait, hTimeout]; rfl)
  | recvOver hTimeout => exact .timedOut hTimeout ⟨_, rfl⟩ (by rw [hasToWait, hTimeout]; rfl)
  | _ => cases hDeadline

theorem Traffic.goes {data : List U8} (h : Traffic k piece w k' data) :
    hasToWait k piece = false := by
  cases h with
  | post => rfl
  | push hPiece hRoom =>
    rw [hPiece.hasToWait_eq]
    exact decide_eq_false (Nat.not_le.mpr hRoom)
  | pop hPiece hItem =>
    rw [hPiece.hasToWait_eq]
    exact decide_eq_false hItem

theorem Section.round (hs : Section k piece k' f) (hDeadline : piece.deadline k = some (n, d)) :
    Round k piece n d k' f := by
  cases hs with
  | refuse h => exact h.round hDeadline
  | serve hTraffic => exact .ends (by simp) fun hWaits => by simp [hTraffic.goes] at hWaits
  | wake hTraffic => exact .ends (by simp) fun hWaits => by simp [hTraffic.goes] at hWaits
  | block hBlocks =>
    obtain ⟨rfl, hWaits, hStay, hRest⟩ := hBlocks.round hDeadline
    exact .waits hWaits hStay hRest
  | _ => cases hDeadline

end Rounds

section Arithmetic

variable {start n : U32} {m j : Nat}

theorem passed_iff : 0 ≤ (start + BitVec.ofNat 32 m - (start + n)).toInt ↔
    (n.toNat ≤ m ∧ (m - n.toNat) % 2 ^ 32 < 2 ^ 31) ∨ (m < n.toNat ∧ m + 2 ^ 31 < n.toNat) := by
  have hDiff : start + BitVec.ofNat 32 m - (start + n) = BitVec.ofNat 32 m - n := by
    bv_omega
  have hn := n.isLt
  rw [hDiff, BitVec.toInt_eq_toNat_cond, BitVec.toNat_sub, BitVec.toNat_ofNat]
  split <;> omega

theorem wakesAt (hWake : start + n ≠ 0) (hNear : n.toNat ≤ m + 2 ^ 31) (hm : m < n.toNat) :
    WakesAt start (start + n) m n.toNat := by
  have hn := n.isLt
  refine ⟨hm, ?_, ?_⟩
  · rw [due_iff hn]
    exact ⟨hWake, .inl ⟨le_rfl, by omega⟩⟩
  · intro j hj hLt
    rw [due_iff (hLt.trans hn)]
    rintro ⟨_, hDue⟩
    omega

theorem due_next_iff (hWake : start + n ≠ 0) (hNear : n.toNat ≤ m + 2 ^ 31) (hm : m < n.toNat) :
    Due start (start + n) (m + 1) ↔ m + 1 = n.toNat := by
  have hn := n.isLt
  rw [due_iff (by omega)]
  constructor
  · rintro ⟨_, hDue⟩
    omega
  · intro hEq
    exact ⟨hWake, .inl ⟨hEq.ge, by omega⟩⟩

variable {k : Kernel}

theorem givesUp_iff (hClock : k.systickCount = start + BitVec.ofNat 32 m) (hPos : n ≠ 0)
    (hInTime : InTime start n m) : GivesUp k n (start + n) ↔ n.toNat ≤ m := by
  obtain ⟨hWake, hBefore, hAfter⟩ := hInTime
  rw [GivesUp, hClock, passed_iff]
  constructor
  · rintro (hZero | ⟨_, ⟨hLe, _⟩ | ⟨hLt, hFar⟩⟩)
    · exact absurd hZero hPos
    · exact hLe
    · have hNear := hBefore hLt
      omega
  · intro hLe
    exact .inr ⟨hWake, .inl ⟨hLe, hAfter hLe⟩⟩

theorem wakeupTickOf_remaining (hClock : k.systickCount = start + BitVec.ofNat 32 m)
    (hWake : start + n ≠ 0) (hNear : n.toNat ≤ m + 2 ^ 31) (hm : m < n.toNat) :
    wakeupTickOf k.systickCount (remainingTimeout k (start + n)) = start + n := by
  have hRemaining : remainingTimeout k (start + n) = n - BitVec.ofNat 32 m := by
    rw [remainingTimeout, if_pos hWake, hClock]
    bv_omega
  have hFinite : n - BitVec.ofNat 32 m ≠ osWaitForever := by
    intro hEq
    have hNat := congrArg BitVec.toNat hEq
    rw [BitVec.toNat_sub, BitVec.toNat_ofNat] at hNat
    have hForever : osWaitForever.toNat = 2 ^ 32 - 1 := rfl
    have hn := n.isLt
    omega
  rw [hRemaining, wakeupTickOf, if_neg hFinite, hClock]
  bv_omega

end Arithmetic

/-- What holds inside of a call made when the counter was `start`: a blocked task stored the
tick of the deadline, and one that was woken by the deadline was not woken before. -/
structure InProgress (t : TaskId) (start n : U32) (trace : List Label) (s : Sys) : Prop where
  user : t ≠ idleTaskIdx
  known : t < s.kernel.taskCount
  pending : ∃ rest, s.pending t = some rest ∧ rest.deadline = some (n, start + n)
  clock : s.kernel.systickCount = start + BitVec.ofNat 32 (ticks trace)
  finite : start + n ≠ 0
  near : n.toNat ≤ ticks trace + 2 ^ 31
  asleep : (s.kernel.userTasks t).currentState = .blocked →
    (s.kernel.userTasks t).wakeupTick = start + n ∧ ticks trace < n.toNat
  woken : (s.kernel.userTasks t).currentState ≠ .blocked →
    (s.kernel.userTasks t).timeout = true → n.toNat ≤ ticks trace

/-- What other code than a tick can do to the control block of a task that does not run it:
nothing that matters here, or it releases the task. -/
def LetsBe (k k' : Kernel) (t : TaskId) : Prop :=
  (((k'.userTasks t).currentState = .blocked ↔ (k.userTasks t).currentState = .blocked) ∧
    (k'.userTasks t).wakeupTick = (k.userTasks t).wakeupTick ∧
    (k'.userTasks t).timeout = (k.userTasks t).timeout) ∨
  ((k'.userTasks t).currentState ≠ .blocked ∧ (k'.userTasks t).timeout = false)

section Others

variable {k k' : Kernel} {s s' : Sys} {e : Event} {out : Option Ret} {t : TaskId} {piece : Piece}
  {f : Flow} {start n : U32} {trace : List Label} {l : Label}

theorem LetsBe.of_same (h : k'.userTasks t = k.userTasks t) : LetsBe k k' t := by
  left
  rw [h]
  exact ⟨Iff.rfl, rfl, rfl⟩

theorem Section.letsBe (hs : Section k piece k' f) (hListed : Listed k)
    (hOther : f.rest ≠ none → t ≠ k.currentTask) : LetsBe k k' t := by
  obtain ⟨_, hTimeout, hTick, hState⟩ | ⟨_, _, _, hTimeout, hReady⟩ :=
    (hs.reblocks hListed).other hOther
  · exact .inl ⟨by rw [hState], hTick, hTimeout⟩
  · exact .inr ⟨by rw [hReady]; simp, hTimeout⟩

theorem ownPiece_ne {p : Piece} (hOther : ownPiece t l = none)
    (hPiece : l.pre.kernel.currentTask = t → ownPiece t l = some p) :
    t ≠ l.pre.kernel.currentTask := by
  rintro rfl
  rw [hPiece rfl] at hOther
  cases hOther

theorem Move.letsBe (hMove : Move s e s' out) (hSeated : Seated s.kernel)
    (hUser : t ≠ idleTaskIdx) (hKnown : t < s.kernel.taskCount) (hTick : isTick e = false)
    (hOther : ownPiece t ⟨s, e, out, s'⟩ = none) :
    LetsBe s.kernel s'.kernel t ∧ s'.pending t = s.pending t ∧
      s'.kernel.systickCount = s.kernel.systickCount := by
  have hListed := hSeated.entries.listed
  cases hMove with
  | create _ _ _ hCreation =>
    exact ⟨.of_same (userTasks_creation_old hCreation hKnown), rfl,
      (current_creation hCreation).2.2⟩
  | @call c _ _ _ _ _ hSection =>
    have hne : t ≠ s.kernel.currentTask := ownPiece_ne (p := .call c) hOther
      fun hEq => if_pos hEq
    refine ⟨hSection.letsBe hListed fun _ => hne, ?_, hSection.systickCount⟩
    rw [pending_afterPiece hSection, if_neg hne]
  | @resume rest _ _ _ hPending hSection =>
    have hne : t ≠ s.kernel.currentTask := by
      refine ownPiece_ne (p := .rest rest) hOther fun hEq => (if_pos hEq).trans ?_
      subst hEq
      rw [hPending]
      rfl
    refine ⟨hSection.letsBe hListed fun _ => hne, ?_, hSection.systickCount⟩
    rw [pending_afterPiece hSection, if_neg hne]
  | @isrSend queue _ k' _ _ _ hSection =>
    have hLets : LetsBe s.kernel k' t := hSection.letsBe hListed fun hRest => absurd rfl hRest
    dsimp only
    split
    · have hQuiet := quiet_countDropped k' queue
      refine ⟨?_, rfl, hQuiet.systickCount.trans hSection.systickCount⟩
      unfold LetsBe
      rw [hQuiet.userTasks]
      exact hLets
    · exact ⟨hLets, rfl, hSection.systickCount⟩
  | isrRecv _ hSection =>
    exact ⟨hSection.letsBe hListed fun hRest => absurd rfl hRest, rfl, hSection.systickCount⟩
  | tick => cases hTick
  | pendSV =>
    have hSame := sameButStates_osScheduleNextTask (k := { s.kernel with pendSV := false })
    refine ⟨.inl ⟨⟨blocked_of_schedule, ?_⟩, hSame.wakeupTick, hSame.timeout⟩, rfl,
      hSame.systickCount⟩
    exact blocked_schedule (k := { s.kernel with pendSV := false }) hSeated.current_lt hUser

theorem taskCount_afterMove (hMove : Move s e s' out) :
    s.kernel.taskCount ≤ s'.kernel.taskCount := by
  cases hMove with
  | create _ _ _ hCreation => exact taskCount_creation hCreation
  | call _ _ _ hSection => exact hSection.current.2.ge
  | resume _ _ hSection => exact hSection.current.2.ge
  | isrSend _ hSection =>
    dsimp only
    split
    · exact ((quiet_countDropped _ _).taskCount.trans hSection.current.2).ge
    · exact hSection.current.2.ge
  | isrRecv _ hSection => exact hSection.current.2.ge
  | tick => exact frame_osTick.2.1.ge
  | pendSV =>
    have hSame := sameButStates_osScheduleNextTask (k := { s.kernel with pendSV := false })
    exact hSame.taskCount.ge

theorem InProgress.afterTick (h : InProgress t start n trace s) (hTick : l.event = .tick) :
    InProgress t start n (trace ++ [l]) { s with kernel := osTick s.kernel } := by
  have hTicks : ticks (trace ++ [l]) = ticks trace + 1 := by
    rw [ticks_snoc, hTick]
    rfl
  obtain ⟨hReached, hNotYet⟩ := userTasks_osTick h.user h.known
  have hClock : (osTick s.kernel).systickCount =
      start + BitVec.ofNat 32 (ticks (trace ++ [l])) := by
    rw [frame_osTick.2.2, h.clock, hTicks]
    bv_omega
  refine ⟨h.user, ?_, h.pending, hClock, h.finite, ?_, ?_, ?_⟩
  · dsimp only
    rw [frame_osTick.2.1]
    exact h.known
  · have hNear := h.near
    omega
  · intro hBlocked
    dsimp only at hBlocked ⊢
    have hNot : ¬ wakeupReached (updateTickCount s.kernel) t := by
      intro hDue
      exact absurd (hBlocked.symm.trans (hReached hDue)) (by simp)
    rw [hNotYet hNot] at hBlocked ⊢
    obtain ⟨hWake, hLt⟩ := h.asleep hBlocked
    refine ⟨hWake, ?_⟩
    rw [wakeupReached_iff hBlocked h.clock, hWake, due_next_iff h.finite h.near hLt] at hNot
    omega
  · intro hAwake hTimeout
    dsimp only at hAwake hTimeout
    by_cases hDue : wakeupReached (updateTickCount s.kernel) t
    · have hBlocked : (s.kernel.userTasks t).currentState = .blocked := hDue.1
      obtain ⟨hWake, hLt⟩ := h.asleep hBlocked
      rw [wakeupReached_iff hBlocked h.clock, hWake, due_next_iff h.finite h.near hLt] at hDue
      omega
    · rw [hNotYet hDue] at hAwake hTimeout
      have hPassed := h.woken hAwake hTimeout
      omega

theorem InProgress.afterOther (h : InProgress t start n trace s) (hSeated : Seated s.kernel)
    (hMove : Move s e s' out) (hOther : ownPiece t ⟨s, e, out, s'⟩ = none) :
    InProgress t start n (trace ++ [⟨s, e, out, s'⟩]) s' := by
  cases hTick : isTick e with
  | true =>
    cases hMove with
    | tick => exact h.afterTick rfl
    | _ => cases hTick
  | false =>
    have hTicks : ticks (trace ++ [⟨s, e, out, s'⟩]) = ticks trace := by
      rw [ticks_snoc, hTick]
      rfl
    obtain ⟨hLets, hPending, hClock⟩ := hMove.letsBe hSeated h.user h.known hTick hOther
    refine ⟨h.user, h.known.trans_le (taskCount_afterMove hMove), ?_, ?_, h.finite, ?_, ?_, ?_⟩
    · rw [hPending]
      exact h.pending
    · rw [hClock, hTicks]
      exact h.clock
    · rw [hTicks]
      exact h.near
    · intro hBlocked
      rw [hTicks]
      obtain ⟨hState, hWake, _⟩ | ⟨hAwake, _⟩ := hLets
      · rw [hWake]
        exact h.asleep (hState.mp hBlocked)
      · exact absurd hBlocked hAwake
    · intro hAwake hTimeout
      rw [hTicks]
      obtain ⟨hState, _, hFlag⟩ | ⟨_, hFlag⟩ := hLets
      · exact h.woken (fun hBlocked => hAwake (hState.mpr hBlocked)) (hFlag ▸ hTimeout)
      · rw [hFlag] at hTimeout
        cases hTimeout

theorem InProgress.wakes (h : InProgress t start n trace s)
    (hBlocked : (s.kernel.userTasks t).currentState = .blocked) :
    WakesAt start (s.kernel.userTasks t).wakeupTick (ticks trace) n.toNat := by
  obtain ⟨hWake, hLt⟩ := h.asleep hBlocked
  rw [hWake]
  exact wakesAt h.finite h.near hLt

end Others

section Own

variable {t : TaskId} {start n : U32} {trace : List Label} {l : Label} {piece : Piece}

theorem section_of_own {d : U32} (hTaken : Transition.Taken step l)
    (hOwn : ownPiece t l = some piece) (hDeadline : piece.deadline l.pre.kernel = some (n, d)) :
    l.pre.kernel.currentTask = t ∧ isTick l.event = false ∧
      ∃ k' f, Round l.pre.kernel piece n d k' f ∧ l.post = l.pre.afterPiece k' f ∧
        l.out = f.result := by
  unfold ownPiece at hOwn
  split at hOwn
  · rename_i hCurrent
    have hMove := move_of_step hTaken
    obtain ⟨pre, e, out, post⟩ := l
    dsimp only at hOwn hCurrent hMove hDeadline ⊢
    cases hMove with
    | create =>
      cases hOwn
      cases hDeadline
    | call _ _ _ hSection =>
      cases hOwn
      exact ⟨hCurrent, rfl, _, _, hSection.round hDeadline, rfl, rfl⟩
    | resume _ hPending hSection =>
      rw [← hCurrent, hPending] at hOwn
      cases hOwn
      exact ⟨hCurrent, rfl, _, _, hSection.round hDeadline, rfl, rfl⟩
    | _ => cases hOwn
  · cases hOwn

theorem ticks_own (hTick : isTick l.event = false) : ticks (trace ++ [l]) = ticks trace := by
  rw [ticks_snoc, hTick]
  rfl

/-- The task runs a round of the call that it made when the counter was `start`. -/
structure OwnRound (t : TaskId) (start n : U32) (before : List Label) (l : Label)
    (piece : Piece) : Prop where
  own : ownPiece t l = some piece
  deadline : piece.deadline l.pre.kernel = some (n, start + n)
  known : t < l.pre.kernel.taskCount
  clock : l.pre.kernel.systickCount = start + BitVec.ofNat 32 (ticks before)
  woken : l.pre.kernel.current.timeout = true → (∃ p, piece = .rest p) → n.toNat ≤ ticks before

theorem userTasks_suspended {w : WaitlistRef} {r : U32} {rest : Pending}
    (hCurrent : l.pre.kernel.currentTask = t) (hPost : l.post =
      l.pre.afterPiece (enqueueCurrent l.pre.kernel w r w.blockReason) (.suspended rest)) :
    l.post.kernel.userTasks t =
      { l.pre.kernel.userTasks t with
        currentState := .blocked
        blockReason := w.blockReason
        blockedWaitlist := some w
        wakeupTick := wakeupTickOf l.pre.kernel.systickCount r } := by
  rw [hPost]
  change (enqueueCurrent _ _ _ _).userTasks t = _
  rw [userTasks_enqueueCurrent, if_pos hCurrent.symm, hCurrent]

theorem OwnRound.suspends {w : WaitlistRef} {rest : Pending} (h : OwnRound t start n trace l piece)
    (hCurrent : l.pre.kernel.currentTask = t) (hTick : isTick l.event = false)
    (hUser : t ≠ idleTaskIdx) (hIn : InTime start n (ticks trace)) (hLt : ticks trace < n.toNat)
    (hRest : rest.deadline = some (n, start + n)) (hPost : l.post = l.pre.afterPiece
      (enqueueCurrent l.pre.kernel w (remainingTimeout l.pre.kernel (start + n)) w.blockReason)
      (.suspended rest)) :
    InProgress t start n (trace ++ [l]) l.post := by
  have hNear := hIn.2.1 hLt
  have hTask := userTasks_suspended hCurrent hPost
  rw [wakeupTickOf_remaining h.clock hIn.1 hNear hLt] at hTask
  have hKernel := congrArg Sys.kernel hPost
  have hPending : l.post.pending t = some rest := by
    rw [hPost, Sys.afterPiece, currentTask_enqueueCurrent, hCurrent]
    exact Function.update_self t _ _
  refine ⟨hUser, ?_, ⟨rest, hPending, hRest⟩, ?_, hIn.1, ?_, ?_, ?_⟩
  · rw [hKernel]
    exact h.known.trans_eq taskCount_enqueueCurrent.symm
  · rw [hKernel, ticks_own hTick]
    exact systickCount_enqueueCurrent.trans h.clock
  · rw [ticks_own hTick]
    exact hNear
  · intro _
    rw [hTask, ticks_own hTick]
    exact ⟨rfl, hLt⟩
  · intro hAwake
    rw [hTask] at hAwake
    exact absurd rfl hAwake

theorem OwnRound.keeps (h : OwnRound t start n trace l piece) (hTaken : Transition.Taken step l)
    (hPos : n ≠ 0) (hInTime : hasToWait l.pre.kernel piece = true →
      t ≠ idleTaskIdx ∧ InTime start n (ticks trace)) :
    KeepsDeadline t start n trace l ∧
      (¬ Returns t l → InProgress t start n (trace ++ [l]) l.post) := by
  obtain ⟨hCurrent, hTick, k', f, hRound, hPost, hOut⟩ := section_of_own hTaken h.own h.deadline
  have hRuns : ownPiece t l ≠ none := by
    rw [h.own]
    simp
  have hEnds : ∀ {err data}, l.out = some ⟨err, data⟩ →
      (err = .unavailable → n.toNat ≤ ticks trace) →
      KeepsDeadline t start n trace l ∧
        (¬ Returns t l → InProgress t start n (trace ++ [l]) l.post) := by
    intro err data hReturn hLate
    have hReturns : Returns t l := ⟨hRuns, by rw [hReturn]; simp⟩
    refine ⟨⟨?_, fun hGoesOn => absurd hReturns hGoesOn⟩, fun hGoesOn => absurd hReturns hGoesOn⟩
    intro ret _ hRet hErr
    rw [hReturn] at hRet
    cases hRet
    exact hLate hErr
  cases hRound with
  | ends hErr => exact hEnds hOut fun hEq => absurd hEq hErr
  | timedOut hTimeout hRest => exact hEnds hOut fun _ => h.woken hTimeout hRest
  | givesUp hWaits hGivesUp =>
    exact hEnds hOut fun _ => (givesUp_iff h.clock hPos (hInTime hWaits).2).mp hGivesUp
  | @waits w rest hWaits hStay hRest =>
    obtain ⟨hUser, hIn⟩ := hInTime hWaits
    have hLt : ticks trace < n.toNat := by
      rw [givesUp_iff h.clock hPos hIn] at hStay
      exact Nat.not_le.mp hStay
    have hProgress := h.suspends hCurrent hTick hUser hIn hLt hRest hPost
    refine ⟨⟨?_, fun _ => hProgress.wakes⟩, fun _ => hProgress⟩
    intro ret _ hRet
    rw [hOut] at hRet
    cases hRet

theorem OwnRound.inTime (h : OwnRound t start n trace l piece) (hTaken : Transition.Taken step l)
    (hPos : n ≠ 0) (hRoom : ∀ w, (l.pre.kernel.waitlist w).waitCount < osMaxTasks)
    (hKeeps : KeepsDeadline t start n trace l) (hWaits : hasToWait l.pre.kernel piece = true) :
    InTime start n (ticks trace) := by
  obtain ⟨hCurrent, hTick, k', f, hRound, hPost, hOut⟩ := section_of_own hTaken h.own h.deadline
  have hRuns : ownPiece t l ≠ none := by
    rw [h.own]
    simp
  cases hRound with
  | ends _ hGoes =>
    obtain ⟨w, hFull⟩ := hGoes hWaits
    exact absurd (hRoom w) (Nat.not_lt.mpr hFull)
  | timedOut _ _ hGoes =>
    rw [hWaits] at hGoes
    cases hGoes
  | givesUp _ hGivesUp =>
    have hLate : n.toNat ≤ ticks trace := hKeeps.early _ hRuns hOut rfl
    rw [GivesUp, h.clock, passed_iff] at hGivesUp
    obtain hZero | ⟨hWake, ⟨_, hNear⟩ | ⟨hLt, _⟩⟩ := hGivesUp
    · exact absurd hZero hPos
    · exact ⟨hWake, fun hLt => absurd hLt (Nat.not_lt.mpr hLate), fun _ => hNear⟩
    · exact absurd hLt (Nat.not_lt.mpr hLate)
  | @waits w rest _ hStay =>
    have hGoesOn : ¬ Returns t l := by
      rintro ⟨_, hReturn⟩
      exact hReturn hOut
    have hTask := userTasks_suspended hCurrent hPost
    obtain ⟨hLt, hDue, _⟩ := hKeeps.wake hGoesOn (by rw [hTask])
    rw [ticks_own hTick] at hLt
    have hWake : start + n ≠ 0 := by
      intro hZero
      have hNever : remainingTimeout l.pre.kernel (start + n) = osWaitForever :=
        if_neg (by rw [hZero]; simp)
      rw [hTask, hNever] at hDue
      exact hDue.1 rfl
    rw [GivesUp, h.clock, passed_iff] at hStay
    refine ⟨hWake, fun _ => ?_, fun hLe => absurd hLt (Nat.not_lt.mpr hLe)⟩
    by_contra hFar
    exact hStay (.inr ⟨hWake, .inr ⟨hLt, Nat.not_le.mp hFar⟩⟩)

end Own

section Runs

variable {t : TaskId} {start n : U32} {trace : List Label} {l : Label} {piece : Piece}
  {c : ApiCall} {s x : Sys}

theorem ownRound_of_call (hTimeout : queueTimeout c = some n) (hFinite : n ≠ osWaitForever)
    (hSeated : Seated l.pre.kernel) (hEvent : l.event = .call c) :
    OwnRound l.pre.kernel.currentTask l.pre.kernel.systickCount n [] l (.call c) where
  own := by rw [ownPiece, if_pos rfl, hEvent]
  deadline := by rw [Piece.deadline, hTimeout, Option.map_some, deadlineTickOf, if_neg hFinite]
  known := hSeated.current_lt
  clock := (BitVec.add_zero _).symm
  woken := by
    rintro _ ⟨_, hRest⟩
    cases hRest

theorem InProgress.ownRound (h : InProgress t start n trace l.pre)
    (hSeated : Seated l.pre.kernel) (hTaken : Transition.Taken step l)
    (hOwn : ownPiece t l = some piece) : OwnRound t start n trace l piece := by
  obtain ⟨rest, hPending, hDeadline⟩ := h.pending
  have hOwn' := hOwn
  unfold ownPiece at hOwn'
  split at hOwn'
  · rename_i hCurrent
    have hMove := move_of_step hTaken
    obtain ⟨pre, e, out, post⟩ := l
    dsimp only at hOwn' hCurrent hMove hPending
    -- inside of the call the task can only go on with it
    cases hMove with
    | create _ hFree =>
      rw [hCurrent, hPending] at hFree
      cases hFree
    | call _ hFree =>
      rw [hCurrent, hPending] at hFree
      cases hFree
    | resume hRun =>
      dsimp only at hOwn'
      rw [hPending] at hOwn'
      cases hOwn'
      refine ⟨hOwn, hDeadline, h.known, h.clock, fun hTimeout _ => ?_⟩
      subst hCurrent
      exact h.woken (hSeated.current_free hRun h.user) hTimeout
    | _ => cases hOwn'
  · cases hOwn'

theorem ownRound_or_other (hTimeout : queueTimeout c = some n) (hFinite : n ≠ osWaitForever)
    (hSeated : Seated l.pre.kernel) (hTaken : Transition.Taken step l)
    (hCall : trace = [] → l.event = .call c)
    (hStage : trace = [] ∧ l.pre = s ∨
      InProgress s.kernel.currentTask s.kernel.systickCount n trace l.pre) :
    (∃ piece, OwnRound s.kernel.currentTask s.kernel.systickCount n trace l piece) ∨
      (ownPiece s.kernel.currentTask l = none ∧
        InProgress s.kernel.currentTask s.kernel.systickCount n trace l.pre) := by
  obtain ⟨rfl, rfl⟩ | hProgress := hStage
  · exact .inl ⟨_, ownRound_of_call hTimeout hFinite hSeated (hCall rfl)⟩
  · cases hOwn : ownPiece s.kernel.currentTask l with
    | none => exact .inr ⟨rfl, hProgress⟩
    | some piece => exact .inl ⟨piece, hProgress.ownRound hSeated hTaken hOwn⟩

theorem InProgress.keeps (h : InProgress t start n trace l.pre) (hSeated : Seated l.pre.kernel)
    (hTaken : Transition.Taken step l) (hOther : ownPiece t l = none) :
    KeepsDeadline t start n trace l ∧ InProgress t start n (trace ++ [l]) l.post := by
  have hAfter : InProgress t start n (trace ++ [l]) l.post :=
    h.afterOther hSeated (move_of_step hTaken) hOther
  exact ⟨⟨fun _ hRuns => absurd hOther hRuns, fun _ => hAfter.wakes⟩, hAfter⟩

theorem inCall_snoc : InCall t (trace ++ [l]) ↔ InCall t trace ∧ ¬ Returns t l := by
  simp only [InCall, List.mem_append, List.mem_singleton, or_imp, forall_and, forall_eq]

/-- As long as the rounds are in time the deadline is kept, and until it ends the call goes on
as it should. -/
theorem deadlineKept_of_inTime (hTimeout : queueTimeout c = some n) (hFinite : n ≠ osWaitForever)
    (hPos : n ≠ 0) (hSeated : Seated s.kernel) (hRun : Run s trace x)
    (hCall : ∀ l after, trace = l :: after → l.event = .call c)
    (hInTime : RoundsInTime s.kernel.currentTask s.kernel.systickCount n trace) :
    DeadlineKept s.kernel.currentTask s.kernel.systickCount n trace ∧
      (InCall s.kernel.currentTask trace → trace = [] ∧ x = s ∨
        InProgress s.kernel.currentTask s.kernel.systickCount n trace x) := by
  induction hRun with
  | nil => exact ⟨by simp [DeadlineKept], fun _ => .inl ⟨rfl, rfl⟩⟩
  | @snoc trace l hRun hTaken ih =>
    rw [RoundsInTime, Transition.forall_split_snoc] at hInTime
    obtain ⟨hBefore, hLast⟩ := hInTime
    have hFirst : ∀ l' after, trace = l' :: after → l'.event = .call c := by
      rintro l' after rfl
      exact hCall l' (after ++ [l]) rfl
    obtain ⟨hKept, hStage⟩ := ih hFirst hBefore
    have hPre := seated_of_run hRun hSeated
    have hStep : InCall s.kernel.currentTask trace →
        KeepsDeadline s.kernel.currentTask s.kernel.systickCount n trace l ∧
          (¬ Returns s.kernel.currentTask l →
            InProgress s.kernel.currentTask s.kernel.systickCount n (trace ++ [l]) l.post) := by
      intro hInCall
      have hNext : trace = [] → l.event = .call c := by
        rintro rfl
        exact hCall l [] rfl
      obtain ⟨piece, hOwn⟩ | ⟨hOther, hProgress⟩ :=
        ownRound_or_other hTimeout hFinite hPre hTaken hNext (hStage hInCall)
      · exact hOwn.keeps hTaken hPos (hLast hInCall piece hOwn.own)
      · obtain ⟨hKeeps, hAfter⟩ := hProgress.keeps hPre hTaken hOther
        exact ⟨hKeeps, fun _ => hAfter⟩
    constructor
    · rw [DeadlineKept, Transition.forall_split_snoc]
      exact ⟨hKept, fun hInCall => (hStep hInCall).1⟩
    · rw [inCall_snoc]
      rintro ⟨hInCall, hGoesOn⟩
      exact .inr ((hStep hInCall).2 hGoesOn)

/-- If there is always room in the waitlists, the deadline is kept only by rounds in time. -/
theorem inTime_of_deadlineKept (hTimeout : queueTimeout c = some n) (hFinite : n ≠ osWaitForever)
    (hPos : n ≠ 0) (hSeated : Seated s.kernel) (hUser : s.kernel.currentTask ≠ idleTaskIdx)
    (hRun : Run s trace x) (hCall : ∀ l after, trace = l :: after → l.event = .call c)
    (hRoom : ∀ l ∈ trace, ∀ w, (l.pre.kernel.waitlist w).waitCount < osMaxTasks)
    (hKept : DeadlineKept s.kernel.currentTask s.kernel.systickCount n trace) :
    RoundsInTime s.kernel.currentTask s.kernel.systickCount n trace := by
  induction hRun with
  | nil => simp [RoundsInTime]
  | @snoc trace l hRun hTaken ih =>
    rw [DeadlineKept, Transition.forall_split_snoc] at hKept
    obtain ⟨hBefore, hLast⟩ := hKept
    have hFirst : ∀ l' after, trace = l' :: after → l'.event = .call c := by
      rintro l' after rfl
      exact hCall l' (after ++ [l]) rfl
    have hInTime := ih hFirst (fun l' hl => hRoom l' (List.mem_append_left _ hl)) hBefore
    rw [RoundsInTime, Transition.forall_split_snoc]
    refine ⟨hInTime, fun hInCall piece hPiece hWaits => ?_⟩
    obtain ⟨_, hStage⟩ :=
      deadlineKept_of_inTime hTimeout hFinite hPos hSeated hRun hFirst hInTime
    have hNext : trace = [] → l.event = .call c := by
      rintro rfl
      exact hCall l [] rfl
    obtain ⟨piece', hOwn⟩ | ⟨hOther, _⟩ := ownRound_or_other hTimeout hFinite
      (seated_of_run hRun hSeated) hTaken hNext (hStage hInCall)
    · obtain rfl := Option.some.inj (hOwn.own.symm.trans hPiece)
      exact ⟨hUser, hOwn.inTime hTaken hPos (hRoom l (by simp)) (hLast hInCall) hWaits⟩
    · rw [hOther] at hPiece
      cases hPiece

/-- A time-out of up to half the range is in time as long as the task is not kept from running
for as long after its deadline. -/
theorem roundsInTime_of_ticks (hUser : t ≠ idleTaskIdx) (hWake : start + n ≠ 0)
    (hNear : n.toNat ≤ 2 ^ 31) (hTicks : ticks trace < n.toNat + 2 ^ 31) :
    RoundsInTime t start n trace := by
  rintro before l after rfl _ _ _ _
  have hBefore : ticks before ≤ ticks (before ++ l :: after) := by
    rw [ticks, ticks, List.countP_append]
    exact Nat.le_add_right _ _
  refine ⟨hUser, hWake, fun _ => by omega, fun hLe => ?_⟩
  rw [Nat.mod_eq_of_lt (by omega)]
  omega

end Runs

/-- A queue call with a finite time-out keeps its deadline in every run, over any number of
rounds, if every round that has to wait is in time; and only then, for a user task that always
finds room in the waitlists. -/
theorem queue_deadline_kept {past rest : List Label} {s s' : Sys} {l : Label} {c : ApiCall}
    {n : U32} (hReaches : Reaches past s) (hTimeout : queueTimeout c = some n)
    (hFinite : n ≠ osWaitForever) (hPos : n ≠ 0) (hRun : Run s (l :: rest) s')
    (hCall : l.event = .call c) :
    (RoundsInTime s.kernel.currentTask s.kernel.systickCount n (l :: rest) →
      DeadlineKept s.kernel.currentTask s.kernel.systickCount n (l :: rest)) ∧
    (s.kernel.currentTask ≠ idleTaskIdx →
      (∀ x ∈ l :: rest, ∀ w, (x.pre.kernel.waitlist w).waitCount < osMaxTasks) →
      DeadlineKept s.kernel.currentTask s.kernel.systickCount n (l :: rest) →
      RoundsInTime s.kernel.currentTask s.kernel.systickCount n (l :: rest)) := by
  have hSeated := hReaches.seated
  have hFirst : ∀ x after, l :: rest = x :: after → x.event = .call c := by
    rintro x after hEq
    cases hEq
    exact hCall
  constructor
  · intro hInTime
    exact (deadlineKept_of_inTime hTimeout hFinite hPos hSeated hRun hFirst hInTime).1
  · intro hUser hRoom
    exact inTime_of_deadlineKept hTimeout hFinite hPos hSeated hUser hRun hFirst hRoom

/-- A sender of a full queue loses the slot for which it was woken, blocks for the 2 ticks that
remain of 3, and gives up. -/
theorem queue_deadline_kept_steal :
    ∃ past s l rest s', Reaches past s ∧ Run s (l :: rest) s' ∧
      l.event = .call (.queueSend (some 0) (some fun _ => 7) 3) ∧ ticks (l :: rest) = 3 ∧
      s'.pending 1 = none ∧ DeadlineKept 1 0 3 (l :: rest) := by
  have hCheck : checkBoot sampleImage
      [sampleTask 1, .queue (some 0) (some fun _ => 0) 1 1 (some .fifo)]
      [.isrSend (some 0) (some fun _ => 6)] (fun _ => true)
      (fun s => s.kernel.currentTask == 1 && s.kernel.systickCount == 0 &&
        checkRun (fun _ => true) (fun s' => (s'.pending 1).isNone) s
          [.call (.queueSend (some 0) (some fun _ => 7) 3), .pendSV, .tick,
            .isrRecv (some 0) false, .isrSend (some 0) (some fun _ => 8), .pendSV, .resume,
            .pendSV, .tick, .tick, .pendSV, .resume]) = true := by
    decide +kernel
  obtain ⟨past, s, hReaches, _, _, hFinal⟩ := reaches_of_checkBoot hCheck
  simp only [Bool.and_eq_true, beq_iff_eq] at hFinal
  obtain ⟨⟨hCurrent, hClock⟩, hRuns⟩ := hFinal
  obtain ⟨trace, s', hRun, hEvents, _, hOver⟩ := run_of_checkRun hRuns
  have hTicks : ticks trace = 3 := by
    have hMap := congrArg (List.countP isTick) hEvents
    rw [List.countP_map] at hMap
    exact hMap
  obtain ⟨l, rest, rfl, hCall, _⟩ := List.map_eq_cons_iff.mp hEvents
  have hKept := queue_deadline_kept hReaches rfl (by decide) (by decide) hRun hCall
  rw [hCurrent, hClock] at hKept
  refine ⟨past, s, l, rest, s', hReaches, hRun, hCall, hTicks, Option.isNone_iff_eq_none.mp hOver,
    hKept.1 (roundsInTime_of_ticks (by decide) (by decide) (by decide) ?_)⟩
  rw [hTicks]
  decide

/-- At tick 2, a receiver of an empty queue with a time-out of `2 ^ 32 - 2` stores a deadline of
0, which stands for none. -/
theorem queue_deadline_lost :
    ¬ ∀ past s s' c n l rest, Reaches past s → queueTimeout c = some n → n ≠ osWaitForever →
      n ≠ 0 → s.kernel.currentTask ≠ idleTaskIdx → Run s (l :: rest) s' →
      l.event = .call c →
        DeadlineKept s.kernel.currentTask s.kernel.systickCount n (l :: rest) := by
  intro hClaim
  have hCheck : checkBoot sampleImage
      [sampleTask 1, .queue (some 0) (some fun _ => 0) 1 1 (some .fifo)]
      [.tick, .tick, .pendSV] (fun _ => true)
      (fun s => s.kernel.currentTask == 1 &&
        (step s (.call (.queueRecv (some 0) false (2 ^ 32 - 2)))).any fun next =>
          next.2.isNone && (next.1.kernel.userTasks 1).currentState == .blocked &&
            (next.1.kernel.userTasks 1).wakeupTick == 0) = true := by
    decide +kernel
  obtain ⟨past, s, hReaches, _, _, hFinal⟩ := reaches_of_checkBoot hCheck
  simp only [Bool.and_eq_true, beq_iff_eq, Option.any_eq_true] at hFinal
  obtain ⟨hCurrent, ⟨s', out⟩, hStep, ⟨hOut, hBlocked⟩, hNever⟩ := hFinal
  have hRun : Run s ([] ++ [⟨s, _, out, s'⟩]) s' := .snoc .nil hStep
  have hKept := hClaim past s s' _ _ _ [] hReaches rfl (by decide) (by decide)
    (by rw [hCurrent]; decide) hRun rfl [] _ [] rfl (by simp [InCall])
  rw [hCurrent] at hKept
  obtain ⟨_, hDue, _⟩ := hKept.wake (fun hReturns => hReturns.2 (Option.isNone_iff_eq_none.mp hOut))
    hBlocked
  exact hDue.1 hNever

end KoRTOS
