import KoRTOS.Invariant.Sections

/-!
# What the system can do

`Creation` and `Move` list the outcomes of the create calls and the transitions
of the system. `Booting` is what the create calls of `main` leave behind, from
which every invariant starts.
-/

namespace KoRTOS

def freshTcb (taskHandler sp : U32) (priority : Nat) (tcb : Tcb) : Tcb :=
  { tcb with
    stackPointer := sp
    taskHandler := taskHandler
    currentState := .ready
    basePriority := priority
    effectivePriority := priority
    wakeupTick := 0
    blockReason := .none
    blockedWaitlist := none
    timeout := false }

def addTask (k : Kernel) (memory : U32 → U32) (taskHandler sp : U32) (priority : Nat) : Kernel :=
  { k.modifyTask k.taskCount (freshTcb taskHandler sp priority) with
    memory := memory
    taskCount := k.taskCount + 1 }

def emptyQueue (buffer : Nat → U8) (itemSize maxItems : U32) (policy : SchedulePolicy) : Queue where
  buffer := buffer
  itemSize := itemSize.toNat
  maxItems := maxItems.toNat
  count := 0
  head := 0
  tail := 0
  sendWaitlist := waitlistInit policy
  recvWaitlist := waitlistInit policy
  droppedCount := 0

inductive Creation (k : Kernel) : CreateCall → Kernel → OsErr → Prop
  | fail {c err} (hErr : err ≠ .ok) (hFull : err ≠ .waitlistFull)
      (hSem : ∀ i n policy, c = .sem (some i) n (some policy) → osMaxTasks < n) :
      Creation k c k err
  | task {handler priority base size memory sp} (hRoom : k.taskCount < osMaxTasks)
      (hPriority : priority ≤ osPriorityLowest) :
      Creation k (.task handler priority (some base) size) (addTask k memory handler sp priority) .ok
  | sem {i n policy} (hCount : n ≤ osMaxTasks) :
      Creation k (.sem (some i) n (some policy)) (k.setSemaphore i ⟨n, waitlistInit policy⟩) .ok
  | mutex {i} :
      Creation k (.mutex (some i)) (k.setMutex i ⟨none, .unlocked, waitlistInit .priority⟩) .ok
  | queue {q buffer itemSize maxItems policy} (hSize : itemSize ≠ 0) (hMax : maxItems ≠ 0) :
      Creation k (.queue (some q) (some buffer) itemSize maxItems (some policy))
        (k.setQueue q (emptyQueue buffer itemSize maxItems policy)) .ok

theorem creation_of_runCreate {k k' : Kernel} {c : CreateCall} {err : OsErr}
    (h : runCreate k c = (k', err)) : Creation k c k' err := by
  cases c with
  | task handler priority base size =>
    simp only [runCreate, osTaskCreate] at h
    split at h
    · cases h
      exact .fail (by simp) (by simp) (by simp)
    · rename_i hFull
      split at h
      · cases h
        exact .fail (by simp) (by simp) (by simp)
      · rename_i hRange
        cases base with
        | none =>
          cases h
          exact .fail (by simp) (by simp) (by simp)
        | some base =>
          cases h
          exact .task (Nat.lt_of_not_le hFull) (by omega)
  | sem sem n policy =>
    cases sem with
    | none =>
      cases h
      exact .fail (by simp) (by simp) (by simp)
    | some i =>
      simp only [runCreate, osSemCreate] at h
      split at h
      · rename_i hCount
        cases h
        refine .fail (by simp) (by simp) ?_
        rintro _ _ _ ⟨⟩
        exact hCount
      · rename_i hCount
        cases policy with
        | none =>
          cases h
          exact .fail (by simp) (by simp) (by simp)
        | some policy =>
          cases h
          exact .sem (Nat.le_of_not_lt hCount)
  | mutex mtx =>
    cases mtx with
    | none =>
      cases h
      exact .fail (by simp) (by simp) (by simp)
    | some i =>
      cases h
      exact .mutex
  | queue queue buffer itemSize maxItems policy =>
    cases queue with
    | none =>
      cases h
      exact .fail (by simp) (by simp) (by simp)
    | some q =>
      cases buffer with
      | none =>
        cases h
        exact .fail (by simp) (by simp) (by simp)
      | some buffer =>
        simp only [runCreate, osQueueCreate] at h
        split at h
        · cases h
          exact .fail (by simp) (by simp) (by simp)
        · rename_i hZero
          cases policy with
          | none =>
            cases h
            exact .fail (by simp) (by simp) (by simp)
          | some policy =>
            cases h
            exact .queue (fun hEq => hZero (.inl hEq)) (fun hEq => hZero (.inr hEq))

def Sys.afterCreate (s : Sys) (c : CreateCall) (k : Kernel) (err : OsErr) : Sys :=
  { s with kernel := k, created := if err = .ok then s.created.add c else s.created }

theorem creation_of_create {s s' : Sys} {c : CreateCall} {err : OsErr}
    (h : create s c = some (s', err)) :
    s.created.fresh c = true ∧ ∃ k', Creation s.kernel c k' err ∧ s' = s.afterCreate c k' err := by
  unfold create at h
  split at h
  · rename_i hFresh
    cases h
    exact ⟨hFresh, _, creation_of_runCreate rfl, rfl⟩
  · cases h

def Flow.rest : Flow → Option Pending
  | .returned _ _ => none
  | .suspended rest => some rest

def Flow.result : Flow → Option Ret
  | .returned err data => some ⟨err, data⟩
  | .suspended _ => none

def Sys.afterPiece (s : Sys) (k : Kernel) (f : Flow) : Sys :=
  { s with kernel := k, pending := Function.update s.pending k.currentTask f.rest }

theorem settle_eq (s : Sys) (k : Kernel) (f : Flow) :
    s.settle (k, f) = (s.afterPiece k f, f.result) := by cases f <;> rfl

inductive Move (s : Sys) : Event → Sys → Option Ret → Prop
  | create {c k' err} (hRun : s.kernel.pendSV = false)
      (hFree : s.pending s.kernel.currentTask = none) (hFresh : s.created.fresh c = true)
      (hCreation : Creation s.kernel c k' err) :
      Move s (.call (.create c)) (s.afterCreate c k' err) (some ⟨err, []⟩)
  | call {c k' f} (hRun : s.kernel.pendSV = false)
      (hFree : s.pending s.kernel.currentTask = none) (hAllowed : s.created.allows c = true)
      (hSection : Section s.kernel (.call c) k' f) (hCall : ∀ call, c ≠ .create call) :
      Move s (.call c) (s.afterPiece k' f) f.result
  | resume {rest k' f} (hRun : s.kernel.pendSV = false)
      (hPending : s.pending s.kernel.currentTask = some rest)
      (hSection : Section s.kernel (.rest rest) k' f) :
      Move s .resume (s.afterPiece k' f) f.result
  | isrSend {queue item k' err data} (hAllowed : Objects.hasOptional s.created.queue queue = true)
      (hSection : Section s.kernel (.call (.queueSend queue item 0)) k' (.returned err data)) :
      Move s (.isrSend queue item)
        { s with kernel := if err = .unavailable then countDropped k' queue else k' }
        (some ⟨err, data⟩)
  | isrRecv {queue itemNull k' err data}
      (hAllowed : Objects.hasOptional s.created.queue queue = true)
      (hSection : Section s.kernel (.call (.queueRecv queue itemNull 0)) k' (.returned err data)) :
      Move s (.isrRecv queue itemNull) { s with kernel := k' } (some ⟨err, data⟩)
  | tick : Move s .tick { s with kernel := osTick s.kernel } none
  | pendSV : Move s .pendSV { s with kernel := pendSVHandler s.kernel } none

theorem move_of_call {s s' : Sys} {c : ApiCall} {out : Option Ret}
    (h : step s (.call c) = some (s', out)) : Move s (.call c) s' out := by
  simp only [step] at h
  split at h
  · cases h
  · rename_i hGuard
    simp only [not_or, Bool.not_eq_true, Option.isSome_eq_false_iff, Option.isNone_iff_eq_none,
      Bool.not_eq_false] at hGuard
    obtain ⟨hRun, hFree, hAllowed⟩ := hGuard
    cases c with
    | create c =>
      obtain ⟨⟨s₁, err⟩, hCreate, h⟩ := Option.bind_eq_some_iff.mp h
      cases h
      obtain ⟨hFresh, k', hCreation, rfl⟩ := creation_of_create hCreate
      exact .create hRun hFree hFresh hCreation
    | _ =>
      obtain ⟨⟨k', f⟩, hCall, h⟩ := Option.bind_eq_some_iff.mp h
      rw [settle_eq] at h
      cases h
      exact .call hRun hFree hAllowed (section_of_runCall hCall) (by simp)

theorem move_of_isrSend {s s' : Sys} {queue : Option QueueId} {item : Option (Nat → U8)}
    {out : Option Ret} (h : step s (.isrSend queue item) = some (s', out)) :
    Move s (.isrSend queue item) s' out := by
  simp only [step] at h
  split at h
  · rename_i hAllowed
    obtain ⟨⟨k', f⟩, hIsr, h⟩ := Option.bind_eq_some_iff.mp h
    obtain ⟨⟨k₁, f₁⟩, hSend, hIsr⟩ := Option.bind_eq_some_iff.mp hIsr
    have hSection := section_osQueueSendFromTask hSend
    cases f₁ with
    | suspended rest =>
      cases hIsr
      cases h
    | returned err data =>
      by_cases hErr : err = .unavailable
      · subst hErr
        cases hIsr
        cases h
        exact .isrSend hAllowed hSection
      · have hSame : some (k₁, Flow.returned err data) = some (k', f) := by
          rw [← hIsr]
          cases err <;> first | rfl | exact absurd rfl hErr
        cases hSame
        cases h
        have hMove := Move.isrSend (s := s) hAllowed hSection
        rwa [if_neg hErr] at hMove
  · cases h

theorem move_of_isrRecv {s s' : Sys} {queue : Option QueueId} {itemNull : Bool}
    {out : Option Ret} (h : step s (.isrRecv queue itemNull) = some (s', out)) :
    Move s (.isrRecv queue itemNull) s' out := by
  simp only [step] at h
  split at h
  · rename_i hAllowed
    obtain ⟨⟨k', f⟩, hIsr, h⟩ := Option.bind_eq_some_iff.mp h
    have hSection := section_osQueueRecvFromTask hIsr
    cases f with
    | suspended rest => cases h
    | returned err data =>
      cases h
      exact .isrRecv hAllowed hSection
  · cases h

theorem move_of_step {s s' : Sys} {e : Event} {out : Option Ret}
    (h : step s e = some (s', out)) : Move s e s' out := by
  cases e with
  | call c => exact move_of_call h
  | resume =>
    simp only [step] at h
    split at h
    · cases h
    · rename_i hRun
      obtain ⟨rest, hPending, h⟩ := Option.bind_eq_some_iff.mp h
      obtain ⟨⟨k', f⟩, hResume, h⟩ := Option.bind_eq_some_iff.mp h
      rw [settle_eq] at h
      cases h
      exact .resume (by simpa using hRun) hPending (section_of_resumePending hResume)
  | isrSend queue item => exact move_of_isrSend h
  | isrRecv queue itemNull => exact move_of_isrRecv h
  | tick =>
    cases h
    exact .tick
  | pendSV =>
    cases h
    exact .pendSV

def zeroSys (image : Image) : Sys := ⟨zeroKernel image, fun _ => none, .none⟩

/-- The state before `os_kernel_start`: nothing waits, nothing is owned. -/
structure Booting (s : Sys) : Prop where
  currentTask : s.kernel.currentTask = idleTaskIdx
  pendSV : s.kernel.pendSV = false
  pending : ∀ t, s.pending t = none
  taskCount_pos : 0 < s.kernel.taskCount
  taskCount_le : s.kernel.taskCount ≤ osMaxTasks
  ready : ∀ t, (s.kernel.userTasks t).currentState = .ready
  reason : ∀ t, (s.kernel.userTasks t).blockReason = .none
  free : ∀ t, (s.kernel.userTasks t).blockedWaitlist = none
  unowning : ∀ t, (s.kernel.userTasks t).ownedMutexCount = 0
  rank : ∀ t, (s.kernel.userTasks t).effectivePriority = (s.kernel.userTasks t).basePriority
  user : ∀ t, (s.kernel.userTasks t).basePriority ≤ osPriorityLowest
  empty : ∀ w, (s.kernel.waitlist w).Represents []
  unowned : ∀ i, (s.kernel.mutexes i).owner = none
  unlocked : ∀ i, (s.kernel.mutexes i).state = .unlocked

theorem booting_zeroSys (image : Image) : Booting (zeroSys image) where
  currentTask := rfl
  pendSV := rfl
  pending _ := rfl
  taskCount_pos := Nat.one_pos
  taskCount_le := (by decide : 1 ≤ osMaxTasks)
  ready _ := rfl
  reason _ := rfl
  free _ := rfl
  unowning _ := rfl
  rank _ := rfl
  user _ := Nat.zero_le _
  empty w := by cases w <;> exact Waitlist.represents_init _
  unowned _ := rfl
  unlocked _ := rfl

theorem waitlist_creation {k k' : Kernel} {c : CreateCall} {err : OsErr}
    (h : Creation k c k' err) (w : WaitlistRef) :
    k'.waitlist w = k.waitlist w ∨
      ((∀ o : Objects, o.fresh c = true → o.has w = false) ∧
        ∃ policy, k'.waitlist w = waitlistInit policy) := by
  cases h with
  | fail => exact .inl rfl
  | task =>
    left
    cases w <;> rfl
  | @sem i n policy =>
    cases w with
    | sem j =>
      by_cases hEq : j = i
      · subst hEq
        exact .inr ⟨by simp [Objects.fresh, Objects.has], policy,
          by simp [Kernel.setSemaphore, Kernel.waitlist]⟩
      · exact .inl (by simp [hEq, Kernel.setSemaphore, Kernel.waitlist])
    | _ => exact .inl rfl
  | @mutex i =>
    cases w with
    | mutex j =>
      by_cases hEq : j = i
      · subst hEq
        exact .inr ⟨by simp [Objects.fresh, Objects.has], .priority,
          by simp [Kernel.setMutex, Kernel.waitlist]⟩
      · exact .inl (by simp [hEq, Kernel.setMutex, Kernel.waitlist])
    | _ => exact .inl rfl
  | @queue q _ _ _ policy =>
    cases w with
    | queueSend j =>
      by_cases hEq : j = q
      · subst hEq
        exact .inr ⟨by simp [Objects.fresh, Objects.has], policy,
          by simp [Kernel.setQueue, Kernel.waitlist, emptyQueue]⟩
      · exact .inl (by simp [hEq, Kernel.setQueue, Kernel.waitlist])
    | queueRecv j =>
      by_cases hEq : j = q
      · subst hEq
        exact .inr ⟨by simp [Objects.fresh, Objects.has], policy,
          by simp [Kernel.setQueue, Kernel.waitlist, emptyQueue]⟩
      · exact .inl (by simp [hEq, Kernel.setQueue, Kernel.waitlist])
    | _ => exact .inl rfl

theorem mutexes_creation {k k' : Kernel} {c : CreateCall} {err : OsErr}
    (h : Creation k c k' err) (i : MutexId) :
    k'.mutexes i = k.mutexes i ∨
      (c = .mutex (some i) ∧ k'.mutexes i = ⟨none, .unlocked, waitlistInit .priority⟩) := by
  cases h with
  | @mutex j =>
    by_cases hEq : i = j
    · subst hEq
      exact .inr ⟨rfl, by simp [Kernel.setMutex]⟩
    · exact .inl (by simp [hEq, Kernel.setMutex])
  | _ => exact .inl rfl

theorem has_add {o : Objects} {c : CreateCall} {w : WaitlistRef} (h : o.has w = true) :
    (o.add c).has w = true := by
  unfold Objects.add
  split <;> cases w <;> simp_all [Objects.has, Function.update_apply]

theorem waiters_creation {k k' : Kernel} {c : CreateCall} {err : OsErr}
    (h : Creation k c k' err) (w : WaitlistRef) :
    k'.waiters w = k.waiters w ∨ k'.waiters w = [] := by
  obtain hSame | ⟨_, policy, hInit⟩ := waitlist_creation h w
  · left
    rw [Kernel.waiters, hSame, Kernel.waiters]
  · right
    rw [Kernel.waiters, hInit, Waitlist.tasks_init]

theorem userTasks_creation {k k' : Kernel} {c : CreateCall} {err : OsErr}
    (h : Creation k c k' err) :
    (k'.userTasks = k.userTasks ∧ k'.taskCount = k.taskCount) ∨
    ∃ handler sp priority, k.taskCount < osMaxTasks ∧ priority ≤ osPriorityLowest ∧
      k'.taskCount = k.taskCount + 1 ∧
      ∀ t, k'.userTasks t =
        if t = k.taskCount then freshTcb handler sp priority (k.userTasks t)
        else k.userTasks t := by
  cases h with
  | @task handler priority _ _ _ sp hRoom hPriority =>
    refine .inr ⟨handler, sp, priority, hRoom, hPriority, rfl, fun t => ?_⟩
    simp only [addTask, Kernel.userTasks_modifyTask]
    split
    · subst t
      rfl
    · rfl
  | _ => exact .inl ⟨rfl, rfl⟩

theorem taskCount_creation {k k' : Kernel} {c : CreateCall} {err : OsErr}
    (h : Creation k c k' err) : k.taskCount ≤ k'.taskCount := by
  obtain ⟨_, hCount⟩ | ⟨_, _, _, _, _, hCount, _⟩ := userTasks_creation h
  · exact hCount.ge
  · rw [hCount]
    exact Nat.le_succ _

theorem userTasks_creation_old {k k' : Kernel} {c : CreateCall} {err : OsErr} {t : TaskId}
    (h : Creation k c k' err) (ht : t < k.taskCount) : k'.userTasks t = k.userTasks t := by
  obtain ⟨hTasks, _⟩ | ⟨_, _, _, _, _, _, hTasks⟩ := userTasks_creation h
  · rw [hTasks]
  · rw [hTasks, if_neg ht.ne]

theorem current_creation {k k' : Kernel} {c : CreateCall} {err : OsErr}
    (h : Creation k c k' err) :
    k'.currentTask = k.currentTask ∧ k'.pendSV = k.pendSV ∧ k'.systickCount = k.systickCount := by
  cases h <;> exact ⟨rfl, rfl, rfl⟩

theorem Booting.afterCreate {s : Sys} {c : CreateCall} {k' : Kernel} {err : OsErr} (h : Booting s)
    (hCreation : Creation s.kernel c k' err) : Booting (s.afterCreate c k' err) := by
  obtain ⟨hCurrent, hPendSV, _⟩ := current_creation hCreation
  have hEmpty : ∀ w, (k'.waitlist w).Represents [] := by
    intro w
    rcases waitlist_creation hCreation w with hEq | ⟨_, policy, hEq⟩
    · rw [hEq]
      exact h.empty w
    · rw [hEq]
      exact Waitlist.represents_init policy
  have hOwner : ∀ i, (k'.mutexes i).owner = none := by
    intro i
    rcases mutexes_creation hCreation i with hEq | ⟨_, hEq⟩
    · rw [hEq]
      exact h.unowned i
    · rw [hEq]
  have hState : ∀ i, (k'.mutexes i).state = .unlocked := by
    intro i
    rcases mutexes_creation hCreation i with hEq | ⟨_, hEq⟩
    · rw [hEq]
      exact h.unlocked i
    · rw [hEq]
  rcases userTasks_creation hCreation with ⟨hTasks, hCount⟩ | ⟨_, _, p, hRoom, hp, hCount, hTasks⟩
  · refine ⟨hCurrent.trans h.currentTask, hPendSV.trans h.pendSV, h.pending, ?_, ?_, ?_, ?_, ?_,
      ?_, ?_, ?_, hEmpty, hOwner, hState⟩ <;>
      simp only [Sys.afterCreate, hTasks, hCount]
    · exact h.taskCount_pos
    · exact h.taskCount_le
    · exact h.ready
    · exact h.reason
    · exact h.free
    · exact h.unowning
    · exact h.rank
    · exact h.user
  · refine ⟨hCurrent.trans h.currentTask, hPendSV.trans h.pendSV, h.pending, ?_, ?_, ?_, ?_, ?_,
      ?_, ?_, ?_, hEmpty, hOwner, hState⟩ <;>
      simp only [Sys.afterCreate, hTasks, hCount]
    · exact Nat.succ_pos _
    · exact hRoom
    all_goals
      intro t
      split
    · rfl
    · exact h.ready t
    · rfl
    · exact h.reason t
    · rfl
    · exact h.free t
    · exact h.unowning t
    · exact h.unowning t
    · rfl
    · exact h.rank t
    · exact hp
    · exact h.user t

/-- What holds of the zeroed kernel and is kept by every create call of `main` holds
when the kernel starts. -/
theorem boot_induction {image : Image} {calls : List CreateCall} {start : Sys}
    {P : List CreateCall → Sys → Prop} (h : boot image calls = some start)
    (hZero : P [] (zeroSys image))
    (hCreate : ∀ done s c k' err, P done s → Booting s → s.created.fresh c = true →
      Creation s.kernel c k' err → P (done ++ [c]) (s.afterCreate c k' err)) :
    ∃ s, P calls s ∧ Booting s ∧
      start = { s with
        kernel := osKernelStart s.kernel image.idleTaskHandler image.idleTaskStack } := by
  obtain ⟨s, hAll, h⟩ := Option.bind_eq_some_iff.mp h
  cases h
  have hRun : ∀ calls done s₀, P done s₀ → Booting s₀ → createAll s₀ calls = some s →
      P (done ++ calls) s ∧ Booting s := by
    intro calls
    induction calls with
    | nil =>
      intro done s₀ hP hBooting hAll
      cases hAll
      exact ⟨by simpa using hP, hBooting⟩
    | cons c calls ih =>
      intro done s₀ hP hBooting hAll
      obtain ⟨⟨s₁, err⟩, hFirst, hAll⟩ := Option.bind_eq_some_iff.mp hAll
      obtain ⟨hFresh, k', hCreation, rfl⟩ := creation_of_create hFirst
      have hNext := ih (done ++ [c]) _ (hCreate _ _ _ _ _ hP hBooting hFresh hCreation)
        (hBooting.afterCreate hCreation) hAll
      simpa using hNext
  have hEnd := hRun calls [] _ hZero (booting_zeroSys image) hAll
  exact ⟨s, by simpa using hEnd.1, hEnd.2, rfl⟩

end KoRTOS
