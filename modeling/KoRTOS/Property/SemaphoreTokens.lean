import KoRTOS.Evaluation
import KoRTOS.Invariant.Queues
import KoRTOS.Invariant.Semaphores

/-!
# Semaphores conserve tokens

Every post puts one token into a semaphore and every wait that succeeds takes
one out, at once or by being released. The count is a `uint8_t` and a post does
not look whether it is full, so this holds as long as no post is made at 255.
-/

namespace KoRTOS

def Piece.posts (i : SemId) : Piece → Bool
  | .call (.semPost (some j)) => j == i
  | _ => false

def Piece.waits (i : SemId) : Piece → Bool
  | .call (.semWait (some j) _) => j == i
  | _ => false

def isPost (i : SemId) (l : Label) : Bool := (pieceOf l.pre l.event).any (Piece.posts i)

def isWait (i : SemId) (l : Label) : Bool := (pieceOf l.pre l.event).any (Piece.waits i)

def takesToken (i : SemId) (l : Label) : Bool :=
  isWait i l && decide (l.post.kernel.tokens i < l.pre.kernel.tokens i)

def releases (i : SemId) (l : Label) : Option TaskId :=
  if isPost i l then
    (l.pre.kernel.waiters (.sem i)).find? fun t => !(l.post.kernel.waiters (.sem i)).contains t
  else none

def posts (i : SemId) (trace : List Label) : Nat := trace.countP (isPost i)

/-- The calls of `os_sem_wait` that took a token at once or were released by a post. -/
def granted (i : SemId) (trace : List Label) : Nat :=
  trace.countP fun l => takesToken i l || (releases i l).isSome

/-- The tokens accounted to the latest call of `os_sem_wait` that task `t` made. -/
def account (i : SemId) (t : TaskId) (n : Nat) (l : Label) : Nat :=
  if isWait i l && l.pre.kernel.currentTask == t then (if takesToken i l then 1 else 0)
  else if releases i l = some t then n + 1
  else n

def accounted (i : SemId) (t : TaskId) (trace : List Label) : Nat :=
  trace.foldl (account i t) 0

/-- What a call of `os_sem_wait` on `i` by task `t` returns in this transition. -/
def waitResult (i : SemId) (t : TaskId) (l : Label) : Option OsErr :=
  if l.pre.kernel.currentTask = t then
    match pieceOf l.pre l.event, l.out with
    | some (.call (.semWait (some j) _)), some ret => if j = i then some ret.err else none
    | some (.rest (.semWait j)), some ret => if j = i then some ret.err else none
    | _, _ => none
  else none

def initialCountOf (i : SemId) : CreateCall → Option Nat
  | .sem (some j) n (some _) => if j = i ∧ n ≤ osMaxTasks then some n else none
  | _ => none

def createCall (l : Label) : Option CreateCall :=
  match l.event with
  | .call (.create c) => some c
  | _ => none

/-- The `initial_count` with which `i` was created, before or after the start. -/
def initialCount (i : SemId) (calls : List CreateCall) (trace : List Label) : Option Nat :=
  (calls ++ trace.filterMap createCall).findSome? (initialCountOf i)

/-- A post that finds nobody waiting finds room in the `uint8_t`. -/
def PostFits (i : SemId) (l : Label) : Prop :=
  isPost i l = true → l.pre.kernel.tokens i < 255 ∨ l.pre.kernel.waiters (.sem i) ≠ []

instance (i : SemId) (l : Label) : Decidable (PostFits i l) :=
  inferInstanceAs (Decidable (_ → _))

structure TokensConserved (i : SemId) (calls : List CreateCall) (trace : List Label) (s : Sys) :
    Prop where
  balance : ∃ n, initialCount i calls trace = some n ∧
    n + posts i trace = (s.kernel.semaphores i).count + granted i trace
  empty : 0 < (s.kernel.semaphores i).count → (s.kernel.waitlist (.sem i)).waitCount = 0
  results : ∀ before l after, trace = before ++ l :: after → ∀ t err,
    waitResult i t l = some err →
    (err = .ok ∧ accounted i t (before ++ [l]) = 1) ∨
      (err = .unavailable ∧ accounted i t (before ++ [l]) = 0)

section Labels

variable {i : SemId} {t : TaskId} {s s' : Sys} {e : Event} {out : Option Ret} {piece : Piece}
  {f : Flow} {trace : List Label} {calls : List CreateCall} {l : Label}

theorem posts_snoc : posts i (trace ++ [l]) = posts i trace + (if isPost i l then 1 else 0) := by
  rw [posts, List.countP_append, List.countP_singleton, posts]

theorem granted_snoc : granted i (trace ++ [l]) =
    granted i trace + (if takesToken i l || (releases i l).isSome then 1 else 0) := by
  rw [granted, List.countP_append, List.countP_singleton, granted]

theorem accounted_snoc : accounted i t (trace ++ [l]) = account i t (accounted i t trace) l := by
  rw [accounted, List.foldl_append]
  rfl

/-- A transition that neither posts nor waits changes no account. -/
structure Silent (i : SemId) (l : Label) : Prop where
  post : isPost i l = false
  wait : isWait i l = false

theorem Silent.takesToken (h : Silent i l) : takesToken i l = false := by
  rw [KoRTOS.takesToken, h.wait, Bool.false_and]

theorem Silent.releases (h : Silent i l) : releases i l = none := by
  rw [KoRTOS.releases, h.post]
  rfl

theorem Silent.posts (h : Silent i l) : posts i (trace ++ [l]) = posts i trace := by
  rw [posts_snoc, h.post]
  rfl

theorem Silent.granted (h : Silent i l) : granted i (trace ++ [l]) = granted i trace := by
  rw [granted_snoc, h.takesToken, h.releases]
  rfl

theorem Silent.accounted (h : Silent i l) :
    accounted i t (trace ++ [l]) = accounted i t trace := by
  rw [accounted_snoc, account, h.wait, h.releases]
  rfl

theorem silent_of_usesSem (hPiece : pieceOf l.pre l.event = some piece)
    (hUses : piece.usesSem i = false) : Silent i l := by
  have hPosts : piece.posts i = false := by
    unfold Piece.posts
    split
    · exact hUses
    · rfl
  have hWaits : piece.waits i = false := by
    unfold Piece.waits
    split
    · exact hUses
    · rfl
  constructor
  · rw [isPost, hPiece, Option.any_some, hPosts]
  · rw [isWait, hPiece, Option.any_some, hWaits]

theorem find_erased {l : List TaskId} (hNodup : l.Nodup) (ht : t ∈ l) :
    l.find? (fun u => !(l.erase t).contains u) = some t := by
  cases hFind : l.find? (fun u => !(l.erase t).contains u) with
  | none =>
    have hAll := List.find?_eq_none.mp hFind t ht
    simp [hNodup.not_mem_erase] at hAll
  | some u =>
    have hu : u ∉ l.erase t := by simpa using List.find?_some hFind
    have hMem : u ∈ l := List.mem_of_find?_eq_some hFind
    by_contra hne
    have hut : u ≠ t := fun hEq => hne (congrArg some hEq)
    exact hu ((List.mem_erase_of_ne hut).mpr hMem)

theorem SemEffect.books (h : SemEffect s.kernel i s'.kernel piece f)
    (hPiece : pieceOf s e = some piece) (hNodup : (s.kernel.waiters (.sem i)).Nodup)
    (hSmall : s.kernel.tokens i ≤ 255) (hFits : PostFits i ⟨s, e, out, s'⟩) :
    s.kernel.tokens i + (if isPost i ⟨s, e, out, s'⟩ then 1 else 0) =
      s'.kernel.tokens i +
        (if takesToken i ⟨s, e, out, s'⟩ || (releases i ⟨s, e, out, s'⟩).isSome then 1 else 0) ∧
    s'.kernel.tokens i ≤ 255 := by
  have hPost : isPost i ⟨s, e, out, s'⟩ = piece.posts i := by
    simp only [isPost, hPiece, Option.any_some]
  have hWait : isWait i ⟨s, e, out, s'⟩ = piece.waits i := by
    simp only [isWait, hPiece, Option.any_some]
  unfold PostFits at hFits
  unfold takesToken releases
  rw [hPost] at hFits
  rw [hPost, hWait]
  cases h with
  | take hToken hTokens =>
    have hLess : s'.kernel.tokens i < s.kernel.tokens i := by omega
    simp [Piece.posts, Piece.waits, hLess]
    omega
  | refuse hTokens => simp [Piece.posts, Piece.waits, hTokens, hSmall]
  | wait _ hTokens => simp [Piece.posts, Piece.waits, hTokens, hSmall]
  | add hNone hTokens hWaiters =>
    have hRoom : s.kernel.tokens i < 255 := by
      rcases hFits (by simp [Piece.posts]) with hRoom | hSome
      · exact hRoom
      · exact absurd hNone hSome
    have hTokens : s'.kernel.tokens i = s.kernel.tokens i + 1 := by omega
    simp [Piece.posts, Piece.waits, hNone, hTokens]
    omega
  | release hMem hTokens hWaiters =>
    have hPosts : (Piece.call (.semPost (some i))).posts i = true := by simp [Piece.posts]
    have hWaits : (Piece.call (.semPost (some i))).waits i = false := rfl
    rw [hPosts, hWaits, if_pos rfl, if_pos rfl, hTokens, hWaiters, find_erased hNodup hMem]
    simp [hSmall]
  | woken hTokens => simp [Piece.posts, Piece.waits, hTokens, hSmall]
  | other hOther _ hTokens =>
    have hSilent := silent_of_usesSem (l := ⟨s, e, out, s'⟩) hPiece hOther
    rw [← hPost, ← hWait, hSilent.post, hSilent.wait]
    simp [hTokens, hSmall]

end Labels

/-- What a run has done to semaphore `i`. -/
structure SemHistory (i : SemId) (calls : List CreateCall) (trace : List Label) (s : Sys) :
    Prop where
  sound : Sound s
  absent : s.created.sem i = false →
    initialCount i calls trace = none ∧ posts i trace = 0 ∧ granted i trace = 0
  balance : s.created.sem i = true → ∃ n, initialCount i calls trace = some n ∧
    n + posts i trace = s.kernel.tokens i + granted i trace
  small : s.created.sem i = true → s.kernel.tokens i ≤ 255
  empty : s.created.sem i = true → 0 < s.kernel.tokens i → s.kernel.waiters (.sem i) = []
  blocked : ∀ t, s.pending t = some (.semWait i) → s.kernel.blockedOn t = some (.sem i) →
    accounted i t trace = 0
  woken : ∀ t, s.pending t = some (.semWait i) → s.kernel.blockedOn t = none →
    accounted i t trace = if (s.kernel.userTasks t).timeout then 0 else 1

/-- The accounts of the tasks inside of a wait for `i`. -/
structure WaitBooks (i : SemId) (trace : List Label) (s : Sys) : Prop where
  sound : Sound s
  blocked : ∀ t, s.pending t = some (.semWait i) → s.kernel.blockedOn t = some (.sem i) →
    accounted i t trace = 0
  woken : ∀ t, s.pending t = some (.semWait i) → s.kernel.blockedOn t = none →
    accounted i t trace = if (s.kernel.userTasks t).timeout then 0 else 1

def WaitsKept (i : SemId) (s s' : Sys) : Prop :=
  ∀ t, s.pending t = some (.semWait i) →
    (s'.kernel.blockedOn t = s.kernel.blockedOn t ∧
      (s'.kernel.userTasks t).timeout = (s.kernel.userTasks t).timeout) ∨
    (s.kernel.blockedOn t = some (.sem i) ∧ s'.kernel.blockedOn t = none ∧
      (s'.kernel.userTasks t).timeout = true)

section Runs

variable {i : SemId} {t : TaskId} {s s' : Sys} {e : Event} {out : Option Ret} {piece : Piece}
  {f : Flow} {trace : List Label} {calls : List CreateCall} {l : Label} {k' : Kernel}

theorem SemHistory.waitBooks (h : SemHistory i calls trace s) : WaitBooks i trace s :=
  ⟨h.sound, h.blocked, h.woken⟩

theorem initialCount_snoc (h : createCall l = none) :
    initialCount i calls (trace ++ [l]) = initialCount i calls trace := by
  rw [initialCount, List.filterMap_append]
  simp [h, initialCount]

theorem Sound.semWait_cases (h : Sound s) (hPending : s.pending t = some (.semWait i)) :
    s.kernel.blockedOn t = some (.sem i) ∨ s.kernel.blockedOn t = none := by
  cases hOn : s.kernel.blockedOn t with
  | none => exact .inr rfl
  | some w =>
    obtain ⟨rest, hRest, hWaits⟩ := h.pending_waits hOn
    rw [hPending] at hRest
    cases hRest
    exact .inl hWaits.symm

theorem mem_of_releases (h : releases i l = some t) :
    t ∈ l.pre.kernel.waiters (.sem i) ∧ t ∉ l.post.kernel.waiters (.sem i) := by
  unfold releases at h
  split at h
  · exact ⟨List.mem_of_find?_eq_some h, by simpa using List.find?_some h⟩
  · cases h

theorem accounted_other (hne : l.pre.kernel.currentTask ≠ t)
    (hSame : t ∈ l.pre.kernel.waiters (.sem i) → t ∈ l.post.kernel.waiters (.sem i)) :
    accounted i t (trace ++ [l]) = accounted i t trace := by
  have hReleases : releases i l ≠ some t := fun h =>
    (mem_of_releases h).2 (hSame (mem_of_releases h).1)
  rw [accounted_snoc, account, beq_eq_false_iff_ne.mpr hne, Bool.and_false, if_neg (by simp),
    if_neg hReleases]

theorem SemEffect.releases_of_left (out : Option Ret)
    (h : SemEffect s.kernel i s'.kernel piece f)
    (hPiece : pieceOf s e = some piece) (hNodup : (s.kernel.waiters (.sem i)).Nodup)
    (hBefore : t ∈ s.kernel.waiters (.sem i)) (hAfter : t ∉ s'.kernel.waiters (.sem i)) :
    releases i ⟨s, e, out, s'⟩ = some t := by
  cases h with
  | @release u hMem _ hWaiters =>
    have hEq : t = u := by
      by_contra hne
      rw [hWaiters] at hAfter
      exact hAfter ((List.mem_erase_of_ne hne).mpr hBefore)
    have hPost : isPost i ⟨s, e, out, s'⟩ = true := by
      simp [isPost, hPiece, Piece.posts]
    rw [releases, if_pos hPost]
    dsimp only
    rw [hWaiters, find_erased hNodup hMem, hEq]
  | wait _ _ hWaiters =>
    rw [hWaiters] at hAfter
    exact absurd (List.mem_append_left _ hBefore) hAfter
  | take _ _ hWaiters => exact absurd (hWaiters ▸ hBefore) hAfter
  | refuse _ hWaiters => exact absurd (hWaiters ▸ hBefore) hAfter
  | add _ _ hWaiters => exact absurd (hWaiters ▸ hBefore) hAfter
  | woken _ hWaiters => exact absurd (hWaiters ▸ hBefore) hAfter
  | other _ _ _ hWaiters => exact absurd (hWaiters ▸ hBefore) hAfter

theorem SemEffect.wait_of_rest (out : Option Ret)
    (h : SemEffect s.kernel i s'.kernel piece f)
    (hPiece : pieceOf s e = some piece) (hRest : f.rest = some (.semWait i)) :
    isWait i ⟨s, e, out, s'⟩ = true ∧ takesToken i ⟨s, e, out, s'⟩ = false ∧
      s.kernel.currentTask ∈ s'.kernel.waiters (.sem i) := by
  cases h with
  | wait _ hTokens hWaiters =>
    have hWait : isWait i ⟨s, e, out, s'⟩ = true := by
      simp [isWait, hPiece, Piece.waits]
    refine ⟨hWait, ?_, ?_⟩
    · simp [takesToken, hTokens]
    · rw [hWaiters]
      simp
  | other _ hOther => exact absurd hRest hOther
  | _ => cases hRest

theorem WaitBooks.afterSilent (h : WaitBooks i trace s) (hSound : Sound s')
    (hSilent : Silent i ⟨s, e, out, s'⟩) (hPending : s'.pending = s.pending)
    (hTasks : WaitsKept i s s') : WaitBooks i (trace ++ [⟨s, e, out, s'⟩]) s' := by
  refine ⟨hSound, ?_, ?_⟩
  · intro t ht hOn
    rw [hPending] at ht
    rw [hSilent.accounted]
    obtain ⟨hSame, _⟩ | ⟨_, hNone, _⟩ := hTasks t ht
    · exact h.blocked t ht (hSame ▸ hOn)
    · rw [hNone] at hOn
      cases hOn
  · intro t ht hOn
    rw [hPending] at ht
    rw [hSilent.accounted]
    obtain ⟨hSame, hTimeout⟩ | ⟨hBlocked, _, hTimeout⟩ := hTasks t ht
    · rw [hTimeout]
      exact h.woken t ht (hSame ▸ hOn)
    · rw [hTimeout]
      exact h.blocked t ht hBlocked

theorem WaitBooks.afterPiece (h : WaitBooks i trace s) (hSound : Sound (s.afterPiece k' f))
    (hPiece : pieceOf s e = some piece) (hSection : Section s.kernel piece k' f) :
    WaitBooks i (trace ++ [⟨s, e, out, s.afterPiece k' f⟩]) (s.afterPiece k' f) := by
  have hWaiting := h.sound.waiting
  have hNodup := hWaiting.fibers.nodup (.sem i)
  have hEffect : SemEffect s.kernel i (s.afterPiece k' f).kernel piece f :=
    hSection.semEffect hWaiting
  have hListed : ∀ t, t ∈ (s.afterPiece k' f).kernel.waiters (.sem i) ↔
      k'.blockedOn t = some (.sem i) := fun t => hSound.waiting.mem_waiters
  have hOthers : ∀ t, t ≠ s.kernel.currentTask → _ := fun t hne =>
    (hSection.reblocks hWaiting.listed).task (t := t) hWaiting fun _ => hne
  refine ⟨hSound, ?_, ?_⟩
  · intro t ht hOn
    rw [pending_afterPiece hSection] at ht
    split at ht
    · rename_i hEq
      obtain ⟨hWait, hTakes, _⟩ := hEffect.wait_of_rest (e := e) out hPiece ht
      rw [accounted_snoc, account, hWait, hTakes, hEq]
      simp
    · rename_i hne
      rw [accounted_other (Ne.symm hne) fun _ => (hListed t).mpr hOn]
      rcases hOthers t hne with ⟨hSame, _⟩ | ⟨_, _, hNone, _⟩
      · exact h.blocked t ht (hSame ▸ hOn)
      · exact absurd (hOn.symm.trans hNone) (by simp)
  · intro t ht hOn
    rw [pending_afterPiece hSection] at ht
    have hLeft : t ∉ (s.afterPiece k' f).kernel.waiters (.sem i) := by
      rw [hListed]
      exact fun hSome => absurd (hOn.symm.trans hSome) (by simp)
    split at ht
    · rename_i hEq
      have hIn := (hEffect.wait_of_rest (e := e) out hPiece ht).2.2
      exact absurd (hEq ▸ hIn) hLeft
    · rename_i hne
      rcases hOthers t hne with ⟨hSame, hTimeout, _⟩ | ⟨w, hOld, _, hTimeout, _⟩
      · have hFree : s.kernel.blockedOn t = none := hSame.symm.trans hOn
        have hNever : t ∉ s.kernel.waiters (.sem i) := hWaiting.fibers.notMem hFree
        rw [accounted_other (Ne.symm hne) fun hIn => absurd hIn hNever, h.woken t ht hFree,
          ← hTimeout]
        rfl
      · have hBlocked : s.kernel.blockedOn t = some (.sem i) := by
          rcases h.sound.semWait_cases ht with hSem | hNone
          · exact hSem
          · exact absurd (hOld.symm.trans hNone) (by simp)
        have hReleases := hEffect.releases_of_left (e := e) out hPiece hNodup
          (hWaiting.mem_waiters.mpr hBlocked) hLeft
        have hOther : (s.kernel.currentTask == t) = false := beq_eq_false_iff_ne.mpr (Ne.symm hne)
        have hFalse : ((s.afterPiece k' f).kernel.userTasks t).timeout = false := hTimeout
        rw [accounted_snoc, account, hReleases, h.blocked t ht hBlocked, hFalse]
        simp [hOther]

theorem WaitBooks.afterCreate {c : CreateCall} {err : OsErr} (h : WaitBooks i trace s)
    (hSound : Sound (s.afterCreate c k' err)) (hCreation : Creation s.kernel c k' err) :
    WaitBooks i (trace ++ [⟨s, .call (.create c), out, s.afterCreate c k' err⟩])
      (s.afterCreate c k' err) := by
  refine h.afterSilent hSound (silent_of_usesSem rfl rfl) rfl fun t ht => .inl ⟨?_, ?_⟩
  · exact congrFun (blockedOn_creation h.sound.waiting hCreation) t
  · dsimp only [Sys.afterCreate]
    rw [userTasks_creation_old hCreation (h.sound.pending_user ht).2]

theorem SemHistory.afterSilent (h : SemHistory i calls trace s) (hSound : Sound s')
    (hSilent : Silent i ⟨s, e, out, s'⟩) (hCreate : createCall ⟨s, e, out, s'⟩ = none)
    (hCreated : s'.created = s.created) (hPending : s'.pending = s.pending)
    (hTokens : s'.kernel.tokens i = s.kernel.tokens i)
    (hWaiters : s.kernel.waiters (.sem i) = [] → s'.kernel.waiters (.sem i) = [])
    (hTasks : WaitsKept i s s') :
    SemHistory i calls (trace ++ [⟨s, e, out, s'⟩]) s' := by
  refine ⟨hSound, ?_, ?_, ?_, ?_, ?_, ?_⟩
  · intro hAbsent
    rw [initialCount_snoc hCreate, hSilent.posts, hSilent.granted]
    exact h.absent (hCreated ▸ hAbsent)
  · intro hNow
    rw [initialCount_snoc hCreate, hSilent.posts, hSilent.granted, hTokens]
    exact h.balance (hCreated ▸ hNow)
  · intro hNow
    rw [hTokens]
    exact h.small (hCreated ▸ hNow)
  · intro hNow hToken
    rw [hTokens] at hToken
    exact hWaiters (h.empty (hCreated ▸ hNow) hToken)
  · exact (h.waitBooks.afterSilent hSound hSilent hPending hTasks).blocked
  · exact (h.waitBooks.afterSilent hSound hSilent hPending hTasks).woken

theorem SemHistory.afterPiece (h : SemHistory i calls trace s)
    (hSound : Sound (s.afterPiece k' f)) (hPiece : pieceOf s e = some piece)
    (hSection : Section s.kernel piece k' f)
    (hAllowed : piece.usesSem i = true → s.created.sem i = true)
    (hCreate : createCall ⟨s, e, out, s.afterPiece k' f⟩ = none)
    (hFits : PostFits i ⟨s, e, out, s.afterPiece k' f⟩) :
    SemHistory i calls (trace ++ [⟨s, e, out, s.afterPiece k' f⟩]) (s.afterPiece k' f) := by
  have hWaiting := h.sound.waiting
  have hNodup := hWaiting.fibers.nodup (.sem i)
  have hEffect : SemEffect s.kernel i (s.afterPiece k' f).kernel piece f :=
    hSection.semEffect hWaiting
  refine ⟨hSound, ?_, ?_, ?_, ?_, ?_, ?_⟩
  · intro hAbsent
    have hUses : piece.usesSem i = false := by
      by_contra hUses
      have hCreated := hAllowed (by simpa using hUses)
      exact absurd (hCreated.symm.trans hAbsent) (by simp)
    have hSilent := silent_of_usesSem (l := ⟨s, e, out, s.afterPiece k' f⟩) hPiece hUses
    rw [initialCount_snoc hCreate, hSilent.posts, hSilent.granted]
    exact h.absent hAbsent
  · intro hNow
    obtain ⟨n, hInitial, hBalance⟩ := h.balance hNow
    have hBooks := (hEffect.books hPiece hNodup (h.small hNow) hFits).1
    refine ⟨n, by rw [initialCount_snoc hCreate, hInitial], ?_⟩
    rw [posts_snoc, granted_snoc]
    omega
  · intro hNow
    exact (hEffect.books hPiece hNodup (h.small hNow) hFits).2
  · intro hNow hToken
    have hEmpty := h.empty hNow
    cases hEffect with
    | take hOld _ hWaiters => rw [hWaiters, hEmpty hOld]
    | refuse hTokens hWaiters => rw [hWaiters, hEmpty (hTokens ▸ hToken)]
    | wait hNone hTokens => omega
    | add hNone _ hWaiters => rw [hWaiters, hNone]
    | release _ hTokens hWaiters =>
      rw [hWaiters, hEmpty (hTokens ▸ hToken)]
      rfl
    | woken hTokens hWaiters => rw [hWaiters, hEmpty (hTokens ▸ hToken)]
    | other _ _ hTokens hWaiters => rw [hWaiters, hEmpty (hTokens ▸ hToken)]
  · exact (h.waitBooks.afterPiece hSound hPiece hSection).blocked
  · exact (h.waitBooks.afterPiece hSound hPiece hSection).woken

theorem findSome_snoc {calls : List CreateCall} {c : CreateCall} :
    (calls ++ [c]).findSome? (initialCountOf i) =
      (calls.findSome? (initialCountOf i)).or (initialCountOf i c) := by
  rw [List.findSome?_append]
  congr 1
  cases h : initialCountOf i c <;> simp [h]

theorem Creation.semaphore {created : Objects} {c : CreateCall} {k : Kernel} {err : OsErr}
    (h : Creation k c k' err) (hFresh : created.fresh c = true) :
    (created.sem i = true → k'.tokens i = k.tokens i ∧
      (if err = .ok then created.add c else created).sem i = true) ∧
    (created.sem i = false →
      ((if err = .ok then created.add c else created).sem i = false ∧
        initialCountOf i c = none) ∨
      ((if err = .ok then created.add c else created).sem i = true ∧
        initialCountOf i c = some (k'.tokens i) ∧ k'.tokens i ≤ 255 ∧
        k'.waiters (.sem i) = [])) := by
  cases h with
  | fail hErr _ hSem =>
    rw [if_neg hErr]
    refine ⟨fun hCreated => ⟨rfl, hCreated⟩, fun hAbsent => .inl ⟨hAbsent, ?_⟩⟩
    unfold initialCountOf
    split
    · rename_i j n policy
      have hLt := hSem j n policy rfl
      exact if_neg fun hValid => Nat.not_lt.mpr hValid.2 hLt
    · rfl
  | @sem j n policy hCount =>
    have hOld : created.sem j = false := by simpa [Objects.fresh] using hFresh
    have hSmall : n ≤ 255 := hCount.trans (by decide)
    have hSem : (k.setSemaphore j ⟨n, waitlistInit policy⟩).semaphores i =
        if i = j then ⟨n, waitlistInit policy⟩ else k.semaphores i := by
      exact Function.update_apply ..
    simp only [if_true, Objects.add, Function.update_apply, Kernel.tokens, Kernel.waiters,
      Kernel.waitlist, hSem, initialCountOf]
    by_cases hEq : i = j
    · subst hEq
      simp [hOld, hCount, hSmall]
    · simp [hEq, Ne.symm hEq]
  | task => exact ⟨fun hCreated => ⟨rfl, hCreated⟩, fun hAbsent => .inl ⟨hAbsent, rfl⟩⟩
  | mutex => exact ⟨fun hCreated => ⟨rfl, hCreated⟩, fun hAbsent => .inl ⟨hAbsent, rfl⟩⟩
  | queue => exact ⟨fun hCreated => ⟨rfl, hCreated⟩, fun hAbsent => .inl ⟨hAbsent, rfl⟩⟩

theorem SemHistory.afterCreate {c : CreateCall} {err : OsErr} (h : SemHistory i calls trace s)
    (hSound : Sound (s.afterCreate c k' err)) (hFresh : s.created.fresh c = true)
    (hCreation : Creation s.kernel c k' err) {out : Option Ret} :
    SemHistory i calls (trace ++ [⟨s, .call (.create c), out, s.afterCreate c k' err⟩])
      (s.afterCreate c k' err) := by
  have hSilent : Silent i ⟨s, .call (.create c), out, s.afterCreate c k' err⟩ :=
    silent_of_usesSem rfl rfl
  have hInitial : initialCount i calls
      (trace ++ [⟨s, .call (.create c), out, s.afterCreate c k' err⟩]) =
        (initialCount i calls trace).or (initialCountOf i c) := by
    simp only [initialCount, List.filterMap_append, ← List.append_assoc]
    exact findSome_snoc
  have hWaiters := (h.sound.waiters_creation hFresh hCreation).1
  obtain ⟨hOld, hNew⟩ := hCreation.semaphore (i := i) hFresh
  refine ⟨hSound, ?_, ?_, ?_, ?_, ?_, ?_⟩
  · intro hAbsent
    rw [hInitial, hSilent.posts, hSilent.granted]
    cases hCreated : s.created.sem i with
    | true => exact absurd ((hOld hCreated).2.symm.trans hAbsent) (by simp)
    | false =>
      obtain ⟨hNone, hPosts, hGranted⟩ := h.absent hCreated
      rcases hNew hCreated with ⟨_, hCount⟩ | ⟨hNow, _⟩
      · rw [hNone, hCount]
        exact ⟨rfl, hPosts, hGranted⟩
      · exact absurd (hNow.symm.trans hAbsent) (by simp)
  · intro hNow
    rw [hInitial, hSilent.posts, hSilent.granted]
    cases hCreated : s.created.sem i with
    | true =>
      obtain ⟨n, hCount, hBalance⟩ := h.balance hCreated
      have hTokens : (s.afterCreate c k' err).kernel.tokens i = s.kernel.tokens i :=
        (hOld hCreated).1
      exact ⟨n, by rw [hCount]; rfl, by rw [hTokens, hBalance]⟩
    | false =>
      obtain ⟨hNone, hPosts, hGranted⟩ := h.absent hCreated
      rcases hNew hCreated with ⟨hAbsent, _⟩ | ⟨_, hCount, _, _⟩
      · exact absurd (hNow.symm.trans hAbsent) (by simp)
      · exact ⟨k'.tokens i, by rw [hNone, hCount]; rfl, by rw [hPosts, hGranted]; rfl⟩
  · intro hNow
    cases hCreated : s.created.sem i with
    | true => exact (hOld hCreated).1 ▸ h.small hCreated
    | false =>
      rcases hNew hCreated with ⟨hAbsent, _⟩ | ⟨_, _, hSmall, _⟩
      · exact absurd (hNow.symm.trans hAbsent) (by simp)
      · exact hSmall
  · intro hNow hToken
    cases hCreated : s.created.sem i with
    | true =>
      have hToken : 0 < s.kernel.tokens i := (hOld hCreated).1 ▸ hToken
      exact (congrFun hWaiters _).trans (h.empty hCreated hToken)
    | false =>
      rcases hNew hCreated with ⟨hAbsent, _⟩ | ⟨_, _, _, hEmpty⟩
      · exact absurd (hNow.symm.trans hAbsent) (by simp)
      · exact hEmpty
  · exact (h.waitBooks.afterCreate hSound hCreation).blocked
  · exact (h.waitBooks.afterCreate hSound hCreation).woken

theorem SemEffect.of_unused {k : Kernel} (h : SemEffect k i k' piece f)
    (hUses : piece.usesSem i = false) :
    k'.tokens i = k.tokens i ∧ k'.waiters (.sem i) = k.waiters (.sem i) := by
  cases h with
  | woken hTokens hWaiters => exact ⟨hTokens, hWaiters⟩
  | refuse hTokens hWaiters => exact ⟨hTokens, hWaiters⟩
  | other _ _ hTokens hWaiters => exact ⟨hTokens, hWaiters⟩
  | _ => simp [Piece.usesSem] at hUses

theorem Sound.waitsKept_isr {k₁ : Kernel} {err : OsErr} {data : List U8} (h : Sound s)
    (hSound : Sound { s with kernel := k' }) (hUses : piece.usesSem i = false)
    (hSection : Section s.kernel piece k₁ (.returned err data)) (hQuiet : Quiet k₁ k') :
    WaitsKept i s { s with kernel := k' } := by
  have hWaiters := ((hSection.semEffect (i := i) h.waiting).of_unused hUses).2
  intro t ht
  dsimp only
  rw [hQuiet.blockedOn, hQuiet.timeout]
  obtain ⟨hOn, hTimeout, _⟩ | ⟨w, hOn, hNone, _⟩ := (hSection.reblocks h.waiting.listed).task
    (t := t) h.waiting (fun hRest => absurd rfl hRest)
  · exact .inl ⟨hOn, hTimeout⟩
  · have hBlocked : s.kernel.blockedOn t = some (.sem i) := by
      obtain hSem | hFree := h.semWait_cases ht
      · exact hSem
      · exact absurd (hOn.symm.trans hFree) (by simp)
    have hIn : t ∈ k'.waiters (.sem i) := by
      rw [hQuiet.waiters, hWaiters]
      exact h.waiting.mem_waiters.mpr hBlocked
    have hStill := hSound.waiting.mem_waiters.mp hIn
    rw [hQuiet.blockedOn, hNone] at hStill
    cases hStill

theorem Sound.waitsKept_tick (h : Sound s) :
    WaitsKept i s { s with kernel := osTick s.kernel } := by
  intro t ht
  obtain hSame | ⟨hReached, hWoken⟩ := h.waiting.updateTickCount.ticked_unblockTasks.tasks t
  · left
    constructor
    · exact congrArg Tcb.blockedWaitlist hSame
    · exact congrArg Tcb.timeout hSame
  · right
    have hBlocked : s.kernel.blockedOn t = some (.sem i) := by
      obtain hSem | hFree := h.semWait_cases ht
      · exact hSem
      · exact absurd hReached.1 (h.not_blocked ht (by simp) hFree)
    have hSome : (updateTickCount s.kernel).blockedOn t = some (.sem i) := hBlocked
    rw [hSome] at hWoken
    exact ⟨hBlocked, congrArg Tcb.blockedWaitlist hWoken, congrArg Tcb.timeout hWoken⟩

theorem waitsKept_pendSV : WaitsKept i s { s with kernel := pendSVHandler s.kernel } := by
  have hSame := sameButStates_osScheduleNextTask (k := { s.kernel with pendSV := false })
  exact fun t _ => .inl ⟨congrFun hSame.blockedOn t, hSame.timeout⟩

theorem WaitBooks.afterMove (h : WaitBooks i trace s) (hMove : Move s e s' out)
    (hUser : UserBlocks ⟨s, e, out, s'⟩) : WaitBooks i (trace ++ [⟨s, e, out, s'⟩]) s' := by
  have hSound := h.sound.afterMove hMove hUser
  cases hMove with
  | create _ _ _ hCreation => exact h.afterCreate hSound hCreation
  | call _ _ _ hSection => exact h.afterPiece hSound rfl hSection
  | resume _ hPending hSection =>
    refine h.afterPiece hSound ?_ hSection
    rw [pieceOf, hPending]
    rfl
  | @isrSend queue item k' err data _ hSection =>
    have hSilent : ∀ k, Silent i ⟨s, .isrSend queue item, some ⟨err, data⟩,
        { s with kernel := k }⟩ := fun _ => silent_of_usesSem rfl rfl
    split at hSound
    · rename_i hErr
      rw [if_pos hErr]
      exact h.afterSilent hSound (hSilent _) rfl
        (h.sound.waitsKept_isr hSound rfl hSection (quiet_countDropped k' queue))
    · rename_i hErr
      rw [if_neg hErr]
      exact h.afterSilent hSound (hSilent _) rfl
        (h.sound.waitsKept_isr hSound rfl hSection (.refl _))
  | isrRecv _ hSection =>
    exact h.afterSilent hSound (silent_of_usesSem rfl rfl) rfl
      (h.sound.waitsKept_isr hSound rfl hSection (.refl _))
  | tick => exact h.afterSilent hSound ⟨rfl, rfl⟩ rfl h.sound.waitsKept_tick
  | pendSV => exact h.afterSilent hSound ⟨rfl, rfl⟩ rfl waitsKept_pendSV

theorem SemHistory.afterIsr {k₁ : Kernel} {err : OsErr} {data : List U8}
    (h : SemHistory i calls trace s) (hSound : Sound { s with kernel := k' })
    (hPiece : pieceOf s e = some piece) (hUses : piece.usesSem i = false)
    (hCreate : createCall ⟨s, e, out, { s with kernel := k' }⟩ = none)
    (hSection : Section s.kernel piece k₁ (.returned err data)) (hQuiet : Quiet k₁ k')
    (hTokens : k'.tokens = k₁.tokens) :
    SemHistory i calls (trace ++ [⟨s, e, out, { s with kernel := k' }⟩])
      { s with kernel := k' } := by
  obtain ⟨hSame, hWaiters⟩ := (hSection.semEffect (i := i) h.sound.waiting).of_unused hUses
  refine h.afterSilent hSound (silent_of_usesSem hPiece hUses) hCreate rfl rfl ?_ ?_
    (h.sound.waitsKept_isr hSound hUses hSection hQuiet)
  · exact (congrFun hTokens i).trans hSame
  · intro hEmpty
    dsimp only
    rw [hQuiet.waiters, hWaiters, hEmpty]

theorem SemHistory.afterTick (h : SemHistory i calls trace s)
    (hSound : Sound { s with kernel := osTick s.kernel }) :
    SemHistory i calls (trace ++ [⟨s, .tick, out, { s with kernel := osTick s.kernel }⟩])
      { s with kernel := osTick s.kernel } := by
  have hTicked := h.sound.waiting.updateTickCount.ticked_unblockTasks
  refine h.afterSilent hSound ⟨rfl, rfl⟩ rfl rfl rfl ?_ ?_ h.sound.waitsKept_tick
  · exact congrFun hTicked.tokens i
  · intro hEmpty
    have hEmpty : (updateTickCount s.kernel).waiters (.sem i) = [] := hEmpty
    exact List.sublist_nil.mp (hEmpty ▸ hTicked.waiters (.sem i))

theorem SemHistory.afterPendSV (h : SemHistory i calls trace s)
    (hSound : Sound { s with kernel := pendSVHandler s.kernel }) :
    SemHistory i calls
      (trace ++ [⟨s, .pendSV, out, { s with kernel := pendSVHandler s.kernel }⟩])
      { s with kernel := pendSVHandler s.kernel } := by
  have hSame := sameButStates_osScheduleNextTask (k := { s.kernel with pendSV := false })
  refine h.afterSilent hSound ⟨rfl, rfl⟩ rfl rfl rfl ?_ ?_ waitsKept_pendSV
  · exact congrFun (tokens_congr hSame.semaphores) i
  · intro hEmpty
    exact (congrFun hSame.waiters (.sem i)).trans hEmpty

theorem usesSem_created {c : ApiCall} (hAllowed : s.created.allows c = true)
    (hUses : (Piece.call c).usesSem i = true) : s.created.sem i = true := by
  cases c with
  | semWait sem n =>
    cases sem with
    | none => cases hUses
    | some j =>
      obtain rfl := beq_iff_eq.mp hUses
      exact hAllowed
  | semPost sem =>
    cases sem with
    | none => cases hUses
    | some j =>
      obtain rfl := beq_iff_eq.mp hUses
      exact hAllowed
  | _ => cases hUses

theorem SemHistory.afterMove (h : SemHistory i calls trace s) (hMove : Move s e s' out)
    (hUser : UserBlocks ⟨s, e, out, s'⟩) (hFits : PostFits i ⟨s, e, out, s'⟩) :
    SemHistory i calls (trace ++ [⟨s, e, out, s'⟩]) s' := by
  have hSound := h.sound.afterMove hMove hUser
  cases hMove with
  | create _ _ hFresh hCreation => exact h.afterCreate hSound hFresh hCreation
  | @call c _ _ _ _ hAllowed hSection hCall =>
    refine h.afterPiece hSound rfl hSection (usesSem_created hAllowed) ?_ hFits
    cases c with
    | create call => exact absurd rfl (hCall call)
    | _ => rfl
  | @resume rest _ _ _ hPending hSection =>
    have hPiece : pieceOf s .resume = some (.rest rest) := by
      rw [pieceOf, hPending]
      rfl
    refine h.afterPiece hSound hPiece hSection ?_ rfl hFits
    intro hUses
    cases rest with
    | semWait j =>
      obtain rfl := beq_iff_eq.mp hUses
      exact h.sound.pending_created _ _ _ hPending rfl
    | _ => cases hUses
  | @isrSend queue item k' err data _ hSection =>
    split at hSound
    · rename_i hErr
      rw [if_pos hErr]
      exact h.afterIsr hSound rfl rfl rfl hSection (quiet_countDropped k' queue)
        (tokens_congr (by cases queue <;> rfl))
    · rename_i hErr
      rw [if_neg hErr]
      exact h.afterIsr hSound rfl rfl rfl hSection (.refl _) rfl
  | isrRecv _ hSection => exact h.afterIsr hSound rfl rfl rfl hSection (.refl _) rfl
  | tick => exact h.afterTick hSound
  | pendSV => exact h.afterPendSV hSound

theorem semHistory_of_boot {image : Image} {start : Sys}
    (h : boot image calls = some start) : SemHistory i calls [] start := by
  have hSound := sound_of_boot h
  obtain ⟨s, hCounts, hBooting, rfl⟩ := boot_induction
    (P := fun done s =>
      (s.created.sem i = false → done.findSome? (initialCountOf i) = none) ∧
      (s.created.sem i = true → done.findSome? (initialCountOf i) = some (s.kernel.tokens i) ∧
        s.kernel.tokens i ≤ 255)) h
    ⟨fun _ => rfl, fun hNow => by cases hNow⟩
    (by
      intro done s c k' err hOld _ hFresh hCreation
      obtain ⟨hKept, hNew⟩ := hCreation.semaphore (i := i) hFresh
      rw [findSome_snoc]
      cases hCreated : s.created.sem i with
      | true =>
        obtain ⟨hTokens, hNow⟩ := hKept hCreated
        obtain ⟨hCount, hSmall⟩ := hOld.2 hCreated
        refine ⟨fun hAbsent => absurd (hNow.symm.trans hAbsent) (by simp), fun _ => ?_⟩
        rw [hCount]
        exact ⟨congrArg some hTokens.symm, hTokens ▸ hSmall⟩
      | false =>
        rw [hOld.1 hCreated]
        rcases hNew hCreated with ⟨hAbsent, hCount⟩ | ⟨hNow, hCount, hSmall, _⟩
        · exact ⟨fun _ => hCount, fun hNow => absurd (hNow.symm.trans hAbsent) (by simp)⟩
        · exact ⟨fun hAbsent => absurd (hNow.symm.trans hAbsent) (by simp),
            fun _ => ⟨hCount, hSmall⟩⟩)
  have hTokens : (osKernelStart s.kernel image.idleTaskHandler image.idleTaskStack).tokens =
      s.kernel.tokens := tokens_congr sameButStates_osScheduleNextTask.semaphores
  have hInitial : initialCount i calls [] = calls.findSome? (initialCountOf i) := by
    simp [initialCount]
  refine ⟨hSound, ?_, ?_, ?_, ?_, ?_, ?_⟩
  · intro hAbsent
    exact ⟨hInitial.trans (hCounts.1 hAbsent), rfl, rfl⟩
  · intro hNow
    refine ⟨_, hInitial.trans (hCounts.2 hNow).1, ?_⟩
    dsimp only
    rw [hTokens]
    rfl
  · intro hNow
    dsimp only
    rw [hTokens]
    exact (hCounts.2 hNow).2
  · intro _ _
    have hWaiters : (osKernelStart s.kernel image.idleTaskHandler image.idleTaskStack).waiters =
        (initIdleTask s.kernel image.idleTaskHandler image.idleTaskStack).waiters :=
      sameButStates_osScheduleNextTask.waiters
    dsimp only
    rw [hWaiters]
    exact (hBooting.empty (.sem i)).tasks_eq
  · intro t ht
    rw [hBooting.pending] at ht
    cases ht
  · intro t ht
    rw [hBooting.pending] at ht
    cases ht

theorem semHistory_of_run {start : Sys} (hRun : Run start trace s)
    (hStart : SemHistory i calls [] start)
    (hUsed : ∀ l ∈ trace, UserBlocks l ∧ PostFits i l) : SemHistory i calls trace s :=
  hRun.historyInvariant (C := fun l => UserBlocks l ∧ PostFits i l) hStart
    (fun _ _ hTaken hUsed hPre => hPre.afterMove (move_of_step hTaken) hUsed.1 hUsed.2) hUsed

theorem waitResult_cases {err : OsErr} (h : waitResult i t l = some err) :
    t = l.pre.kernel.currentTask ∧ ∃ ret, l.out = some ret ∧ err = ret.err ∧
      ((∃ n, pieceOf l.pre l.event = some (.call (.semWait (some i) n))) ∨
        pieceOf l.pre l.event = some (.rest (.semWait i))) := by
  unfold waitResult at h
  split at h
  · rename_i hCurrent
    refine ⟨hCurrent.symm, ?_⟩
    split at h
    · rename_i j n ret hPiece hOut
      split at h
      · rename_i hEq
        cases h
        exact ⟨ret, hOut, rfl, .inl ⟨n, hEq ▸ hPiece⟩⟩
      · cases h
    · rename_i j ret hPiece hOut
      split at h
      · rename_i hEq
        cases h
        exact ⟨ret, hOut, rfl, .inr (hEq ▸ hPiece)⟩
      · cases h
    · cases h
  · cases h

theorem SemEffect.call_result {n : U32} {ret : Ret} (out : Option Ret)
    (h : SemEffect s.kernel i s'.kernel (.call (.semWait (some i) n)) f)
    (hPiece : pieceOf s e = some (.call (.semWait (some i) n))) (hOut : f.result = some ret) :
    isWait i ⟨s, e, out, s'⟩ = true ∧
      ((ret.err = .ok ∧ takesToken i ⟨s, e, out, s'⟩ = true) ∨
        (ret.err = .unavailable ∧ takesToken i ⟨s, e, out, s'⟩ = false)) := by
  have hWait : isWait i ⟨s, e, out, s'⟩ = true := by
    simp [isWait, hPiece, Piece.waits]
  refine ⟨hWait, ?_⟩
  cases h with
  | take hToken hTokens =>
    cases hOut
    have hLess : s'.kernel.tokens i < s.kernel.tokens i := by omega
    exact .inl ⟨rfl, by simp [takesToken, hWait, hLess]⟩
  | refuse hTokens =>
    cases hOut
    exact .inr ⟨rfl, by simp [takesToken, hTokens]⟩
  | wait => cases hOut
  | other hOther => simp [Piece.usesSem] at hOther

theorem WaitBooks.result {err : OsErr} (h : WaitBooks i trace s)
    (hMove : Move s e s' out) (hResult : waitResult i t ⟨s, e, out, s'⟩ = some err) :
    (err = .ok ∧ accounted i t (trace ++ [⟨s, e, out, s'⟩]) = 1) ∨
      (err = .unavailable ∧ accounted i t (trace ++ [⟨s, e, out, s'⟩]) = 0) := by
  obtain ⟨rfl, ret, hOut, rfl, hPiece⟩ := waitResult_cases hResult
  dsimp only at hOut hPiece ⊢
  cases hMove with
  | @call _ k' f _ _ _ hSection =>
    rcases hPiece with ⟨n, hPiece⟩ | hPiece
    · cases hPiece
      have hEffect : SemEffect s.kernel i (s.afterPiece k' f).kernel
          (.call (.semWait (some i) n)) f := hSection.semEffect h.sound.waiting
      obtain ⟨hWait, hCases⟩ :=
        hEffect.call_result (e := .call (.semWait (some i) n)) f.result rfl hOut
      rw [accounted_snoc, account, hWait]
      rcases hCases with ⟨hErr, hTakes⟩ | ⟨hErr, hTakes⟩
      · exact .inl ⟨hErr, by rw [hTakes]; simp⟩
      · exact .inr ⟨hErr, by rw [hTakes]; simp⟩
    · cases hPiece
  | @resume rest k' f hRun hPending hSection =>
    have hRest : rest = .semWait i := by
      rw [pieceOf, hPending] at hPiece
      rcases hPiece with ⟨n, hPiece⟩ | hPiece
      · cases hPiece
      · cases hPiece
        rfl
    subst hRest
    have hEffect := hSection.semEffect (i := i) h.sound.waiting
    cases hEffect with
    | woken =>
      cases hOut
      have hFree := h.sound.waiting.free_of_not_blocked (h.sound.current_free hRun)
      have hBooks := h.woken _ hPending hFree
      have hSilent : ∀ out s', Silent i ⟨s, .resume, out, s'⟩ := fun _ _ =>
        ⟨by simp [isPost, pieceOf, hPending, Piece.posts],
          by simp [isWait, pieceOf, hPending, Piece.waits]⟩
      rw [(hSilent _ _).accounted, hBooks]
      dsimp only
      rw [timeoutResult, Kernel.current]
      cases (s.kernel.userTasks s.kernel.currentTask).timeout with
      | true => exact .inr ⟨rfl, rfl⟩
      | false => exact .inl ⟨rfl, rfl⟩
    | other hOther => simp [Piece.usesSem] at hOther
  | isrSend => rcases hPiece with ⟨n, hPiece⟩ | hPiece <;> cases hPiece
  | isrRecv => rcases hPiece with ⟨n, hPiece⟩ | hPiece <;> cases hPiece
  | tick => rcases hPiece with ⟨n, hPiece⟩ | hPiece <;> cases hPiece
  | pendSV => rcases hPiece with ⟨n, hPiece⟩ | hPiece <;> cases hPiece
  | create => rcases hPiece with ⟨n, hPiece⟩ | hPiece <;> cases hPiece

end Runs

/-- As long as the idle task does not block and no post is made at a count of 255, no token
of a semaphore is lost and none is made up. -/
theorem semaphore_conserves_tokens {image : Image} {calls : List CreateCall} {start s : Sys}
    {trace : List Label} (hBoot : boot image calls = some start) (hRun : Run start trace s)
    (i : SemId) (hUsed : ∀ l ∈ trace, UserBlocks l ∧ PostFits i l)
    (hCreated : s.created.sem i = true) : TokensConserved i calls trace s := by
  have hStart := semHistory_of_boot (i := i) hBoot
  have hHistory := semHistory_of_run hRun hStart hUsed
  refine ⟨hHistory.balance hCreated, ?_, ?_⟩
  · intro hToken
    rw [hHistory.sound.waiting.waitCount_eq, hHistory.empty hCreated hToken]
    rfl
  · intro before l after hTrace t err hResult
    subst hTrace
    obtain ⟨hTaken, hBefore⟩ := hRun.prefix
    have hPre := semHistory_of_run hBefore hStart fun l' hl' =>
      hUsed l' (List.mem_append_left _ hl')
    exact hPre.waitBooks.result (move_of_step hTaken) hResult

/-- A post hands its token to a task that waits with a time-out; the next one is kept. -/
theorem semaphore_conserves_tokens_released :
    ∃ start trace s,
      boot sampleImage [sampleTask 1, sampleTask 2, .sem (some 0) 0 (some .fifo)] = some start ∧
      Run start trace s ∧ (s.kernel.semaphores 0).count = 1 ∧
      TokensConserved 0 [sampleTask 1, sampleTask 2, .sem (some 0) 0 (some .fifo)] trace s := by
  have hCheck : checkBoot sampleImage [sampleTask 1, sampleTask 2, .sem (some 0) 0 (some .fifo)]
      [.call (.semWait (some 0) 5), .pendSV, .tick, .pendSV, .call (.semPost (some 0)), .tick,
        .pendSV, .resume, .call (.semPost (some 0))]
      (fun l => decide (UserBlocks l ∧ PostFits 0 l))
      (fun s => s.created.sem 0 && (s.kernel.semaphores 0).count == 1) = true := by
    decide +kernel
  obtain ⟨start, hBoot, hCheck⟩ := boot_of_checkBoot hCheck
  obtain ⟨trace, s, hRun, _, hUsed, hFinal⟩ := run_of_checkRun hCheck
  simp only [Bool.and_eq_true, beq_iff_eq] at hFinal
  have hConserved := semaphore_conserves_tokens hBoot hRun 0
    (fun l hl => of_decide_eq_true (hUsed l hl)) hFinal.1
  exact ⟨start, trace, s, hBoot, hRun, hFinal.2, hConserved⟩

section Overflow

variable {i : SemId} {s : Sys}

/-- The running task can post to `i`, and nobody waits there. -/
structure Posting (i : SemId) (s : Sys) : Prop where
  pendSV : s.kernel.pendSV = false
  free : s.pending s.kernel.currentTask = none
  created : s.created.sem i = true
  empty : (s.kernel.waitlist (.sem i)).waitCount = 0
  small : s.kernel.tokens i < 2 ^ 8

theorem Posting.post (h : Posting i s) :
    ∃ s', step s (.call (.semPost (some i))) = some (s', some ⟨.ok, []⟩) ∧ Posting i s' ∧
      s'.kernel.tokens i = (s.kernel.tokens i + 1) % 2 ^ 8 := by
  have hPost : osSemPost s.kernel (some i) = some (addToken s.kernel i, .ret .ok) := by
    simp [osSemPost, waitlistUnblock, h.empty, addToken]
  have hTokens : (addToken s.kernel i).tokens i = (s.kernel.tokens i + 1) % 2 ^ 8 := by
    rw [tokens_addToken, if_pos rfl]
  refine ⟨s.afterPiece (addToken s.kernel i) (.ret .ok), ?_, ⟨h.pendSV, ?_, h.created, ?_, ?_⟩,
    hTokens⟩
  · simp [step, h.pendSV, h.free, Objects.allows, Objects.hasOptional, h.created, runCall, hPost,
      settle_eq, Flow.ret, Flow.result]
  · simp [Sys.afterPiece, Flow.ret, Flow.rest]
  · have hQuiet := quiet_addToken (k := s.kernel) (i := i)
    simp [Sys.afterPiece, hQuiet.waitlist, h.empty]
  · rw [Sys.afterPiece, hTokens]
    exact Nat.mod_lt _ (by decide)

theorem Posting.run (h : Posting i s) (n : Nat) :
    ∃ trace s', Run s trace s' ∧ (∀ l ∈ trace, UserBlocks l) ∧ Posting i s' ∧
      posts i trace = n ∧ granted i trace = 0 ∧
      s'.kernel.tokens i = (s.kernel.tokens i + n) % 2 ^ 8 := by
  induction n with
  | zero =>
    refine ⟨[], s, .nil, by simp, h, rfl, rfl, ?_⟩
    rw [Nat.add_zero, Nat.mod_eq_of_lt h.small]
  | succ n ih =>
    obtain ⟨trace, s', hRun, hUser, hPosting, hPosts, hGranted, hTokens⟩ := ih
    obtain ⟨s'', hStep, hPosting', hTokens'⟩ := hPosting.post
    have hNobody : s'.kernel.waiters (.sem i) = [] := by
      simp [Kernel.waiters, Waitlist.tasks, hPosting.empty]
    let l : Label := ⟨s', .call (.semPost (some i)), some ⟨.ok, []⟩, s''⟩
    have hTaken : Transition.Taken step l := hStep
    refine ⟨trace ++ [l], s'', .snoc hRun hTaken, ?_, hPosting', ?_, ?_, ?_⟩
    · intro l hl
      rcases List.mem_append.mp hl with hl | hl
      · exact hUser l hl
      · obtain rfl := List.mem_singleton.mp hl
        rfl
    · rw [posts_snoc, hPosts]
      simp [l, isPost, pieceOf, Piece.posts]
    · rw [granted_snoc, hGranted]
      simp [l, takesToken, isWait, releases, pieceOf, Piece.waits, hNobody]
    · rw [hTokens', hTokens, Nat.mod_add_mod, Nat.add_assoc]

end Overflow

/-- After 256 posts that nobody waits for, no token is left. -/
theorem semaphore_loses_tokens :
    ¬ ∀ image calls start trace s, boot image calls = some start → Run start trace s →
      (∀ l ∈ trace, UserBlocks l) → ∀ i, s.created.sem i = true →
        TokensConserved i calls trace s := by
  intro hClaim
  have hCheck : checkBoot sampleImage [sampleTask 1, .sem (some 0) 0 (some .fifo)] []
      (fun _ => true)
      (fun s => !s.kernel.pendSV && (s.pending s.kernel.currentTask).isNone && s.created.sem 0 &&
        (s.kernel.waitlist (.sem 0)).waitCount == 0 && s.kernel.tokens 0 == 0) = true := by
    decide +kernel
  obtain ⟨start, hBoot, hCheck⟩ := boot_of_checkBoot hCheck
  simp only [checkRun, Bool.and_eq_true, Bool.not_eq_true', Option.isNone_iff_eq_none,
    beq_iff_eq] at hCheck
  obtain ⟨⟨⟨⟨hPendSV, hFree⟩, hCreated⟩, hEmpty⟩, hTokens⟩ := hCheck
  have hPosting : Posting 0 start := ⟨hPendSV, hFree, hCreated, hEmpty, by rw [hTokens]; decide⟩
  obtain ⟨trace, s, hRun, hUser, hEnd, hPosts, hGranted, hCount⟩ := hPosting.run 256
  obtain ⟨n, hInitial, hBalance⟩ := (hClaim _ _ _ _ _ hBoot hRun hUser 0 hEnd.created).balance
  have hZero : n = 0 := by
    rw [initialCount, List.findSome?_append] at hInitial
    exact (Option.some.inj hInitial).symm
  have hNow : (s.kernel.semaphores 0).count = 0 := by
    have hNow : s.kernel.tokens 0 = 0 := by
      rw [hCount, hTokens]
      rfl
    exact hNow
  rw [hZero, hPosts, hGranted, hNow] at hBalance
  exact absurd hBalance (by decide)

end KoRTOS
