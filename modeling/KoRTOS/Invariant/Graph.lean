import KoRTOS.Invariant.Ownership
import KoRTOS.Library.Inheritance

/-!
# The waits-for graph of the mutexes

A task that is blocked on a mutex waits for its owner. The scan of
`mutex_recompute_owner_priority` finds the least claim on an owner in this
graph, and the walk of `mutex_donate_priority` follows its chain. `Inherits`
says what each piece of code does to the graph and to effective priorities.
-/

namespace KoRTOS

open FiberLists Inheritance

section Scanning

variable {k : Kernel} {o t w : TaskId} {i : MutexId}

theorem foldl_range_entries {α β : Type*} {entry : Nat → Option α} {l : List α}
    {body : β → Nat → β} {f : β → α → β} (hEntry : ∀ i, i < l.length → entry i = l[i]?)
    (hBody : ∀ b i x, entry i = some x → body b i = f b x) (b : β) :
    (List.range l.length).foldl body b = l.foldl f b := by
  have hTake : ∀ n, n ≤ l.length → (List.range n).foldl body b = (l.take n).foldl f b := by
    intro n
    induction n with
    | zero => intro _; rfl
    | succ n ih =>
      intro hn
      have hGet : entry n = some l[n] := by
        rw [hEntry n hn]
        exact List.getElem?_eq_getElem hn
      rw [List.range_succ, List.foldl_append, ih (by omega), List.take_succ_eq_append_getElem hn,
        List.foldl_append]
      exact hBody _ n _ hGet
  simpa using hTake l.length le_rfl

def claimants (k : Kernel) (o : TaskId) : List TaskId :=
  (k.owned o).flatMap fun i => k.waiters (.mutex i)

theorem scanOwner_eq (hListed : Listed k) (hOwns : (k.userTasks o).Owns (k.owned o)) :
    scanOwner k o = (claimants k o).foldl (fun best w => min (k.eff w) best) (k.base o) := by
  have hWaiter : ∀ i highest,
      (List.range (k.mutexes i).waitlist.waitCount).foldl (scanWaiter k (k.mutexes i).waitlist)
        highest = (k.waiters (.mutex i)).foldl (fun best w => min (k.eff w) best) highest := by
    intro i highest
    have hList : (k.mutexes i).waitlist.Represents (k.waiters (.mutex i)) := hListed (.mutex i)
    rw [hList.count]
    refine foldl_range_entries (fun j _ => hList.entry j) (fun best j w hw => ?_) highest
    rw [scanWaiter, hw]
    dsimp only [Kernel.eff]
    split <;> omega
  rw [scanOwner, hOwns.count, claimants, List.foldl_flatMap]
  refine foldl_range_entries hOwns.entry (fun best j i hi => ?_) _
  rw [scanOwnedMutex, hi]
  exact hWaiter i best

theorem scanOwner_isLeast (hListed : Listed k) (hOwns : (k.userTasks o).Owns (k.owned o)) :
    IsLeast (insert (k.base o) {p | ∃ w ∈ claimants k o, p = k.eff w}) (scanOwner k o) := by
  rw [scanOwner_eq hListed hOwns]
  exact Scan.foldl_min_isLeast _ _ _

theorem nextOwner_eq_some :
    nextOwner k t = some o ↔ ∃ i, k.blockedOn t = some (.mutex i) ∧ k.ownerOf i = some o := by
  unfold nextOwner castWaitlistToMutex
  rw [show (k.userTasks t).blockedWaitlist = k.blockedOn t from rfl]
  cases k.blockedOn t with
  | none => simp
  | some w =>
    cases w with
    | mutex i => simp [Kernel.ownerOf]
    | _ => simp

theorem nextOwner_of_blockedOn (h : k.blockedOn t = some (.mutex i)) :
    nextOwner k t = k.ownerOf i := by
  unfold nextOwner castWaitlistToMutex
  rw [show (k.userTasks t).blockedWaitlist = k.blockedOn t from rfl, h]
  rfl

theorem nextOwner_eq_none (h : ∀ i, k.blockedOn t ≠ some (.mutex i)) : nextOwner k t = none := by
  cases hNext : nextOwner k t with
  | none => rfl
  | some o =>
    obtain ⟨i, hOn, _⟩ := nextOwner_eq_some.mp hNext
    exact absurd hOn (h i)

theorem nextOwner_congr {k' : Kernel} (hBlocked : k'.blockedOn = k.blockedOn)
    (hOwner : k'.ownerOf = k.ownerOf) : nextOwner k' = nextOwner k := by
  funext t
  refine Option.ext fun o => ?_
  rw [nextOwner_eq_some, nextOwner_eq_some, hBlocked, hOwner]

theorem mem_claimants (hWaiting : Fibers k.blockedOn k.waiters)
    (hFibers : ∀ i, i ∈ k.owned o ↔ k.ownerOf i = some o) :
    w ∈ claimants k o ↔ nextOwner k w = some o := by
  rw [claimants, List.mem_flatMap, nextOwner_eq_some]
  constructor
  · rintro ⟨i, hi, hw⟩
    exact ⟨i, hWaiting.mem_iff.mp hw, (hFibers i).mp hi⟩
  · rintro ⟨i, hOn, hOwner⟩
    exact ⟨i, (hFibers i).mpr hOwner, hWaiting.mem_iff.mpr hOn⟩

theorem scanOwner_least (hListed : Listed k) (hWaiting : Fibers k.blockedOn k.waiters)
    (hOwning : Owning k) (o : TaskId) :
    IsLeast (claims k.base k.eff (nextOwner k) o) (scanOwner k o) := by
  have hMem : ∀ w, w ∈ claimants k o ↔ nextOwner k w = some o := fun w =>
    mem_claimants hWaiting fun _ => hOwning.fibers.mem_iff
  have hLeast := scanOwner_isLeast hListed (hOwning.listed o)
  simp only [hMem] at hLeast
  exact hLeast

end Scanning

section Walks

variable {k : Kernel} {o t u : TaskId} {p v n : Nat}

theorem eff_setEffectivePriority :
    (k.setEffectivePriority o v).eff = Function.update k.eff o v := by
  funext x
  rw [Kernel.eff, Kernel.setEffectivePriority, Kernel.userTasks_modifyTask,
    Function.update_apply]
  split <;> rfl

theorem Reranked.nextOwner {k' : Kernel} (h : Reranked k k') :
    nextOwner k' = nextOwner k := nextOwner_congr h.blockedOn h.ownerOf

theorem mutexRecomputeOwnerPriority_free (hFree : (k.userTasks o).blockReason ≠ .mutex) :
    mutexRecomputeOwnerPriority k (some o) = k.setEffectivePriority o (scanOwner k o) := by
  have hReason : ((k.setEffectivePriority o (scanOwner k o)).userTasks o).blockReason ≠ .mutex := by
    rw [(Reranked.setEffectivePriority k o _).blockReason]
    exact hFree
  rw [mutexRecomputeOwnerPriority, osMaxTasks, recomputeLoop]
  exact if_pos hReason

theorem eff_donateLoop (hReason : ∀ t, (k.userTasks t).blockReason ≠ .mutex → nextOwner k t = none) :
    (donateLoop p n (some o) k).eff = donate k.eff p (walk (nextOwner k) n (some o)) := by
  induction n generalizing k o with
  | zero =>
    funext x
    simp [donateLoop, donate, walk]
  | succ n ih =>
    rw [donateLoop, walk]
    generalize hk₁ : (if p < (k.userTasks o).effectivePriority then k.setEffectivePriority o p
      else k) = k₁
    have hRanks : Reranked k k₁ := by
      rw [← hk₁]
      split
      · exact .setEffectivePriority k o p
      · exact .refl k
    have hFirst : k₁.eff = donate k.eff p [o] := by
      rw [← hk₁]
      funext x
      split
      · rename_i hLower
        rw [eff_setEffectivePriority, Function.update_apply, donate]
        by_cases hEq : x = o
        · subst hEq
          have hLower : p < k.eff x := hLower
          simp [hLower.le]
        · simp [hEq]
      · rename_i hKept
        rw [donate]
        by_cases hEq : x = o
        · subst hEq
          have hKept : k.eff x ≤ p := Nat.le_of_not_lt hKept
          simp [hKept]
        · simp [hEq]
    have hStep : ∀ l, donate k₁.eff p l = donate k.eff p (o :: l) := by
      intro l
      rw [hFirst]
      funext x
      by_cases hEq : x = o <;> by_cases hMem : x ∈ l <;> simp [donate, hEq, hMem]
    split
    · rename_i hFree
      have hNone : nextOwner k o = none := hReason o (hRanks.blockReason ▸ hFree)
      rw [hNone, show walk (nextOwner k) n none = [] by cases n <;> rfl]
      exact hFirst
    · rw [hRanks.nextOwner]
      cases hNext : nextOwner k o with
      | none =>
        rw [show donateLoop p n none k₁ = k₁ by cases n <;> rfl,
          show walk (nextOwner k) n none = [] by cases n <;> rfl]
        exact hFirst
      | some o' =>
        have hReason₁ : ∀ t, (k₁.userTasks t).blockReason ≠ .mutex → nextOwner k₁ t = none := by
          intro t ht
          rw [hRanks.nextOwner]
          exact hReason t (hRanks.blockReason ▸ ht)
        rw [ih hReason₁, hRanks.nextOwner]
        exact hStep _

end Walks

structure SameRanks (k k' : Kernel) : Prop where
  base : k'.base = k.base
  eff : k'.eff = k.eff

namespace SameRanks

variable {k k' k'' : Kernel} {t : TaskId} {w : WaitlistRef} {j : Nat} {b : Bool} {n : U32}

theorem trans (h : SameRanks k k') (h' : SameRanks k' k'') : SameRanks k k'' where
  base := h'.base.trans h.base
  eff := h'.eff.trans h.eff

theorem of_userTasks (h : k'.userTasks = k.userTasks) : SameRanks k k' where
  base := by
    funext t
    rw [Kernel.base, h, Kernel.base]
  eff := by
    funext t
    rw [Kernel.eff, h, Kernel.eff]

theorem modifyTask {f : Tcb → Tcb}
    (hBase : (f (k.userTasks t)).basePriority = (k.userTasks t).basePriority)
    (hEff : (f (k.userTasks t)).effectivePriority = (k.userTasks t).effectivePriority) :
    SameRanks k (k.modifyTask t f) where
  base := by
    funext u
    rw [Kernel.base, Kernel.userTasks_modifyTask]
    split
    · subst u
      exact hBase
    · rfl
  eff := by
    funext u
    rw [Kernel.eff, Kernel.userTasks_modifyTask]
    split
    · subst u
      exact hEff
    · rfl

theorem leaveWaitlist : SameRanks k (leaveWaitlist k w j t b) :=
  SameRanks.trans (.modifyTask (f := wakeTcb b) rfl rfl)
    (.of_userTasks (Kernel.userTasks_setWaitlist ..))

theorem enqueueCurrent {reason : BlockReason} : SameRanks k (enqueueCurrent k w n reason) :=
  SameRanks.trans (.modifyTask rfl rfl)
    (.of_userTasks ((Kernel.userTasks_portYield).trans (Kernel.userTasks_setWaitlist ..)))

theorem removeOwnedMutex {i : MutexId} : SameRanks k (k.modifyTask t (removeOwnedMutex i)) := by
  apply SameRanks.modifyTask <;>
  · unfold KoRTOS.removeOwnedMutex
    split <;> rfl

theorem releaseOwned {i : MutexId} : SameRanks k (releaseOwned k i j t) :=
  removeOwnedMutex.trans leaveWaitlist

theorem giveMutex {i : MutexId} : SameRanks k (giveMutex k i t) :=
  SameRanks.trans (.modifyTask rfl rfl) (.of_userTasks Kernel.userTasks_setOwner)

theorem acquire {i : MutexId} : SameRanks k (acquire k i) :=
  SameRanks.trans (.modifyTask rfl rfl) (.of_userTasks Kernel.userTasks_setOwner)

theorem free {i : MutexId} : SameRanks k (free k i) :=
  removeOwnedMutex.trans (.of_userTasks Kernel.userTasks_setOwner)

theorem delayCurrent : SameRanks k (delayCurrent k n) :=
  SameRanks.trans (.modifyTask rfl rfl) (.of_userTasks Kernel.userTasks_portYield)

end SameRanks

/-- What a piece of code does to the waits-for graph and to effective priorities: a task
that starts to wait donates its priority along the chain of the owner, an unprotected
recomputation writes the value it carries, and the two sides of a hand-off each get the
least claim on them. -/
inductive Inherits (k : Kernel) : Piece → Kernel → Prop
  | still {piece k'} (hEff : k'.eff = k.eff) (hNext : nextOwner k' = nextOwner k) :
      Inherits k piece k'
  | donate {i n o k'} (hOwner : k.ownerOf i = some o) (hOther : o ≠ k.currentTask)
      (hFree : nextOwner k k.currentTask = none)
      (hEff : k'.eff =
        donate k.eff (k.eff k.currentTask) (walk (nextOwner k) osMaxTasks (some o)))
      (hNext : nextOwner k' = Function.update (nextOwner k) k.currentTask (some o)) :
      Inherits k (.call (.mutexLock (some i) n)) k'
  | write {i r o n v k'} (hEff : k'.eff = Function.update k.eff o v)
      (hNext : nextOwner k' = nextOwner k) :
      Inherits k (.rest (.mutexLock i r (.scanned o n v))) k'
  | handOff {i t v u k'} (hOwner : k.ownerOf i = some k.currentTask)
      (hWaits : k.blockedOn t = some (.mutex i)) (hFree : nextOwner k k.currentTask = none)
      (hNext : ∀ x, nextOwner k' x =
        if x = t then none else if k.blockedOn x = some (.mutex i) then some t else nextOwner k x)
      (hEff : k'.eff = Function.update (Function.update k.eff k.currentTask v) t u)
      (hGiver : IsLeast (claims k.base k.eff (nextOwner k') k.currentTask) v)
      (hTaker : IsLeast (claims k.base k.eff (nextOwner k') t) u) :
      Inherits k (.call (.mutexUnlock (some i))) k'

section Pieces

variable {k k' : Kernel} {piece : Piece} {f : Flow} {t c : TaskId} {i : MutexId} {j : Nat}

theorem blockedOn_handOff :
    (handOff k i j t).blockedOn = Function.update k.blockedOn t none := by
  rw [handOff_blocking.blockedOn, blockedOn_leaveWaitlist]

theorem nextOwner_handOff (hOwning : Owning k) (hOwner : k.ownerOf i = some k.currentTask)
    (x : TaskId) :
    nextOwner (handOff k i j t) x =
      if x = t then none else if k.blockedOn x = some (.mutex i) then some t
        else nextOwner k x := by
  have hOwners := (hOwning.afterHandOff (j := j) (t := t) hOwner).2
  have hOn : (handOff k i j t).blockedOn x = if x = t then none else k.blockedOn x := by
    rw [blockedOn_handOff, Function.update_apply]
  refine Option.ext fun o => ?_
  rw [nextOwner_eq_some, hOn, hOwners]
  split
  · simp
  · split
    · rename_i hWaits
      simp [hWaits]
    · rename_i hOther
      rw [nextOwner_eq_some]
      constructor
      · rintro ⟨m, hm, ho⟩
        have hne : m ≠ i := fun hEq => hOther (hEq ▸ hm)
        exact ⟨m, hm, by rwa [Function.update_of_ne hne] at ho⟩
      · rintro ⟨m, hm, ho⟩
        have hne : m ≠ i := fun hEq => hOther (hEq ▸ hm)
        exact ⟨m, hm, by rwa [Function.update_of_ne hne]⟩

theorem Waiting.giver_ne_taker (h : Waiting k) (hFree : k.current.currentState ≠ .blocked)
    (hChosen : Chosen k (.mutex i) j t) : k.currentTask ≠ t := by
  intro hEq
  have hBlocked := (h.blocked (hChosen.blockedOn h)).2.2.1
  rw [← hEq] at hBlocked
  exact hFree hBlocked

/-- The hand-off as far as the giver's recomputed priority. -/
def givenUp (k : Kernel) (i : MutexId) (j : Nat) (t : TaskId) : Kernel :=
  (releaseOwned k i j t).setEffectivePriority k.currentTask
    (scanOwner (releaseOwned k i j t) k.currentTask)

theorem handOff_eq_free (h : Waiting k) (hFree : k.current.currentState ≠ .blocked)
    (hOwner : k.ownerOf i = some k.currentTask) (hChosen : Chosen k (.mutex i) j t) :
    handOff k i j t = (giveMutex (givenUp k i j t) i t).setEffectivePriority t
      (scanOwner (giveMutex (givenUp k i j t) i t) t) := by
  have hBlocking := releaseOwned_blocking (k := k) (i := i) (j := j) (t := t)
  have hGiver : ((releaseOwned k i j t).userTasks k.currentTask).blockReason ≠ .mutex := by
    have hNone : (k.userTasks k.currentTask).blockReason = .none := h.reason_none hFree
    rw [hBlocking.blockReason, userTasks_leaveWaitlist, if_neg (h.giver_ne_taker hFree hChosen),
      hNone]
    simp
  have hTaker : ((giveMutex (givenUp k i j t) i t).userTasks t).blockReason ≠ .mutex := by
    rw [giveMutex_blocking.blockReason, givenUp, (Reranked.setEffectivePriority _ _ _).blockReason,
      hBlocking.blockReason, userTasks_leaveWaitlist, if_pos rfl]
    simp [wakeTcb]
  rw [handOff_eq, show (k.mutexes i).owner = some k.currentTask from hOwner,
    mutexRecomputeOwnerPriority_free hGiver]
  exact mutexRecomputeOwnerPriority_free hTaker

theorem giver_least (h : Waiting k) (hOwning : Owning k)
    (hFree : k.current.currentState ≠ .blocked) (hOwner : k.ownerOf i = some k.currentTask)
    (hChosen : Chosen k (.mutex i) j t) :
    IsLeast (claims k.base k.eff (nextOwner (handOff k i j t)) k.currentTask)
      (scanOwner (releaseOwned k i j t) k.currentTask) := by
  have hct := h.giver_ne_taker hFree hChosen
  obtain ⟨l, hPerm, hReleased, hOwns⟩ := hOwning.afterReleaseOwned (j := j) (t := t) hOwner
  obtain ⟨hOwning', hOwners⟩ := hOwning.afterHandOff (j := j) (t := t) hOwner
  have hLeave := h.afterLeave (b := false) (h.listed.chosen hChosen)
  have hBlocking := releaseOwned_blocking (k := k) (i := i) (j := j) (t := t)
  have hRanks : SameRanks k (releaseOwned k i j t) := .releaseOwned
  have hOwned : ∀ m, m ∈ (releaseOwned k i j t).owned k.currentTask ↔
      m ∈ (handOff k i j t).owned k.currentTask := by
    intro m
    rw [hOwning'.fibers.mem_iff, hOwners, hReleased, Function.update_self, hPerm.mem_iff,
      (hOwning.fibers.nodup _).mem_erase_iff, hOwning.fibers.mem_iff, Function.update_apply]
    split
    · rename_i hmi
      simp [hmi, hct.symm]
    · rename_i hmi
      simp [hmi]
  have hClaimants : ∀ w, w ∈ claimants (releaseOwned k i j t) k.currentTask ↔
      nextOwner (handOff k i j t) w = some k.currentTask := by
    intro w
    have hFibers := (hLeave.congr handOff_blocking).fibers
    have hWaiters : (releaseOwned k i j t).waiters = (handOff k i j t).waiters :=
      hBlocking.waiters.trans handOff_blocking.waiters.symm
    rw [← mem_claimants hFibers fun _ => hOwning'.fibers.mem_iff, claimants, claimants,
      List.mem_flatMap, List.mem_flatMap, hWaiters]
    simp only [hOwned]
  have hLeast := scanOwner_isLeast (hLeave.congr hBlocking).listed (hOwns k.currentTask)
  simp only [hClaimants, hRanks.base, hRanks.eff] at hLeast
  exact hLeast

theorem taker_least (h : Waiting k) (hOwning : Owning k)
    (hFree : k.current.currentState ≠ .blocked) (hOwner : k.ownerOf i = some k.currentTask)
    (hChosen : Chosen k (.mutex i) j t) :
    IsLeast (claims (giveMutex (givenUp k i j t) i t).base (giveMutex (givenUp k i j t) i t).eff
        (nextOwner (handOff k i j t)) t)
      (scanOwner (giveMutex (givenUp k i j t) i t) t) := by
  have hRerank := Reranked.setEffectivePriority (giveMutex (givenUp k i j t) i t) t
    (scanOwner (giveMutex (givenUp k i j t) i t) t)
  rw [← handOff_eq_free h hFree hOwner hChosen] at hRerank
  have hWaiting : Waiting (giveMutex (givenUp k i j t) i t) := by
    apply Waiting.congr _ giveMutex_blocking
    apply Waiting.congr _ (Reranked.setEffectivePriority _ _ _).sameBlocking
    exact (h.afterLeave (h.listed.chosen hChosen)).congr releaseOwned_blocking
  have hOwning' : Owning (giveMutex (givenUp k i j t) i t) := by
    have hShape := hRerank.toSameShape
    exact (hOwning.afterHandOff (j := j) (t := t) hOwner).1.congr
      ⟨fun m => (hShape.owner m).symm, fun m => (hShape.state m).symm,
        fun x => hShape.ownedMutexes.symm, fun x => hShape.ownedMutexCount.symm⟩
  rw [hRerank.nextOwner]
  exact scanOwner_least hWaiting.listed hWaiting.fibers hOwning' t

theorem ranks_givenUp : (giveMutex (givenUp k i j t) i t).base = k.base ∧
    (giveMutex (givenUp k i j t) i t).eff =
      Function.update k.eff k.currentTask (scanOwner (releaseOwned k i j t) k.currentTask) := by
  have hReleased : SameRanks k (releaseOwned k i j t) := .releaseOwned
  have hGiven : SameRanks (givenUp k i j t) (giveMutex (givenUp k i j t) i t) := .giveMutex
  constructor
  · rw [hGiven.base, givenUp, (Reranked.setEffectivePriority _ _ _).base, hReleased.base]
  · rw [hGiven.eff, givenUp, eff_setEffectivePriority, hReleased.eff]

theorem eff_handOff (h : Waiting k) (hOwning : Owning k)
    (hFree : k.current.currentState ≠ .blocked) (hOwner : k.ownerOf i = some k.currentTask)
    (hChosen : Chosen k (.mutex i) j t) :
    ∃ v u, (handOff k i j t).base = k.base ∧
      (handOff k i j t).eff = Function.update (Function.update k.eff k.currentTask v) t u ∧
      IsLeast (claims k.base k.eff (nextOwner (handOff k i j t)) k.currentTask) v ∧
      IsLeast (claims k.base k.eff (nextOwner (handOff k i j t)) t) u := by
  obtain ⟨hBase, hEff⟩ := ranks_givenUp (k := k) (i := i) (j := j) (t := t)
  have hEq := handOff_eq_free h hFree hOwner hChosen
  have hTaker := taker_least h hOwning hFree hOwner hChosen
  have hNotWaiting : nextOwner (handOff k i j t) k.currentTask ≠ some t := by
    have hOn : (handOff k i j t).blockedOn k.currentTask = none := by
      rw [blockedOn_handOff, Function.update_of_ne (h.giver_ne_taker hFree hChosen)]
      exact h.free_of_not_blocked hFree
    rw [nextOwner_eq_none (by simp [hOn])]
    simp
  refine ⟨_, scanOwner (giveMutex (givenUp k i j t) i t) t, ?_, ?_,
    giver_least h hOwning hFree hOwner hChosen, ?_⟩
  · rw [hEq, (Reranked.setEffectivePriority _ _ _).base, hBase]
  · rw [hEq, eff_setEffectivePriority, hEff]
  · rw [hBase, hEff] at hTaker
    -- the giver waits for nobody, so its new priority claims nothing of the taker
    rwa [claims_congr (fun _ => Iff.rfl) fun w hw => ?_] at hTaker
    have hwc : w ≠ k.currentTask := fun hEq => hNotWaiting (hEq ▸ hw)
    rw [Function.update_of_ne hwc]

theorem Section.base (hs : Section k piece k' f) : k'.base = k.base := by
  have hRanked : ∀ {k k' : Kernel}, Reranked k k' → k'.base = k.base := fun h => h.base
  cases hs with
  | take => exact quiet_takeToken.base
  | post => exact quiet_addToken.base
  | serve hTraffic => exact hTraffic.quiet.base
  | wake hTraffic => exact (SameRanks.leaveWaitlist (b := false)).base.trans hTraffic.quiet.base
  | acquire => exact SameRanks.acquire.base
  | free => exact SameRanks.free.base
  | @handOff i j t =>
    have hRecompute := fun k o => (Reranked.mutexRecomputeOwnerPriority k o).base
    rw [(SameShape.portYield _).base, handOff_eq, hRecompute, SameRanks.giveMutex.base,
      hRecompute, SameRanks.releaseOwned.base]
  | delay => exact SameRanks.delayCurrent.base
  | block => exact SameRanks.enqueueCurrent.base
  | lockBlock => exact SameRanks.enqueueCurrent.base.trans (hRanked (.mutexDonatePriority k _))
  | lockFull => exact hRanked (.mutexDonatePriority k _)
  | write => exact hRanked (.setEffectivePriority _ _ _)
  | _ => rfl

def holderOf (k : Kernel) : WaitlistRef → Option TaskId
  | .mutex i => k.ownerOf i
  | _ => none

theorem Blocks.holderOf {w : WaitlistRef} {n : U32} {rest : Pending}
    (h : Blocks k piece w n rest) : holderOf k w = none := by
  cases h <;> rfl

theorem nextOwner_moved {w : Option WaitlistRef}
    (hOn : k'.blockedOn = Function.update k.blockedOn t w) (hOwner : k'.ownerOf = k.ownerOf) :
    nextOwner k' = Function.update (nextOwner k) t (w.bind (holderOf k)) := by
  funext x
  refine Option.ext fun o => ?_
  rw [nextOwner_eq_some, hOn, hOwner, Function.update_apply, Function.update_apply]
  split
  · rcases w with _ | _ | _ <;> simp [holderOf]
  · rw [nextOwner_eq_some]

theorem nextOwner_leave (hOn : k'.blockedOn = Function.update k.blockedOn t none)
    (hOwner : k'.ownerOf = k.ownerOf) :
    nextOwner k' = Function.update (nextOwner k) t none := nextOwner_moved hOn hOwner

theorem nextOwner_enter {w : WaitlistRef}
    (hOn : k'.blockedOn = Function.update k.blockedOn t (some w)) (hOwner : k'.ownerOf = k.ownerOf) :
    nextOwner k' = Function.update (nextOwner k) t (holderOf k w) := nextOwner_moved hOn hOwner

theorem nextOwner_unwanted {o : Option TaskId} (hOn : k'.blockedOn = k.blockedOn)
    (hOwner : k'.ownerOf = Function.update k.ownerOf i o)
    (hUnwanted : ∀ t, k.blockedOn t ≠ some (.mutex i)) : nextOwner k' = nextOwner k := by
  funext x
  refine Option.ext fun o => ?_
  rw [nextOwner_eq_some, nextOwner_eq_some, hOn, hOwner]
  refine exists_congr fun m => and_congr_right fun hm => ?_
  have hne : m ≠ i := fun hEq => hUnwanted x (hEq ▸ hm)
  rw [Function.update_of_ne hne]

theorem nextOwner_of_reason (h : Waiting k) (hReason : (k.userTasks t).blockReason ≠ .mutex) :
    nextOwner k t = none :=
  nextOwner_eq_none fun _ hOn => hReason (h.blocked hOn).2.2.2

end Pieces

namespace Locks

variable {s s' : Sys} {piece : Piece} {f : Flow} {k' : Kernel} {t : TaskId} {i : MutexId}

theorem unwanted (h : Locks s) (hFree : s.kernel.ownerOf i = none) (t : TaskId) :
    s.kernel.blockedOn t ≠ some (.mutex i) := by
  intro hOn
  obtain ⟨o, hOwner, _⟩ := h.waits_other hOn
  rw [hFree] at hOwner
  cases hOwner

theorem inherits_lockBlock (h : Locks s) (hFree : s.kernel.current.currentState ≠ .blocked)
    {n : U32} (hLocked : (s.kernel.mutexes i).state = .locked)
    (hOwner : (s.kernel.mutexes i).owner ≠ some s.kernel.currentTask) :
    Inherits s.kernel (.call (.mutexLock (some i) n))
      (enqueueCurrent (mutexDonatePriority s.kernel (s.kernel.mutexes i).owner) (.mutex i) n
        .mutex) := by
  have hWaiting := h.sound.waiting
  obtain ⟨o, ho⟩ : ∃ o, (s.kernel.mutexes i).owner = some o := by
    apply Option.ne_none_iff_exists'.mp
    intro hNone
    rw [(h.owning.unlocked i).mpr hNone] at hLocked
    cases hLocked
  rw [ho] at hOwner ⊢
  have hRanks := Reranked.mutexDonatePriority s.kernel (some o)
  have hCurrentOn := hWaiting.free_of_not_blocked hFree
  refine .donate (o := o) ho (fun hEq => hOwner (congrArg some hEq))
    (nextOwner_eq_none (by simp [hCurrentOn])) ?_ ?_
  · rw [SameRanks.enqueueCurrent.eff]
    exact eff_donateLoop fun t => nextOwner_of_reason hWaiting
  · rw [nextOwner_enter (k := s.kernel) (t := s.kernel.currentTask) (w := .mutex i)]
    · exact congrArg (Function.update (nextOwner s.kernel) s.kernel.currentTask) ho
    · rw [blockedOn_enqueueCurrent, hRanks.blockedOn, hRanks.currentTask]
    · rw [SameOwning.enqueueCurrent.ownerOf, hRanks.ownerOf]

theorem inherits (h : Locks s) (hs : Section s.kernel piece k' f)
    (hFree : f.rest ≠ none ∨ (∃ mtx, piece = .call (.mutexUnlock mtx)) →
      s.kernel.current.currentState ≠ .blocked) : Inherits s.kernel piece k' := by
  have hWaiting := h.sound.waiting
  have hQuiet : ∀ {k'}, Quiet s.kernel k' → Inherits s.kernel piece k' := fun h =>
    .still (SameRanks.of_userTasks h.userTasks).eff (nextOwner_congr h.blockedOn h.ownerOf)
  cases hs with
  | refuse => exact hQuiet (.refl _)
  | take => exact hQuiet quiet_takeToken
  | post => exact hQuiet quiet_addToken
  | serve hTraffic => exact hQuiet hTraffic.quiet
  | @wake _ w k₁ _ j t hTraffic hChosen =>
    have hQuiet := hTraffic.quiet
    have hRanks : SameRanks s.kernel (releaseTask k₁ w j t).portYield :=
      (SameRanks.of_userTasks hQuiet.userTasks).trans
        (SameRanks.leaveWaitlist.trans (.of_userTasks rfl))
    refine .still hRanks.eff ?_
    have hOn := hChosen.blockedOn (hWaiting.congr hQuiet.sameBlocking)
    rw [hQuiet.blockedOn] at hOn
    have hNone : nextOwner s.kernel t = none := by
      apply nextOwner_eq_none
      intro i hMutex
      rw [hOn] at hMutex
      cases hMutex
      cases hTraffic
    rw [nextOwner_leave (k := s.kernel) (t := t), ← hNone, Function.update_eq_self]
    · rw [(SameShape.portYield _).blockedOn, releaseTask_eq, blockedOn_leaveWaitlist,
        hQuiet.blockedOn]
    · exact SameOwning.leaveWaitlist.ownerOf.trans hQuiet.ownerOf
  | @acquire i n hUnlocked =>
    have hNone := (h.owning.unlocked i).mp hUnlocked
    exact .still SameRanks.acquire.eff (nextOwner_unwanted acquire_blocking.blockedOn
      (h.owning.afterAcquire hUnlocked).2 (h.unwanted hNone))
  | free hOwner hEmpty =>
    refine .still SameRanks.free.eff ?_
    exact nextOwner_unwanted free_blocking.blockedOn (h.owning.afterFree hOwner).2
      fun t => hWaiting.no_waiters hEmpty
  | @handOff i j t hOwner hChosen =>
    obtain ⟨v, u, _, hEff, hGiver, hTaker⟩ :=
      eff_handOff hWaiting h.owning (hFree (.inr ⟨_, rfl⟩)) hOwner hChosen
    have hCurrentOn := hWaiting.free_of_not_blocked (hFree (.inr ⟨_, rfl⟩))
    exact .handOff hOwner (hChosen.blockedOn hWaiting) (nextOwner_eq_none (by simp [hCurrentOn]))
      (nextOwner_handOff h.owning hOwner) hEff hGiver hTaker
  | delay =>
    exact .still SameRanks.delayCurrent.eff (nextOwner_congr blockedOn_delayCurrent rfl)
  | block hBlocks =>
    refine .still SameRanks.enqueueCurrent.eff ?_
    have hNone : nextOwner s.kernel s.kernel.currentTask = none :=
      nextOwner_eq_none (by simp [hWaiting.free_of_not_blocked (hFree (.inl (by simp [Flow.rest])))])
    rw [nextOwner_enter blockedOn_enqueueCurrent SameOwning.enqueueCurrent.ownerOf]
    have hHolder : holderOf s.kernel _ = none := hBlocks.holderOf
    rw [hHolder, ← hNone, Function.update_eq_self]
  | lockBlock hLocked hOwner =>
    exact h.inherits_lockBlock (hFree (.inl (by simp [Flow.rest]))) hLocked hOwner
  | lockFull _ _ _ hFull => exact absurd hWaiting.waitCount_lt (Nat.not_lt.mpr hFull)
  | stage => exact hQuiet (.refl _)
  | @write i r o n v =>
    exact .write eff_setEffectivePriority (Reranked.setEffectivePriority _ _ _).nextOwner

theorem mem_walk_iff (h : Locks s) (hAcyclic : AcyclicWaits s.kernel) {o x : TaskId}
    (ho : o < s.kernel.taskCount) :
    x ∈ walk (nextOwner s.kernel) osMaxTasks (some o) ↔ OnChain (nextOwner s.kernel) o x := by
  apply Inheritance.mem_walk_iff hAcyclic (S := Finset.range s.kernel.taskCount)
  · intro a b hab
    exact Finset.mem_range.mpr (h.next_lt hab)
  · exact Finset.mem_range.mpr ho
  · rw [Finset.card_range]
    exact h.sound.waiting.taskCount_le

theorem next_absent (h : Locks s) :
    nextOwner s.kernel s.kernel.taskCount = none ∧
      ∀ t, nextOwner s.kernel t ≠ some s.kernel.taskCount := by
  constructor
  · apply nextOwner_eq_none
    intro i hOn
    exact absurd (h.sound.waiting.blocked hOn).2.1 (Nat.lt_irrefl _)
  · intro t hNext
    exact absurd (h.next_lt hNext) (Nat.lt_irrefl _)

end Locks

theorem handOff_other {k k' : Kernel} {t x : TaskId} {i : MutexId}
    (hOwner : k.ownerOf i = some k.currentTask)
    (hNext : ∀ x, nextOwner k' x =
      if x = t then none else if k.blockedOn x = some (.mutex i) then some t else nextOwner k x)
    (hx : x ≠ t) :
    nextOwner k' x = nextOwner k x ∨
      (nextOwner k x = some k.currentTask ∧ nextOwner k' x = some t) := by
  rw [hNext, if_neg hx]
  split
  · rename_i hOn
    exact .inr ⟨(nextOwner_of_blockedOn hOn).trans hOwner, rfl⟩
  · exact .inl rfl

/-- Nobody waits for a task that waits. -/
def flatWaits (k : Kernel) : Bool :=
  (List.range osMaxTasks).all fun t => (nextOwner k t).all fun o => (nextOwner k o).isNone

theorem Waiting.acyclic_of_flat {k : Kernel} (h : Waiting k) (hFlat : flatWaits k = true) :
    AcyclicWaits k := by
  refine acyclic_of_rank (fun t => if nextOwner k t = none then 0 else 1) fun a b hab => ?_
  obtain ⟨i, hOn, _⟩ := nextOwner_eq_some.mp hab
  have hLt : a < osMaxTasks := (h.blocked hOn).2.1.trans_le h.taskCount_le
  have hEnd := List.all_eq_true.mp hFlat a (List.mem_range.mpr hLt)
  rw [hab] at hEnd
  have hNone : nextOwner k b = none := Option.isNone_iff_eq_none.mp hEnd
  simp [hab, hNone]

theorem Reaches.acyclic {trace : List Label} {s : Sys} (h : Reaches trace s)
    (hUser : ∀ l ∈ trace, UserBlocks l) (hFlat : ∀ l ∈ trace, flatWaits l.post.kernel = true) :
    ∀ l ∈ trace, AcyclicWaits l.post.kernel := by
  intro l hl
  obtain ⟨image, calls, start, hBoot, hRun⟩ := h
  obtain ⟨hTaken, before, after, hTrace, hBefore⟩ := hRun.split hl
  have hPost : Reaches (before ++ [l]) l.post :=
    ⟨image, calls, start, hBoot, .snoc hBefore hTaken⟩
  have hSound : Sound l.post := hPost.sound fun l' hl' => by
    apply hUser l'
    rw [hTrace]
    obtain hl' | hl' := List.mem_append.mp hl'
    · exact List.mem_append_left _ hl'
    · obtain rfl := List.mem_singleton.mp hl'
      simp
  exact hSound.waiting.acyclic_of_flat (hFlat l hl)

end KoRTOS
