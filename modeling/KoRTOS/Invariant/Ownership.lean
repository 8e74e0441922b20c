import KoRTOS.Invariant.Sound

/-!
# Who owns which mutex

Ownership is stored twice, in the mutex and in the list of its owner. `Owning`
says that the two agree. A mutex changes hands in three ways: it is locked while
it is free, it is unlocked while nobody waits, or it is handed to a waiter.
-/

namespace KoRTOS

open FiberLists

/-- The first `owned_mutex_count` entries of `owned_mutexes` are `l`. -/
structure Tcb.Owns (tcb : Tcb) (l : List MutexId) : Prop where
  count : tcb.ownedMutexCount = l.length
  entry : ∀ i, i < l.length → tcb.ownedMutexes i = l[i]?

namespace Tcb.Owns

variable {tcb : Tcb} {l : List MutexId} {m : MutexId}

theorem list_eq (h : tcb.Owns l) :
    (List.range tcb.ownedMutexCount).filterMap tcb.ownedMutexes = l := by
  rw [h.count]
  exact filterMap_range h.entry

theorem push (h : tcb.Owns l) : (pushOwnedMutex m tcb).Owns (l ++ [m]) where
  count := by simp [pushOwnedMutex, h.count]
  entry i hi := by
    simp only [pushOwnedMutex, h.count, Function.update_apply]
    rw [List.length_append, List.length_singleton] at hi
    split
    · rename_i hEq
      rw [hEq, List.getElem?_append_right le_rfl]
      simp
    · have hLt : i < l.length := by omega
      rw [h.entry i hLt, List.getElem?_append_left hLt]

theorem find (h : tcb.Owns l) (hm : m ∈ l) :
    ∃ i, l[i]? = some m ∧
      (List.range tcb.ownedMutexCount).find? (fun i => tcb.ownedMutexes i == some m) =
        some i := by
  cases hFind : (List.range tcb.ownedMutexCount).find? (fun i => tcb.ownedMutexes i == some m) with
  | some i =>
    have hLt : i < l.length := h.count ▸ List.mem_range.mp (List.mem_of_find?_eq_some hFind)
    have hAt : tcb.ownedMutexes i = some m := by simpa using List.find?_some hFind
    exact ⟨i, h.entry i hLt ▸ hAt, rfl⟩
  | none =>
    obtain ⟨i, hi, hAt⟩ := List.mem_iff_getElem.mp hm
    have hNone := List.find?_eq_none.mp hFind i (List.mem_range.mpr (h.count ▸ hi))
    rw [h.entry i hi, List.getElem?_eq_getElem hi, hAt] at hNone
    simp at hNone

theorem swapRemove_perm {before after : List MutexId} {last : MutexId}
    (hLast : (before ++ m :: after).getLast? = some last) :
    (((before ++ m :: after).set before.length last).dropLast).Perm (before ++ after) := by
  obtain rfl | ⟨init, z, rfl⟩ := List.eq_nil_or_concat after
  · simp
  · rw [List.concat_eq_append] at hLast ⊢
    have hz : z = last := by
      rw [← List.cons_append, ← List.append_assoc, List.getLast?_concat] at hLast
      exact Option.some.inj hLast
    subst hz
    rw [List.set_append_right _ _ le_rfl, Nat.sub_self, List.set_cons_zero, ← List.cons_append,
      ← List.append_assoc, List.dropLast_concat]
    exact List.Perm.append_left before (List.perm_append_singleton z init).symm

theorem remove (h : tcb.Owns l) (hm : m ∈ l) :
    ∃ l', (removeOwnedMutex m tcb).Owns l' ∧ l'.Perm (l.erase m) := by
  obtain ⟨i, hi, hFind⟩ := h.find hm
  obtain ⟨hLt, hAt⟩ := List.getElem?_eq_some_iff.mp hi
  obtain ⟨last, hLast⟩ : ∃ last, l.getLast? = some last :=
    ⟨_, List.getLast?_eq_some_getLast (List.ne_nil_of_mem hm)⟩
  have hEnd : tcb.ownedMutexes (tcb.ownedMutexCount - 1) = some last := by
    rw [h.count, h.entry _ (by omega), ← List.getLast?_eq_getElem?, hLast]
  refine ⟨(l.set i last).dropLast, ⟨?_, ?_⟩, ?_⟩
  · simp only [removeOwnedMutex, hFind]
    rw [List.length_dropLast, List.length_set, h.count]
  · intro x hx
    rw [List.length_dropLast, List.length_set] at hx
    simp only [removeOwnedMutex, hFind, hEnd, Function.update_apply]
    rw [List.getElem?_dropLast, List.length_set, if_pos hx, List.getElem?_set]
    split
    · rename_i hEq
      simp [hEq]
    · rename_i hne
      rw [if_neg (Ne.symm hne), h.entry x (by omega)]
  · have hSplit : l = l.take i ++ m :: l.drop (i + 1) := by
      rw [← hAt, List.getElem_cons_drop, List.take_append_drop]
    have hLength : (l.take i).length = i := List.length_take_of_le hLt.le
    have hSwap := swapRemove_perm (hSplit ▸ hLast : (l.take i ++ m :: l.drop (i + 1)).getLast? = _)
    rw [hLength, ← hSplit] at hSwap
    have hErase : l.Perm (m :: (l.take i ++ l.drop (i + 1))) := by
      conv_lhs => rw [hSplit]
      exact List.perm_middle
    have hRest := hErase.erase m
    rw [List.erase_cons_head] at hRest
    exact hSwap.trans hRest.symm

end Tcb.Owns

structure SameOwning (k k' : Kernel) : Prop where
  owner : ∀ i, (k'.mutexes i).owner = (k.mutexes i).owner
  state : ∀ i, (k'.mutexes i).state = (k.mutexes i).state
  array : ∀ t, (k'.userTasks t).ownedMutexes = (k.userTasks t).ownedMutexes
  count : ∀ t, (k'.userTasks t).ownedMutexCount = (k.userTasks t).ownedMutexCount

namespace SameOwning

variable {k k' k'' : Kernel} {t : TaskId} {w : WaitlistRef} {j : Nat} {b : Bool} {n : U32}

theorem refl (k : Kernel) : SameOwning k k := ⟨fun _ => rfl, fun _ => rfl, fun _ => rfl, fun _ => rfl⟩

theorem trans (h : SameOwning k k') (h' : SameOwning k' k'') : SameOwning k k'' where
  owner i := (h'.owner i).trans (h.owner i)
  state i := (h'.state i).trans (h.state i)
  array t := (h'.array t).trans (h.array t)
  count t := (h'.count t).trans (h.count t)

theorem ownerOf (h : SameOwning k k') : k'.ownerOf = k.ownerOf := funext h.owner

theorem owned (h : SameOwning k k') : k'.owned = k.owned := by
  funext t
  rw [Kernel.owned, h.array, h.count, Kernel.owned]

theorem of_shape (h : SameShape k k') : SameOwning k k' :=
  ⟨h.owner, h.state, fun _ => h.ownedMutexes, fun _ => h.ownedMutexCount⟩

theorem modifyTask {f : Tcb → Tcb}
    (hArray : (f (k.userTasks t)).ownedMutexes = (k.userTasks t).ownedMutexes)
    (hCount : (f (k.userTasks t)).ownedMutexCount = (k.userTasks t).ownedMutexCount) :
    SameOwning k (k.modifyTask t f) where
  owner _ := rfl
  state _ := rfl
  array u := by
    rw [Kernel.userTasks_modifyTask]
    split
    · subst u
      exact hArray
    · rfl
  count u := by
    rw [Kernel.userTasks_modifyTask]
    split
    · subst u
      exact hCount
    · rfl

theorem leaveWaitlist : SameOwning k (leaveWaitlist k w j t b) where
  owner _ := owner_leaveWaitlist
  state _ := mutexState_leaveWaitlist
  array u := by
    rw [userTasks_leaveWaitlist]
    split
    · subst u
      rfl
    · rfl
  count u := by
    rw [userTasks_leaveWaitlist]
    split
    · subst u
      rfl
    · rfl

theorem enqueueCurrent {reason : BlockReason} : SameOwning k (enqueueCurrent k w n reason) where
  owner _ := owner_enqueueCurrent
  state _ := mutexState_enqueueCurrent
  array u := by
    rw [userTasks_enqueueCurrent]
    split
    · subst u
      rfl
    · rfl
  count u := by
    rw [userTasks_enqueueCurrent]
    split
    · subst u
      rfl
    · rfl

theorem of_states (h : SameButStates k k') : SameOwning k k' where
  owner i := by rw [h.mutexes]
  state i := by rw [h.mutexes]
  array _ := h.ownedMutexes
  count _ := h.ownedMutexCount

theorem of_ticked (h : Ticked k k') : SameOwning k k' where
  owner i := congrFun h.ownerOf i
  state := h.state
  array t := by
    obtain hSame | ⟨_, hWoken⟩ := h.tasks t
    · rw [hSame]
    · rw [hWoken]
      rfl
  count _ := h.ownedMutexCount

end SameOwning

structure Owning (k : Kernel) : Prop where
  listed : ∀ t, (k.userTasks t).Owns (k.owned t)
  fibers : Fibers k.ownerOf k.owned
  unlocked : ∀ i, (k.mutexes i).state = .unlocked ↔ k.ownerOf i = none

/-- What a piece of code does to the ownership of mutexes. -/
inductive Transfer (k : Kernel) : Piece → Kernel → Prop
  | stay {piece k'} (h : SameOwning k k') : Transfer k piece k'
  | acquire {i n} (hFree : (k.mutexes i).state = .unlocked) :
      Transfer k (.call (.mutexLock (some i) n)) (acquire k i)
  | free {i} (hOwner : k.ownerOf i = some k.currentTask)
      (hEmpty : (k.waitlist (.mutex i)).waitCount = 0) :
      Transfer k (.call (.mutexUnlock (some i))) (free k i)
  | handOff {i j t} (hOwner : k.ownerOf i = some k.currentTask)
      (hChosen : Chosen k (.mutex i) j t) :
      Transfer k (.call (.mutexUnlock (some i))) (handOff k i j t).portYield

section Changes

variable {k k' : Kernel} {t u : TaskId} {i : MutexId} {j : Nat} {w : WaitlistRef}

theorem Kernel.owned_eq {l : List MutexId} (h : (k.userTasks t).Owns l) : k.owned t = l :=
  h.list_eq

theorem Owning.congr (h : Owning k) (hSame : SameOwning k k') : Owning k' := by
  refine ⟨fun t => ?_, ?_, fun i => ?_⟩
  · rw [hSame.owned]
    refine ⟨(hSame.count t).trans (h.listed t).count, fun i hi => ?_⟩
    rw [hSame.array]
    exact (h.listed t).entry i hi
  · rw [hSame.ownerOf, hSame.owned]
    exact h.fibers
  · rw [hSame.state, hSame.ownerOf]
    exact h.unlocked i

theorem owned_modifyTask {f : Tcb → Tcb} {l : List MutexId}
    (h : ∀ t, (k.userTasks t).Owns (k.owned t)) (hf : (f (k.userTasks t)).Owns l) :
    (k.modifyTask t f).owned = Function.update k.owned t l ∧
      ∀ u, ((k.modifyTask t f).userTasks u).Owns ((k.modifyTask t f).owned u) := by
  have hAll : ∀ u, ((k.modifyTask t f).userTasks u).Owns (Function.update k.owned t l u) := by
    intro u
    rw [Kernel.userTasks_modifyTask, Function.update_apply]
    split
    · exact hf
    · exact h u
  have hOwned : (k.modifyTask t f).owned = Function.update k.owned t l :=
    funext fun u => Kernel.owned_eq (hAll u)
  exact ⟨hOwned, hOwned ▸ hAll⟩

theorem ownerOf_setOwner {owner : Option TaskId} {state : MutexState} :
    (k.setOwner i owner state).ownerOf = Function.update k.ownerOf i owner := by
  funext m
  rw [Kernel.ownerOf, Kernel.owner_setOwner, Function.update_apply]
  rfl

theorem Owning.afterAcquire (h : Owning k) (hFree : (k.mutexes i).state = .unlocked) :
    Owning (acquire k i) ∧
      (acquire k i).ownerOf = Function.update k.ownerOf i (some k.currentTask) := by
  have hOwner : (acquire k i).ownerOf = Function.update k.ownerOf i (some k.currentTask) :=
    ownerOf_setOwner
  obtain ⟨hOwned, hListed⟩ := owned_modifyTask h.listed (h.listed k.currentTask).push
  refine ⟨⟨hListed, ?_, fun m => ?_⟩, hOwner⟩
  · rw [hOwner]
    have hUpdate : (acquire k i).owned = _ := hOwned
    rw [hUpdate]
    exact h.fibers.append ((h.unlocked i).mp hFree)
  · rw [hOwner, acquire, Kernel.mutexState_setOwner, Function.update_apply]
    split
    · simp
    · exact h.unlocked m

theorem Owning.afterFree (h : Owning k) (hOwner : k.ownerOf i = some k.currentTask) :
    Owning (free k i) ∧ (free k i).ownerOf = Function.update k.ownerOf i none := by
  have hNow : (free k i).ownerOf = Function.update k.ownerOf i none := ownerOf_setOwner
  obtain ⟨l, hList, hPerm⟩ := (h.listed k.currentTask).remove (h.fibers.mem_iff.mpr hOwner)
  obtain ⟨hOwned, hListed⟩ := owned_modifyTask h.listed hList
  refine ⟨⟨hListed, ?_, fun m => ?_⟩, hNow⟩
  · have hUpdate : (free k i).owned = _ := hOwned
    rw [hNow, hUpdate]
    refine (h.fibers.erase hOwner).perm fun t => ?_
    rw [Function.update_apply, Function.update_apply]
    split
    · exact hPerm
    · exact List.Perm.refl _
  · rw [hNow, free, Kernel.mutexState_setOwner, Function.update_apply]
    split
    · simp
    · exact h.unlocked m

theorem Owning.afterReleaseOwned (h : Owning k) (hOwner : k.ownerOf i = some k.currentTask) :
    ∃ l, l.Perm ((k.owned k.currentTask).erase i) ∧
      (releaseOwned k i j t).owned = Function.update k.owned k.currentTask l ∧
      ∀ u, ((releaseOwned k i j t).userTasks u).Owns ((releaseOwned k i j t).owned u) := by
  obtain ⟨l, hList, hPerm⟩ := (h.listed k.currentTask).remove (h.fibers.mem_iff.mpr hOwner)
  obtain ⟨hOwned, hListed⟩ := owned_modifyTask h.listed hList
  have hSame : SameOwning (k.modifyTask k.currentTask (removeOwnedMutex i))
      (releaseOwned k i j t) := .leaveWaitlist
  refine ⟨l, hPerm, hSame.owned.trans hOwned, fun u => ?_⟩
  rw [hSame.owned]
  refine ⟨(hSame.count u).trans (hListed u).count, fun x hx => ?_⟩
  rw [hSame.array]
  exact (hListed u).entry x hx

theorem SameOwning.recompute (k : Kernel) (o : Option TaskId) :
    SameOwning k (mutexRecomputeOwnerPriority k o) :=
  .of_shape (Reranked.mutexRecomputeOwnerPriority k o).toSameShape

theorem Owning.afterHandOff (h : Owning k) (hOwner : k.ownerOf i = some k.currentTask) :
    Owning (handOff k i j t) ∧
      (handOff k i j t).ownerOf = Function.update k.ownerOf i (some t) := by
  obtain ⟨l, hPerm, hReleased, hListed⟩ := h.afterReleaseOwned (j := j) (t := t) hOwner
  rw [handOff_eq]
  generalize hk₁ : releaseOwned k i j t = k₁ at hReleased hListed
  have hFirst := SameOwning.recompute k₁ (k.mutexes i).owner
  generalize mutexRecomputeOwnerPriority k₁ (k.mutexes i).owner = k₂ at hFirst
  have hListed₂ : ∀ u, (k₂.userTasks u).Owns (k₂.owned u) := by
    intro u
    rw [hFirst.owned]
    refine ⟨(hFirst.count u).trans (hListed u).count, fun x hx => ?_⟩
    rw [hFirst.array]
    exact (hListed u).entry x hx
  obtain ⟨hGiven, hListed₃⟩ := owned_modifyTask hListed₂ (hListed₂ t).push
  have hOwner₂ : ∀ m, (k₂.mutexes m).owner = (k.mutexes m).owner := by
    intro m
    rw [hFirst.owner, ← hk₁, owner_releaseOwned]
  have hState₂ : ∀ m, (k₂.mutexes m).state = (k.mutexes m).state := by
    intro m
    rw [hFirst.state, ← hk₁, releaseOwned, releaseTask_eq, mutexState_leaveWaitlist,
      Kernel.mutexes_modifyTask]
  have hOwner₃ : (giveMutex k₂ i t).ownerOf = Function.update k.ownerOf i (some t) := by
    funext m
    rw [Kernel.ownerOf, owner_giveMutex, Function.update_apply, hOwner₂]
    rfl
  have hOwned₃ : (giveMutex k₂ i t).owned = Function.update k₂.owned t (k₂.owned t ++ [i]) := hGiven
  have hOwning₃ : Owning (giveMutex k₂ i t) := by
    refine ⟨hListed₃, ?_, fun m => ?_⟩
    · have hErased : Fibers (Function.update k.ownerOf i none) k₂.owned := by
        refine (h.fibers.erase hOwner).perm fun u => ?_
        rw [hFirst.owned, hReleased, Function.update_apply, Function.update_apply]
        split
        · exact hPerm
        · exact List.Perm.refl _
      have hAppended := hErased.append (b := t) (Function.update_self i none k.ownerOf)
      rw [Function.update_idem] at hAppended
      rw [hOwner₃, hOwned₃]
      exact hAppended
    · have hState : ((giveMutex k₂ i t).mutexes m).state = (k.mutexes m).state := by
        rw [giveMutex, Kernel.mutexState_setOwner, Kernel.mutexes_modifyTask, hState₂]
        split
        · rename_i hEq
          rw [hEq]
        · exact hState₂ m
      rw [hState, hOwner₃, Function.update_apply, h.unlocked m]
      split
      · rename_i hEq
        rw [hEq, hOwner]
        simp
      · exact Iff.rfl
  have hLast := SameOwning.recompute (giveMutex k₂ i t) (some t)
  exact ⟨hOwning₃.congr hLast, hLast.ownerOf.trans hOwner₃⟩

theorem Section.transfer {piece : Piece} {f : Flow} (hs : Section k piece k' f) :
    Transfer k piece k' := by
  cases hs with
  | refuse => exact .stay (.refl k)
  | take => exact .stay (.of_shape quiet_takeToken.toSameShape)
  | post => exact .stay (.of_shape quiet_addToken.toSameShape)
  | serve hTraffic => exact .stay (.of_shape hTraffic.quiet.toSameShape)
  | wake hTraffic =>
    refine .stay ((SameOwning.of_shape hTraffic.quiet.toSameShape).trans ?_)
    exact SameOwning.leaveWaitlist.trans (.of_shape (SameShape.portYield _))
  | acquire hFree => exact .acquire hFree
  | free hOwner hEmpty => exact .free hOwner hEmpty
  | handOff hOwner hChosen => exact .handOff hOwner hChosen
  | delay =>
    refine .stay (SameOwning.trans ?_ (.of_shape (SameShape.portYield _)))
    exact .modifyTask rfl rfl
  | block => exact .stay .enqueueCurrent
  | @lockBlock i =>
    have hRanks := (Reranked.mutexDonatePriority k (k.mutexes i).owner).toSameShape
    exact .stay ((SameOwning.of_shape hRanks).trans .enqueueCurrent)
  | lockFull => exact .stay (.of_shape (Reranked.mutexDonatePriority k _).toSameShape)
  | stage => exact .stay (.refl k)
  | write => exact .stay (.of_shape (Reranked.setEffectivePriority _ _ _).toSameShape)

theorem Section.sameOwning_isr {c : ApiCall} (hs : Section k (.call c) k' f)
    (hQueue : (∃ queue item, c = .queueSend queue item 0) ∨
      ∃ queue itemNull, c = .queueRecv queue itemNull 0) : SameOwning k k' := by
  have hTransfer := hs.transfer
  obtain ⟨queue, item, rfl⟩ | ⟨queue, itemNull, rfl⟩ := hQueue <;>
  · cases hTransfer with
    | stay hSame => exact hSame

theorem Owning.afterTransfer {piece : Piece} (h : Owning k) (hTransfer : Transfer k piece k') :
    Owning k' := by
  cases hTransfer with
  | stay hSame => exact h.congr hSame
  | acquire hFree => exact (h.afterAcquire hFree).1
  | free hOwner => exact (h.afterFree hOwner).1
  | handOff hOwner =>
    exact (h.afterHandOff hOwner).1.congr (.of_shape (SameShape.portYield _))

end Changes

/-- The task that a recomputation in progress is at. -/
def LockStage.target : LockStage → Option TaskId
  | .woken => none
  | .visit owner _ => owner
  | .scanned owner _ _ => some owner
  | .written owner _ => some owner
  | .recomputed => none

/-- In every state of a run in which the idle task does not block: the records of ownership
agree, who waits for a mutex waits for somebody else, and a task woken from a mutex owns it
and recomputes itself unless it was timed out. -/
structure Locks (s : Sys) : Prop where
  sound : Sound s
  owning : Owning s.kernel
  absent : ∀ {i}, s.created.mutex i = false → s.kernel.ownerOf i = none
  policy : ∀ {i}, s.created.mutex i = true → s.kernel.policy (.mutex i) = .priority
  owner_lt : ∀ {i o}, s.kernel.ownerOf i = some o → o < s.kernel.taskCount
  waits_other : ∀ {t i}, s.kernel.blockedOn t = some (.mutex i) →
    ∃ o, s.kernel.ownerOf i = some o ∧ o ≠ t
  truth : ∀ {t i r st}, s.pending t = some (.mutexLock i r st) → s.kernel.blockedOn t = none →
    ((s.kernel.userTasks t).timeout = false ↔ s.kernel.ownerOf i = some t)
  target_lt : ∀ {t i r st o}, s.pending t = some (.mutexLock i r st) → st.target = some o →
    o < s.kernel.taskCount
  own_target : ∀ {t i r st o}, s.pending t = some (.mutexLock i r st) → st.target = some o →
    (s.kernel.userTasks t).timeout = false → o = t

section Owners

variable {k k' : Kernel} {piece : Piece} {f : Flow} {t : TaskId} {i : MutexId} {w : WaitlistRef}
  {q : QueueId} {n d : U32} {data : List U8}

theorem Waiting.no_waiters (h : Waiting k) (hEmpty : (k.waitlist (.mutex i)).waitCount = 0) :
    k.blockedOn t ≠ some (.mutex i) := by
  intro hOn
  have hMem := h.mem_waiters.mpr hOn
  rw [h.waitCount_eq, List.length_eq_zero_iff] at hEmpty
  rw [hEmpty] at hMem
  cases hMem

/-- A mutex that has an owner had it before, was locked, or was handed over to one of its waiters. -/
theorem Transfer.owner {o : TaskId} (h : Owning k) (hTransfer : Transfer k piece k')
    (hOwner : k'.ownerOf i = some o) :
    k.ownerOf i = some o ∨
      (o = k.currentTask ∧ ∃ n, piece = .call (.mutexLock (some i) n)) ∨
      (k.ownerOf i = some k.currentTask ∧ ∃ j, Chosen k (.mutex i) j o) := by
  cases hTransfer with
  | stay hSame => exact .inl (hSame.ownerOf ▸ hOwner)
  | @acquire m n hUnlocked =>
    rw [(h.afterAcquire hUnlocked).2, Function.update_apply] at hOwner
    split at hOwner
    · rename_i hEq
      cases hOwner
      exact .inr (.inl ⟨rfl, n, hEq ▸ rfl⟩)
    · exact .inl hOwner
  | free hHolder =>
    rw [(h.afterFree hHolder).2, Function.update_apply] at hOwner
    split at hOwner
    · cases hOwner
    · exact .inl hOwner
  | @handOff m j u hHolder hChosen =>
    have hOwners : (KoRTOS.handOff k m j u).portYield.ownerOf = _ := (h.afterHandOff hHolder).2
    rw [hOwners, Function.update_apply] at hOwner
    split at hOwner
    · rename_i hEq
      cases hOwner
      exact .inr (.inr ⟨hEq ▸ hHolder, j, hEq ▸ hChosen⟩)
    · exact .inl hOwner

theorem Transfer.ownerOf (h : Owning k) (hTransfer : Transfer k piece k')
    (ht : t ≠ k.currentTask) (hKept : k.blockedOn t = none ∨ k'.blockedOn t = k.blockedOn t)
    (hWaiting : Waiting k) : k'.ownerOf i = some t ↔ k.ownerOf i = some t := by
  cases hTransfer with
  | stay hSame => rw [hSame.ownerOf]
  | @acquire m _ hFree =>
    rw [(h.afterAcquire hFree).2, Function.update_apply]
    split
    · rename_i hEq
      rw [hEq, (h.unlocked m).mp hFree]
      simp [ht.symm]
    · exact Iff.rfl
  | @free m hOwner _ =>
    rw [(h.afterFree hOwner).2, Function.update_apply]
    split
    · rename_i hEq
      rw [hEq, hOwner]
      simp [ht.symm]
    · exact Iff.rfl
  | @handOff m j u hOwner hChosen =>
    have hNew : (KoRTOS.handOff k m j u).portYield.ownerOf = Function.update k.ownerOf m (some u) :=
      (h.afterHandOff hOwner).2
    have hOn : k.blockedOn u = some (.mutex m) := hChosen.blockedOn hWaiting
    have hOff : (KoRTOS.handOff k m j u).portYield.blockedOn u = none := by
      rw [(SameShape.portYield _).blockedOn, handOff_blocking.blockedOn, blockedOn_leaveWaitlist,
        Function.update_self]
    have hne : t ≠ u := by
      rintro rfl
      obtain hNone | hSame := hKept
      · exact absurd (hNone.symm.trans hOn) (by simp)
      · exact absurd (hOff.symm.trans (hSame.trans hOn)) (by simp)
    rw [hNew, Function.update_apply]
    split
    · rename_i hEq
      rw [hEq, hOwner]
      simp [ht.symm, hne.symm]
    · exact Iff.rfl

/-- A task leaves a mutex's waitlist by a piece of code only when it is given the mutex. -/
theorem Section.gives (h : Waiting k) (hs : Section k piece k' f)
    (hOld : k.blockedOn t = some (.mutex i)) (hNew : k'.blockedOn t = none) :
    piece = .call (.mutexUnlock (some i)) ∧ ∃ j, k.ownerOf i = some k.currentTask ∧
      Chosen k (.mutex i) j t ∧ k' = (KoRTOS.handOff k i j t).portYield := by
  have hSame : SameBlocking k k' → False := fun h => by
    rw [h.blockedOn, hOld] at hNew
    cases hNew
  have hEnter : ∀ {k₀ : Kernel} {w n reason}, k₀.blockedOn = k.blockedOn →
      (enqueueCurrent k₀ w n reason).blockedOn t ≠ none := by
    intro k₀ w n reason hBlocked
    rw [blockedOn_enqueueCurrent, hBlocked, Function.update_apply]
    split
    · simp
    · rw [hOld]
      simp
  cases hs with
  | refuse => exact absurd (hOld.symm.trans hNew) (by simp)
  | take => exact (hSame quiet_takeToken.sameBlocking).elim
  | post => exact (hSame quiet_addToken.sameBlocking).elim
  | serve hTraffic => exact (hSame hTraffic.quiet.sameBlocking).elim
  | @wake _ w k₁ _ j u hTraffic hChosen =>
    have hQuiet := hTraffic.quiet
    rw [(SameShape.portYield _).blockedOn, releaseTask_eq, blockedOn_leaveWaitlist,
      hQuiet.blockedOn, Function.update_apply] at hNew
    split at hNew
    · rename_i hEq
      subst hEq
      have hOn := hChosen.blockedOn (h.congr hQuiet.sameBlocking)
      rw [hQuiet.blockedOn, hOld] at hOn
      cases hOn
      cases hTraffic
    · exact absurd (hOld.symm.trans hNew) (by simp)
  | acquire => exact (hSame acquire_blocking).elim
  | free => exact (hSame free_blocking).elim
  | @handOff m j u hOwner hChosen =>
    have hBlocked : (KoRTOS.handOff k m j u).portYield.blockedOn =
        Function.update k.blockedOn u none := by
      rw [(SameShape.portYield _).blockedOn, handOff_blocking.blockedOn, blockedOn_leaveWaitlist]
    rw [hBlocked, Function.update_apply] at hNew
    split at hNew
    · rename_i hEq
      subst hEq
      have hOn := hChosen.blockedOn h
      rw [hOld] at hOn
      cases hOn
      exact ⟨rfl, j, hOwner, hChosen, rfl⟩
    · exact absurd (hOld.symm.trans hNew) (by simp)
  | delay =>
    rw [blockedOn_delayCurrent, hOld] at hNew
    cases hNew
  | block => exact absurd hNew (hEnter rfl)
  | lockBlock => exact absurd hNew (hEnter (Reranked.mutexDonatePriority k _).blockedOn)
  | lockFull => exact (hSame (Reranked.mutexDonatePriority k _).sameBlocking).elim
  | stage => exact absurd (hOld.symm.trans hNew) (by simp)
  | write => exact (hSame (Reranked.setEffectivePriority _ _ _).sameBlocking).elim

theorem policy_of_waitlist (h : k'.waitlist = k.waitlist) : k'.policy = k.policy := by
  funext w
  rw [Kernel.policy, h, Kernel.policy]

theorem Reblocks.policy {rest : Option Pending} (hr : Reblocks k k' rest) :
    k'.policy = k.policy := by
  cases hr with
  | same hSame => exact policy_of_waitlist hSame.waitlist
  | leave _ hSame => exact (policy_of_waitlist hSame.waitlist).trans policy_leaveWaitlist
  | delay =>
    refine policy_of_waitlist ?_
    rw [delayCurrent, Kernel.waitlist_portYield, Kernel.waitlist_modifyTask]
  | enter hSame =>
    refine Eq.trans ?_ (policy_of_waitlist hSame.waitlist)
    funext w'
    rw [Kernel.policy, waitlist_enqueueCurrent, Kernel.policy]
    split
    · rename_i hEq
      rw [hEq]
    · rfl

theorem Transfer.waits_other (h : Owning k) (hTransfer : Transfer k piece k')
    (hWaiting : Waiting k) {o : TaskId} (hOwner : k.ownerOf i = some o) (hne : o ≠ t)
    (hOld : k.blockedOn t = some (.mutex i)) (hNew : k'.blockedOn t = some (.mutex i)) :
    ∃ o, k'.ownerOf i = some o ∧ o ≠ t := by
  cases hTransfer with
  | stay hSame => exact ⟨o, hSame.ownerOf ▸ hOwner, hne⟩
  | @acquire m _ hFree =>
    rw [(h.afterAcquire hFree).2, Function.update_apply]
    split
    · rename_i hEq
      rw [hEq, (h.unlocked m).mp hFree] at hOwner
      cases hOwner
    · exact ⟨o, hOwner, hne⟩
  | @free m hHolder hEmpty =>
    rw [(h.afterFree hHolder).2, Function.update_apply]
    split
    · rename_i hEq
      subst hEq
      exact absurd hOld (hWaiting.no_waiters hEmpty)
    · exact ⟨o, hOwner, hne⟩
  | @handOff m j u hHolder hChosen =>
    have hOwners : (KoRTOS.handOff k m j u).portYield.ownerOf =
        Function.update k.ownerOf m (some u) := (h.afterHandOff hHolder).2
    rw [(SameShape.portYield _).blockedOn, handOff_blocking.blockedOn, blockedOn_leaveWaitlist,
      Function.update_apply] at hNew
    rw [hOwners, Function.update_apply]
    split at hNew
    · cases hNew
    · rename_i hOther
      split
      · exact ⟨u, rfl, Ne.symm hOther⟩
      · exact ⟨o, hOwner, hne⟩

theorem Section.waits (h : Owning k) (hs : Section k piece k' f) {rest : Pending}
    (hRest : f.rest = some rest) (hWaits : rest.waitsOn = some (.mutex i)) :
    ∃ o, k'.ownerOf i = some o ∧ o ≠ k.currentTask := by
  cases hs with
  | delay =>
    cases hRest
    cases hWaits
  | block hBlocks =>
    cases hRest
    rw [hBlocks.waitsOn] at hWaits
    cases hWaits
    cases hBlocks
  | @lockBlock m n hLocked hOwner =>
    cases hRest
    cases hWaits
    have hRanks := Reranked.mutexDonatePriority k (k.mutexes i).owner
    rw [Kernel.ownerOf, owner_enqueueCurrent, hRanks.owner]
    have hSome : (k.mutexes i).owner ≠ none := by
      intro hNone
      exact absurd ((h.unlocked i).mpr hNone) (by rw [hLocked]; simp)
    obtain ⟨o, ho⟩ := Option.ne_none_iff_exists'.mp hSome
    refine ⟨o, ho, ?_⟩
    rintro rfl
    exact hOwner ho
  | lockFull =>
    cases hRest
    cases hWaits
  | stage hNext =>
    cases hRest
    cases hNext <;> simp [Pending.waitsOn] at hWaits
  | write =>
    cases hRest
    simp [Pending.waitsOn] at hWaits
  | _ => cases hRest

def Piece.locks : Piece → Bool
  | .call (.mutexLock _ _) => true
  | .rest (.mutexLock _ _ _) => true
  | _ => false

theorem Sending.locks {item : Nat → U8} (h : Sending k piece q item n d) : piece.locks = false := by
  cases h <;> rfl

theorem Receiving.locks (h : Receiving k piece q n d) : piece.locks = false := by
  cases h <;> rfl

theorem Traffic.locks (h : Traffic k piece w k' data) : piece.locks = false := by
  cases h with
  | post => rfl
  | push hPiece => exact hPiece.locks
  | pop hPiece => exact hPiece.locks

theorem Blocks.locks {rest : Pending} (h : Blocks k piece w n rest) : piece.locks = false := by
  cases h with
  | sem => rfl
  | send hPiece => exact hPiece.locks
  | recv hPiece => exact hPiece.locks

theorem Section.lock_cases {r : OsErr} {st : LockStage}
    (hs : Section k (.rest (.mutexLock i r st)) k' f) :
    (∃ st', LockNext k i st st' ∧ k' = k ∧ f = .suspended (.mutexLock i r st')) ∨
    (∃ o n v, st = .scanned o n v ∧ k' = k.setEffectivePriority o v ∧
      f = .suspended (.mutexLock i r (.written o n))) ∨
    (st = .recomputed ∧ k' = k ∧ f.rest = none) := by
  cases hs with
  | refuse hRefused =>
    cases hRefused with
    | lockOver => exact .inr (.inr ⟨rfl, rfl, rfl⟩)
    | lockFailed => exact .inr (.inr ⟨rfl, rfl, rfl⟩)
    | sendFull hPiece => cases hPiece.locks
    | recvEmpty hPiece => cases hPiece.locks
    | listFull hBlocks => cases hBlocks.locks
  | serve hTraffic => cases hTraffic.locks
  | wake hTraffic => cases hTraffic.locks
  | block hBlocks => cases hBlocks.locks
  | stage hNext => exact .inl ⟨_, hNext, rfl, rfl⟩
  | write => exact .inr (.inl ⟨_, _, _, rfl, rfl, rfl⟩)

/-- A call of `os_mutex_lock` in progress after this piece either has just blocked or was in
progress before, with nothing changed that it depends on. -/
theorem Section.lock_rest (h : Waiting k) (hs : Section k piece k' f) {r : OsErr}
    {st : LockStage} (hRest : f.rest = some (.mutexLock i r st)) :
    (k'.blockedOn k.currentTask = some (.mutex i) ∧ st = .woken) ∨
    (∃ st₀, piece = .rest (.mutexLock i r st₀) ∧ Reranked k k' ∧
      (LockNext k i st₀ st ∨ st₀.target = st.target)) := by
  cases hs with
  | block hBlocks => cases hBlocks <;> cases hRest
  | lockBlock =>
    cases hRest
    have hRanks := Reranked.mutexDonatePriority k (k.mutexes i).owner
    rw [blockedOn_enqueueCurrent, hRanks.currentTask, Function.update_self]
    exact .inl ⟨rfl, rfl⟩
  | lockFull _ _ _ hFull => exact absurd h.waitCount_lt (Nat.not_lt.mpr hFull)
  | stage hNext =>
    cases hRest
    exact .inr ⟨_, rfl, .refl k, .inl hNext⟩
  | write =>
    cases hRest
    exact .inr ⟨_, rfl, .setEffectivePriority _ _ _, .inr rfl⟩
  | _ => cases hRest

end Owners

section Kept

variable {s s' : Sys} {piece : Piece} {f : Flow} {k' : Kernel} {e : Event} {out : Option Ret}
  {t : TaskId} {i : MutexId}

theorem policy_creation {k : Kernel} {created : Objects} {c : CreateCall} {err : OsErr}
    (hCreation : Creation k c k' err)
    (h : ∀ i, created.mutex i = true → k.policy (.mutex i) = .priority)
    (hNow : (if err = .ok then created.add c else created).mutex i = true) :
    k'.policy (.mutex i) = .priority := by
  cases hCreation with
  | fail hErr =>
    rw [if_neg hErr] at hNow
    exact h i hNow
  | task => exact h i hNow
  | sem => exact h i hNow
  | @mutex m =>
    rw [Kernel.policy, Kernel.waitlist, Kernel.setMutex]
    dsimp only
    by_cases hEq : i = m
    · rw [hEq, Function.update_self]
      rfl
    · have hOld : created.mutex i = true := by
        simpa [Objects.add, hEq] using hNow
      rw [Function.update_of_ne hEq]
      exact h i hOld
  | queue => exact h i hNow

namespace Locks

theorem next_lt (h : Locks s) {o o' : TaskId} (hNext : nextOwner s.kernel o = some o') :
    o' < s.kernel.taskCount := by
  unfold nextOwner at hNext
  split at hNext
  · exact h.owner_lt hNext
  · cases hNext

theorem truth_afterPiece {r : OsErr} {st : LockStage} (h : Locks s) (hRun : s.kernel.pendSV = false)
    (hSection : Section s.kernel piece k' f)
    (hPiece : ∀ rest, piece = .rest rest → s.pending s.kernel.currentTask = some rest)
    (hPending : (s.afterPiece k' f).pending t = some (.mutexLock i r st))
    (hOn : k'.blockedOn t = none) :
    (k'.userTasks t).timeout = false ↔ k'.ownerOf i = some t := by
  have hWaiting := h.sound.waiting
  have hTransfer := hSection.transfer
  have hReblocks := hSection.reblocks hWaiting.listed
  rw [pending_afterPiece hSection] at hPending
  split at hPending
  · rename_i hEq
    subst hEq
    obtain ⟨hBlocked, _⟩ | ⟨st₀, hRest, hRanks, _⟩ := hSection.lock_rest hWaiting hPending
    · exact absurd (hBlocked.symm.trans hOn) (by simp)
    · rw [hRanks.timeout, hRanks.ownerOf]
      exact h.truth (hPiece _ hRest) (hWaiting.free_of_not_blocked (h.sound.current_free hRun))
  · rename_i hne
    obtain ⟨hSame, hTimeout, _⟩ | ⟨w, hOld, hNew, hTimeout, _⟩ :=
      hReblocks.task hWaiting fun _ => hne
    · have hOld := hSame ▸ hOn
      rw [hTimeout, hTransfer.ownerOf h.owning hne (.inl hOld) hWaiting]
      exact h.truth hPending hOld
    · obtain ⟨rest, hRest, hWaits⟩ := h.sound.pending_waits hOld
      rw [hPending] at hRest
      cases hRest
      have hw : w = .mutex i := by
        simp only [Pending.waitsOn] at hWaits
        split at hWaits
        · exact (Option.some.inj hWaits).symm
        · cases hWaits
      subst hw
      obtain ⟨_, j, hHolder, _, rfl⟩ := hSection.gives hWaiting hOld hNew
      have hOwners : (handOff s.kernel i j t).portYield.ownerOf = _ :=
        (h.owning.afterHandOff hHolder).2
      rw [hTimeout, hOwners, Function.update_self]
      simp

theorem lock_blockedOn (h : Locks s) {r : OsErr} {st : LockStage} {w : WaitlistRef}
    (hPending : s.pending t = some (.mutexLock i r st)) (hOn : s.kernel.blockedOn t = some w) :
    w = .mutex i ∧ st = .woken := by
  obtain ⟨rest, hRest, hWaits⟩ := h.sound.pending_waits hOn
  rw [hPending] at hRest
  cases hRest
  simp only [Pending.waitsOn] at hWaits
  split at hWaits
  · rename_i hStage
    exact ⟨(Option.some.inj hWaits).symm, hStage.2⟩
  · cases hWaits

theorem recomputes_free (h : Locks s) {r : OsErr} {st : LockStage} {o : TaskId}
    (hPending : s.pending t = some (.mutexLock i r st)) (hTarget : st.target = some o) :
    s.kernel.blockedOn t = none := by
  by_contra hSome
  obtain ⟨w, hOn⟩ := Option.ne_none_iff_exists'.mp hSome
  rw [(h.lock_blockedOn hPending hOn).2] at hTarget
  cases hTarget

theorem target_lt_afterPiece {r : OsErr} {st : LockStage} {o : TaskId} (h : Locks s)
    (hSection : Section s.kernel piece k' f)
    (hPiece : ∀ rest, piece = .rest rest → s.pending s.kernel.currentTask = some rest)
    (hPending : (s.afterPiece k' f).pending t = some (.mutexLock i r st))
    (hTarget : st.target = some o) : o < s.kernel.taskCount := by
  rw [pending_afterPiece hSection] at hPending
  split at hPending
  · obtain ⟨_, rfl⟩ | ⟨st₀, hRest, _, hNext | hSame⟩ :=
      hSection.lock_rest h.sound.waiting hPending
    · cases hTarget
    · have hOld := fun o h' => h.target_lt (o := o) (hPiece _ hRest) h'
      cases hNext with
      | start => exact h.owner_lt hTarget
      | scan => exact hOld o hTarget
      | next => exact h.next_lt hTarget
      | _ => cases hTarget
    · exact h.target_lt (hPiece _ hRest) (hSame.trans hTarget)
  · exact h.target_lt hPending hTarget

theorem own_target_afterPiece {r : OsErr} {st : LockStage} {o : TaskId} (h : Locks s)
    (hRun : s.kernel.pendSV = false) (hSection : Section s.kernel piece k' f)
    (hPiece : ∀ rest, piece = .rest rest → s.pending s.kernel.currentTask = some rest)
    (hPending : (s.afterPiece k' f).pending t = some (.mutexLock i r st))
    (hTarget : st.target = some o) (hTimeout : (k'.userTasks t).timeout = false) : o = t := by
  have hWaiting := h.sound.waiting
  rw [pending_afterPiece hSection] at hPending
  split at hPending
  · rename_i hEq
    subst hEq
    have hFree := hWaiting.free_of_not_blocked (h.sound.current_free hRun)
    obtain ⟨_, rfl⟩ | ⟨st₀, hRest, hRanks, hNext | hSame⟩ := hSection.lock_rest hWaiting hPending
    · cases hTarget
    · rw [hRanks.timeout] at hTimeout
      have hOld := fun o h' => h.own_target (o := o) (hPiece _ hRest) h' hTimeout
      cases hNext with
      | start =>
        have hOwner := (h.truth (hPiece _ hRest) hFree).mp hTimeout
        exact Option.some.inj (hTarget.symm.trans hOwner)
      | scan => exact hOld o hTarget
      | @next o' =>
        have hSelf : o' = s.kernel.currentTask := hOld o' rfl
        have hWaits : (s.kernel.userTasks o').blockedWaitlist = none := hSelf ▸ hFree
        have hNone : nextOwner s.kernel o' = none := by
          rw [nextOwner, hWaits]
          rfl
        exact absurd (hNone.symm.trans hTarget) (by simp)
      | _ => cases hTarget
    · rw [hRanks.timeout] at hTimeout
      exact h.own_target (hPiece _ hRest) (hSame.trans hTarget) hTimeout
  · rename_i hne
    obtain ⟨_, hSame, _⟩ | ⟨w, hOld, _⟩ :=
      (hSection.reblocks hWaiting.listed).task hWaiting fun _ => hne
    · exact h.own_target hPending hTarget (hSame ▸ hTimeout)
    · exact absurd ((h.recomputes_free hPending hTarget).symm.trans hOld) (by simp)

theorem afterPiece (h : Locks s) (hRun : s.kernel.pendSV = false)
    (hSection : Section s.kernel piece k' f) (hSound : Sound (s.afterPiece k' f))
    (hAllowed : ∀ c, piece = .call c → s.created.allows c = true)
    (hPiece : ∀ rest, piece = .rest rest → s.pending s.kernel.currentTask = some rest) :
    Locks (s.afterPiece k' f) := by
  have hWaiting := h.sound.waiting
  have hTransfer := hSection.transfer
  have hReblocks := hSection.reblocks hWaiting.listed
  have hCount := hSection.current.2
  refine ⟨hSound, h.owning.afterTransfer hTransfer, ?_, ?_, ?_, ?_,
    h.truth_afterPiece hRun hSection hPiece, ?_,
    h.own_target_afterPiece hRun hSection hPiece⟩
  · intro i hAbsent
    by_contra hSome
    obtain ⟨o, hOwner⟩ := Option.ne_none_iff_exists'.mp hSome
    have hNone := h.absent hAbsent
    obtain hOld | ⟨_, n, rfl⟩ | ⟨hHolder, _⟩ := hTransfer.owner h.owning hOwner
    · exact absurd (hNone.symm.trans hOld) nofun
    · have hCreated : s.created.mutex i = true := hAllowed _ rfl
      exact absurd (hCreated.symm.trans hAbsent) nofun
    · exact absurd (hNone.symm.trans hHolder) nofun
  · intro i hCreated
    dsimp only [Sys.afterPiece]
    rw [hReblocks.policy]
    exact h.policy hCreated
  · intro i o hOwner
    change o < k'.taskCount
    rw [hCount]
    obtain hOld | ⟨rfl, _⟩ | ⟨_, j, hChosen⟩ := hTransfer.owner h.owning hOwner
    · exact h.owner_lt hOld
    · exact h.sound.current_lt
    · exact (hWaiting.blocked (hChosen.blockedOn hWaiting)).2.1
  · intro t i hOn
    obtain hOld | ⟨rfl, rest, hRest, hWaits⟩ := hReblocks.blockedOn hOn
    · obtain ⟨o, hOwner, hne⟩ := h.waits_other hOld
      exact hTransfer.waits_other h.owning hWaiting hOwner hne hOld hOn
    · exact hSection.waits h.owning hRest hWaits
  · intro t i r st o hPending hTarget
    change o < k'.taskCount
    rw [hCount]
    exact h.target_lt_afterPiece hSection hPiece hPending hTarget

theorem kept (h : Locks s) (hSound : Sound { s with kernel := k' })
    (hOwning : SameOwning s.kernel k') (hPolicy : k'.policy = s.kernel.policy)
    (hCount : k'.taskCount = s.kernel.taskCount)
    (hOn : ∀ t i, k'.blockedOn t = some (.mutex i) → s.kernel.blockedOn t = some (.mutex i))
    (hTruth : ∀ t i r st, s.pending t = some (.mutexLock i r st) → k'.blockedOn t = none →
      ((k'.userTasks t).timeout = false ↔ s.kernel.ownerOf i = some t)) :
    Locks { s with kernel := k' } := by
  refine ⟨hSound, h.owning.congr hOwning, ?_, ?_, ?_, ?_, ?_, ?_, ?_⟩
  · intro i hAbsent
    dsimp only
    rw [hOwning.ownerOf]
    exact h.absent hAbsent
  · intro i hCreated
    dsimp only
    rw [hPolicy]
    exact h.policy hCreated
  · intro i o hOwner
    dsimp only at hOwner ⊢
    rw [hCount]
    exact h.owner_lt (hOwning.ownerOf ▸ hOwner)
  · intro t i hWaits
    dsimp only
    rw [hOwning.ownerOf]
    exact h.waits_other (hOn t i hWaits)
  · intro t i r st hPending hFree
    dsimp only
    rw [hOwning.ownerOf]
    exact hTruth t i r st hPending hFree
  · intro t i r st o hPending hTarget
    dsimp only
    rw [hCount]
    exact h.target_lt hPending hTarget
  · intro t i r st o hPending hTarget hTimeout
    have hFree := h.recomputes_free hPending hTarget
    have hFree' : k'.blockedOn t = none := by
      by_contra hSome
      obtain ⟨w, hBlocked⟩ := Option.ne_none_iff_exists'.mp hSome
      obtain ⟨rest, hRest, hWaits⟩ := hSound.pending_waits hBlocked
      obtain rfl := Option.some.inj (hRest.symm.trans hPending)
      simp only [Pending.waitsOn] at hWaits
      split at hWaits
      · cases hWaits
        exact absurd (hFree.symm.trans (hOn t i hBlocked)) (by simp)
      · cases hWaits
    have hOwner := (hTruth t i r st hPending hFree').mp hTimeout
    exact h.own_target hPending hTarget ((h.truth hPending hFree).mpr hOwner)

theorem congr (h : Locks s) (hSound : Sound { s with kernel := k' })
    (hBlocking : SameBlocking s.kernel k') (hOwning : SameOwning s.kernel k') :
    Locks { s with kernel := k' } := by
  apply h.kept hSound hOwning (policy_of_waitlist hBlocking.waitlist) hBlocking.taskCount
  · intro t i hOn
    exact hBlocking.blockedOn ▸ hOn
  · intro t i r st hPending hOn
    rw [hBlocking.timeout]
    exact h.truth hPending (hBlocking.blockedOn ▸ hOn)

theorem afterIsr {c : ApiCall} {err : OsErr} {data : List U8} (h : Locks s)
    (hSection : Section s.kernel (.call c) k' (.returned err data))
    (hQueue : (∃ queue item, c = .queueSend queue item 0) ∨
      ∃ queue itemNull, c = .queueRecv queue itemNull 0) :
    Locks { s with kernel := k' } := by
  have hWaiting := h.sound.waiting
  have hReblocks := hSection.reblocks hWaiting.listed
  apply h.kept (h.sound.afterIsr hSection) (hSection.sameOwning_isr hQueue) hReblocks.policy
    hSection.current.2
  · intro t i hOn
    obtain hOld | ⟨_, _, hRest, _⟩ := hReblocks.blockedOn hOn
    · exact hOld
    · cases hRest
  · intro t i r st hPending hOn
    obtain ⟨hSame, hTimeout, _⟩ | ⟨w, hOld, hNew, _⟩ :=
      hReblocks.task hWaiting (t := t) fun hRest => absurd rfl hRest
    · rw [hTimeout]
      exact h.truth hPending (hSame ▸ hOn)
    · obtain ⟨rfl, _⟩ := h.lock_blockedOn hPending hOld
      obtain ⟨hUnlock, _⟩ := hSection.gives hWaiting hOld hNew
      obtain ⟨queue, item, rfl⟩ | ⟨queue, itemNull, rfl⟩ := hQueue <;> cases hUnlock

theorem afterTick (h : Locks s) : Locks { s with kernel := osTick s.kernel } := by
  have hTicked := h.sound.waiting.updateTickCount.ticked_unblockTasks
  have hClock : SameOwning s.kernel (updateTickCount s.kernel) :=
    ⟨fun _ => rfl, fun _ => rfl, fun _ => rfl, fun _ => rfl⟩
  have hOwning : SameOwning s.kernel (osTick s.kernel) :=
    (hClock.trans (.of_ticked hTicked)).trans (.of_shape (SameShape.portYield _))
  apply h.kept h.sound.afterTick hOwning hTicked.policy hTicked.taskCount
  · intro t i hOn
    exact (hTicked.blockedOn_eq_some hOn).1
  · intro t i r st hPending hOn
    obtain hSame | ⟨hReached, hWoken⟩ := hTicked.tasks t
    · have hTask : (osTick s.kernel).userTasks t = s.kernel.userTasks t := hSame
      rw [Kernel.blockedOn, hTask] at hOn
      rw [hTask]
      exact h.truth hPending hOn
    · have hTask : (osTick s.kernel).userTasks t = _ := hWoken
      obtain ⟨w, hOld⟩ : ∃ w, s.kernel.blockedOn t = some w := by
        apply Option.ne_none_iff_exists'.mp
        intro hNone
        exact h.sound.not_blocked hPending (by simp) hNone hReached.1
      obtain ⟨rfl, _⟩ := h.lock_blockedOn hPending hOld
      obtain ⟨o, hOwner, hne⟩ := h.waits_other hOld
      have hSome : ((updateTickCount s.kernel).blockedOn t).isSome = true :=
        congrArg Option.isSome hOld
      rw [hTask, hSome, hOwner]
      simp [wakeTcb, hne]

theorem afterPendSV (h : Locks s) : Locks { s with kernel := pendSVHandler s.kernel } := by
  have hSame : SameButStates { s.kernel with pendSV := false } (pendSVHandler s.kernel) :=
    sameButStates_osScheduleNextTask
  have hTaken : SameOwning s.kernel { s.kernel with pendSV := false } :=
    ⟨fun _ => rfl, fun _ => rfl, fun _ => rfl, fun _ => rfl⟩
  apply h.kept h.sound.afterPendSV (hTaken.trans (.of_states hSame))
    (policy_of_waitlist hSame.waitlist) hSame.taskCount
  · intro t i hOn
    exact hSame.blockedOn ▸ hOn
  · intro t i r st hPending hOn
    rw [hSame.timeout]
    exact h.truth hPending (hSame.blockedOn ▸ hOn)

theorem ownerOf_creation {c : CreateCall} {err : OsErr} (h : Locks s)
    (hFresh : s.created.fresh c = true) (hCreation : Creation s.kernel c k' err) :
    k'.ownerOf = s.kernel.ownerOf := by
  funext i
  obtain hSame | ⟨rfl, hNew⟩ := mutexes_creation hCreation i
  · rw [Kernel.ownerOf, hSame, Kernel.ownerOf]
  · have hAbsent : s.created.mutex i = false := by simpa [Objects.fresh] using hFresh
    rw [h.absent hAbsent, Kernel.ownerOf, hNew]

theorem afterCreate {c : CreateCall} {err : OsErr} (h : Locks s)
    (hFresh : s.created.fresh c = true) (hCreation : Creation s.kernel c k' err)
    (hSound : Sound (s.afterCreate c k' err)) : Locks (s.afterCreate c k' err) := by
  have hBlocked := blockedOn_creation h.sound.waiting hCreation
  have hOwner := h.ownerOf_creation hFresh hCreation
  have hState : ∀ i, (k'.mutexes i).state = (s.kernel.mutexes i).state := by
    intro i
    obtain hSame | ⟨rfl, hNew⟩ := mutexes_creation hCreation i
    · rw [hSame]
    · have hAbsent : s.created.mutex i = false := by simpa [Objects.fresh] using hFresh
      rw [hNew, (h.owning.unlocked i).mpr (h.absent hAbsent)]
  have hTasks : ∀ t, (k'.userTasks t).ownedMutexes = (s.kernel.userTasks t).ownedMutexes ∧
      (k'.userTasks t).ownedMutexCount = (s.kernel.userTasks t).ownedMutexCount := by
    intro t
    obtain ⟨hSame, _⟩ | ⟨_, _, _, _, _, _, hSame⟩ := userTasks_creation hCreation
    · rw [hSame]
      exact ⟨rfl, rfl⟩
    · rw [hSame]
      split <;> exact ⟨rfl, rfl⟩
  have hOwning : SameOwning s.kernel k' :=
    ⟨congrFun hOwner, hState, fun t => (hTasks t).1, fun t => (hTasks t).2⟩
  have hCount := taskCount_creation hCreation
  refine ⟨hSound, h.owning.congr hOwning, ?_, ?_, ?_, ?_, ?_, ?_, ?_⟩
  · intro i hAbsent
    dsimp only [Sys.afterCreate]
    rw [hOwner]
    apply h.absent
    cases hOld : s.created.mutex i with
    | false => rfl
    | true =>
      have hStill : (s.afterCreate c k' err).created.has (.mutex i) = true := by
        dsimp only [Sys.afterCreate]
        split
        · exact has_add hOld
        · exact hOld
      exact absurd (hStill.symm.trans hAbsent) (by simp)
  · intro i hNow
    dsimp only [Sys.afterCreate] at hNow ⊢
    exact policy_creation hCreation (fun _ => h.policy) hNow
  · intro i o hHolds
    dsimp only [Sys.afterCreate] at hHolds ⊢
    exact (h.owner_lt (hOwner ▸ hHolds)).trans_le hCount
  · intro t i hOn
    dsimp only [Sys.afterCreate] at hOn ⊢
    rw [hOwner]
    exact h.waits_other (hBlocked ▸ hOn)
  · intro t i r st hPending hOn
    dsimp only [Sys.afterCreate] at hPending hOn ⊢
    rw [userTasks_creation_old hCreation (h.sound.pending_user hPending).2, hOwner]
    exact h.truth hPending (hBlocked ▸ hOn)
  · intro t i r st o hPending hTarget
    dsimp only [Sys.afterCreate] at hPending ⊢
    exact (h.target_lt hPending hTarget).trans_le hCount
  · intro t i r st o hPending hTarget hTimeout
    dsimp only [Sys.afterCreate] at hPending hTimeout
    rw [userTasks_creation_old hCreation (h.sound.pending_user hPending).2] at hTimeout
    exact h.own_target hPending hTarget hTimeout

theorem afterMove (h : Locks s) (hMove : Move s e s' out)
    (hUser : UserBlocks ⟨s, e, out, s'⟩) : Locks s' := by
  have hSound := h.sound.afterMove hMove hUser
  cases hMove with
  | create _ _ hFresh hCreation => exact h.afterCreate hFresh hCreation hSound
  | call hRun _ hAllowed hSection =>
    apply h.afterPiece hRun hSection hSound
    · rintro c ⟨⟩
      exact hAllowed
    · rintro rest ⟨⟩
  | resume hRun hPending hSection =>
    apply h.afterPiece hRun hSection hSound
    · rintro c ⟨⟩
    · rintro rest ⟨⟩
      exact hPending
  | @isrSend queue _ k' err _ _ hSection =>
    have hAfter := h.afterIsr hSection (.inl ⟨_, _, rfl⟩)
    split
    · rename_i hErr
      have hQuiet := quiet_countDropped k' queue
      rw [if_pos hErr] at hSound
      exact hAfter.congr hSound hQuiet.sameBlocking (.of_shape hQuiet.toSameShape)
    · exact hAfter
  | isrRecv _ hSection => exact h.afterIsr hSection (.inr ⟨_, _, rfl⟩)
  | tick => exact h.afterTick
  | pendSV => exact h.afterPendSV

end Locks

theorem Booting.owning {s : Sys} (h : Booting s) : Owning s.kernel := by
  have hOwned : s.kernel.owned = fun _ => [] := by
    funext t
    rw [Kernel.owned, h.unowning]
    rfl
  have hOwner : s.kernel.ownerOf = fun _ => none := funext h.unowned
  refine ⟨fun t => ?_, ?_, fun i => ?_⟩
  · rw [hOwned]
    exact ⟨h.unowning t, fun i hi => by cases hi⟩
  · rw [hOwned, hOwner]
    exact ⟨fun _ => List.nodup_nil, by simp⟩
  · exact iff_of_true (h.unlocked i) (h.unowned i)

theorem locks_of_boot {image : Image} {calls : List CreateCall} {start : Sys}
    (h : boot image calls = some start) : Locks start := by
  have hSound := sound_of_boot h
  obtain ⟨s, hPolicy, hBooting, rfl⟩ := boot_induction
    (P := fun _ s => ∀ i, s.created.mutex i = true → s.kernel.policy (.mutex i) = .priority) h
    (fun _ hNow => by cases hNow)
    (fun _ _ _ _ _ hOld _ _ hCreation _ hNow => policy_creation hCreation hOld hNow)
  have hSame := sameButStates_osScheduleNextTask
    (k := initIdleTask s.kernel image.idleTaskHandler image.idleTaskStack)
  have hIdle : SameOwning s.kernel
      (initIdleTask s.kernel image.idleTaskHandler image.idleTaskStack) := by
    refine ⟨fun _ => rfl, fun _ => rfl, fun t => ?_, fun t => ?_⟩ <;>
    · rw [initIdleTask, Kernel.userTasks_modifyTask]
      split
      · subst t
        rfl
      · rfl
  have hOwning := hIdle.trans (.of_states hSame)
  have hOwner : ∀ i, (osKernelStart s.kernel image.idleTaskHandler image.idleTaskStack).ownerOf i =
      none := fun i => (hOwning.owner i).trans (hBooting.unowned i)
  refine ⟨hSound, hBooting.owning.congr hOwning, fun _ => hOwner _, ?_, ?_, ?_, ?_, ?_, ?_⟩
  · intro i hNow
    dsimp only
    rw [osKernelStart, policy_of_waitlist hSame.waitlist]
    exact hPolicy i hNow
  · intro i o hHolds
    exact absurd ((hOwner i).symm.trans hHolds) (by simp)
  · intro t i hOn
    have hMem := hSound.waiting.mem_waiters.mpr hOn
    rw [(idle_of_boot h).1] at hMem
    cases hMem
  · intro t i r st hPending
    rw [(idle_of_boot h).2] at hPending
    cases hPending
  · intro t i r st o hPending
    rw [(idle_of_boot h).2] at hPending
    cases hPending
  · intro t i r st o hPending
    rw [(idle_of_boot h).2] at hPending
    cases hPending

theorem locks_of_run {start s : Sys} {trace : List Label} (hRun : Run start trace s)
    (hStart : Locks start) (hUser : ∀ l ∈ trace, UserBlocks l) : Locks s :=
  hRun.invariant hStart (fun _ hTaken hUser hPre => hPre.afterMove (move_of_step hTaken) hUser) hUser

theorem Reaches.locks {trace : List Label} {s : Sys} (h : Reaches trace s)
    (hUser : ∀ l ∈ trace, UserBlocks l) : Locks s := by
  obtain ⟨image, calls, start, hBoot, hRun⟩ := h
  exact locks_of_run hRun (locks_of_boot hBoot) hUser

end Kept
end KoRTOS
