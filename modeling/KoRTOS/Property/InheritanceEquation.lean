import KoRTOS.Evaluation
import KoRTOS.Invariant.Graph

/-!
# The equation of priority inheritance

In a kernel state whose records agree and in which nobody waits for himself,
`mutex_recompute_owner_priority` restores the equation along the whole chain on
which it may fail. The priorities that satisfy the equation are unique there, so
a donation before the caller waits and a recomputation after it give the same.
-/

namespace KoRTOS

open FiberLists Inheritance

/-- The records of who waits where and of who owns what agree. -/
structure Consistent (k : Kernel) : Prop where
  taskCount_le : k.taskCount ≤ osMaxTasks
  listed : Listed k
  waiting : Fibers k.blockedOn k.waiters
  blocked : ∀ {t w}, k.blockedOn t = some w → t < k.taskCount ∧
    (k.userTasks t).currentState = .blocked ∧ (k.userTasks t).blockReason = w.blockReason
  owning : Owning k
  owner_lt : ∀ {i o}, k.ownerOf i = some o → o < k.taskCount

/-- The effective priority of task `t` is the least of its base priority and the effective
priorities of all waiters on all mutexes it owns. -/
def InheritsAt (k : Kernel) (t : TaskId) : Prop :=
  IsLeast (insert (k.base t) {p | ∃ i ∈ k.owned t, ∃ w ∈ k.waiters (.mutex i), p = k.eff w})
    (k.eff t)

def Kernel.withEff (k : Kernel) (eff : TaskId → Nat) : Kernel :=
  { k with userTasks := fun t => { k.userTasks t with effectivePriority := eff t } }

theorem Locks.consistent {s : Sys} (h : Locks s) : Consistent s.kernel where
  taskCount_le := h.sound.waiting.taskCount_le
  listed := h.sound.waiting.listed
  waiting := h.sound.waiting.fibers
  blocked hOn := (h.sound.waiting.blocked hOn).2
  owning := h.owning
  owner_lt := h.owner_lt

namespace Consistent

variable {k k' : Kernel} {t o x : TaskId} {i : MutexId} {n : Nat}

theorem reranked (h : Consistent k) (hSame : Reranked k k') : Consistent k' where
  taskCount_le := by
    rw [hSame.taskCount]
    exact h.taskCount_le
  listed w := by
    rw [hSame.waitlist, hSame.waiters]
    exact h.listed w
  waiting := by
    rw [hSame.blockedOn, hSame.waiters]
    exact h.waiting
  blocked hOn := by
    rw [hSame.taskCount, hSame.currentState, hSame.blockReason]
    exact h.blocked (hSame.blockedOn ▸ hOn)
  owning := h.owning.congr (.of_shape hSame.toSameShape)
  owner_lt hOwner := by
    rw [hSame.taskCount]
    exact h.owner_lt (hSame.ownerOf ▸ hOwner)

theorem inheritsAt_iff (h : Consistent k) :
    InheritsAt k t ↔ Exact k.base k.eff (nextOwner k) t := by
  have hClaims : {p | ∃ i ∈ k.owned t, ∃ w ∈ k.waiters (.mutex i), p = k.eff w} =
      {p | ∃ w, nextOwner k w = some t ∧ p = k.eff w} := by
    ext p
    constructor
    · rintro ⟨i, hi, w, hw, hp⟩
      have hMem : w ∈ claimants k t := List.mem_flatMap.mpr ⟨i, hi, hw⟩
      exact ⟨w, (mem_claimants h.waiting fun _ => h.owning.fibers.mem_iff).mp hMem, hp⟩
    · rintro ⟨w, hw, hp⟩
      have hMem := (mem_claimants h.waiting fun _ => h.owning.fibers.mem_iff).mpr hw
      obtain ⟨i, hi, hw⟩ := List.mem_flatMap.mp hMem
      exact ⟨i, hi, w, hw, hp⟩
  rw [InheritsAt, hClaims]
  rfl

theorem scan_least (h : Consistent k) (o : TaskId) :
    IsLeast (claims k.base k.eff (nextOwner k) o) (scanOwner k o) :=
  scanOwner_least h.listed h.waiting h.owning o

theorem inheritsAt_of_scan (h : Consistent k) (hScan : scanOwner k t = k.eff t) :
    InheritsAt k t := by
  rw [h.inheritsAt_iff, Exact, ← hScan]
  exact h.scan_least t

theorem nextOwner_of_reason (h : Consistent k)
    (hReason : (k.userTasks t).blockReason ≠ .mutex) : nextOwner k t = none :=
  nextOwner_eq_none fun _ hOn => hReason (h.blocked hOn).2.2

theorem next_lt (h : Consistent k) (hNext : nextOwner k t = some o) :
    t < k.taskCount ∧ o < k.taskCount := by
  obtain ⟨_, hOn, hOwner⟩ := nextOwner_eq_some.mp hNext
  exact ⟨(h.blocked hOn).1, h.owner_lt hOwner⟩

theorem chain_lt (h : Consistent k) (ho : o < k.taskCount) (hx : OnChain (nextOwner k) o x) :
    x < k.taskCount := by
  obtain rfl | ⟨y, _, hNext⟩ := Relation.ReflTransGen.cases_tail hx
  · exact ho
  · exact (h.next_lt hNext).2

theorem mem_walk_iff (h : Consistent k) (hAcyclic : AcyclicWaits k) (ho : o < k.taskCount) :
    x ∈ walk (nextOwner k) osMaxTasks (some o) ↔ OnChain (nextOwner k) o x := by
  apply Inheritance.mem_walk_iff hAcyclic (S := Finset.range k.taskCount)
  · intro a b hab
    exact Finset.mem_range.mpr (h.next_lt hab).2
  · exact Finset.mem_range.mpr ho
  · rw [Finset.card_range]
    exact h.taskCount_le

theorem exact_recomputeLoop (h : Consistent k) (hAcyclic : AcyclicWaits k)
    (hOff : ¬ OnChain (nextOwner k) o x → Exact k.base k.eff (nextOwner k) x)
    (hReached : OnChain (nextOwner k) o x → x ∈ walk (nextOwner k) n (some o)) :
    Exact k.base (recomputeLoop n (some o) k).eff (nextOwner k) x := by
  induction n generalizing k o with
  | zero =>
    apply hOff
    intro hOn
    exact absurd (hReached hOn) (by simp [walk])
  | succ n ih =>
    have hRerank := Reranked.setEffectivePriority k o (scanOwner k o)
    have hEff := eff_setEffectivePriority (k := k) (o := o) (v := scanOwner k o)
    have hRound : (∀ o', nextOwner k o = some o' → ¬ OnChain (nextOwner k) o' x) →
        Exact k.base (Function.update k.eff o (scanOwner k o)) (nextOwner k) x :=
      Exact.afterRound hAcyclic (h.scan_least o) hOff
    rw [recomputeLoop]
    generalize k.setEffectivePriority o (scanOwner k o) = k₁ at hRerank hEff
    split
    · rename_i hFree
      rw [hEff]
      rw [hRerank.blockReason] at hFree
      apply hRound
      intro o' hNext
      rw [h.nextOwner_of_reason hFree] at hNext
      cases hNext
    · rw [hRerank.nextOwner]
      cases hNext : nextOwner k o with
      | none =>
        have hEnd : recomputeLoop n none k₁ = k₁ := by cases n <;> rfl
        rw [hEnd, hEff]
        apply hRound
        intro o' hNext'
        rw [hNext] at hNext'
        cases hNext'
      | some o' =>
        rw [← hRerank.nextOwner, ← hRerank.base]
        apply ih (h.reranked hRerank)
        · rw [AcyclicWaits, hRerank.nextOwner]
          exact hAcyclic
        · intro hRest
          rw [hRerank.nextOwner] at hRest ⊢
          rw [hRerank.base, hEff]
          apply hRound
          intro o'' hNext'
          rw [hNext] at hNext'
          cases hNext'
          exact hRest
        · intro hOn
          rw [hRerank.nextOwner] at hOn ⊢
          -- the round was for `o`, to which the rest of the chain does not come back
          have hMem := hReached (Relation.ReflTransGen.head hNext hOn)
          rw [walk, hNext] at hMem
          obtain rfl | hMem := List.mem_cons.mp hMem
          · have hFirst : Waits (nextOwner k) x o' := hNext
            exact absurd (Relation.TransGen.head' hFirst hOn) (hAcyclic x)
          · exact hMem

end Consistent

section Frame

variable {k : Kernel} {o x : TaskId} {n : Nat}

theorem setEffectivePriority_withEff {v : Nat} :
    k.setEffectivePriority o v = k.withEff (Function.update k.eff o v) := by
  unfold Kernel.setEffectivePriority Kernel.modifyTask Kernel.withEff
  congr 1
  funext t
  rw [Function.update_apply, Function.update_apply]
  split
  · subst t
    rfl
  · rfl

theorem recomputeLoop_withEff (next : Option TaskId) :
    ∃ eff, recomputeLoop n next k = k.withEff eff := by
  induction n generalizing next k with
  | zero => exact ⟨k.eff, rfl⟩
  | succ n ih =>
    cases next with
    | none => exact ⟨k.eff, rfl⟩
    | some o =>
      rw [recomputeLoop, setEffectivePriority_withEff]
      split
      · exact ⟨_, rfl⟩
      · obtain ⟨eff, hRest⟩ := ih (k := k.withEff (Function.update k.eff o (scanOwner k o))) _
        exact ⟨eff, hRest⟩

theorem eff_recomputeLoop_off (hx : x ∉ walk (nextOwner k) n (some o)) :
    (recomputeLoop n (some o) k).eff x = k.eff x := by
  induction n generalizing k o with
  | zero => rfl
  | succ n ih =>
    rw [walk, List.mem_cons, not_or] at hx
    have hRerank := Reranked.setEffectivePriority k o (scanOwner k o)
    have hFirst : (k.setEffectivePriority o (scanOwner k o)).eff x = k.eff x := by
      rw [eff_setEffectivePriority, Function.update_of_ne hx.1]
    rw [recomputeLoop]
    generalize k.setEffectivePriority o (scanOwner k o) = k₁ at hRerank hFirst
    split
    · exact hFirst
    · rw [hRerank.nextOwner]
      cases hNext : nextOwner k o with
      | none =>
        have hEnd : recomputeLoop n none k₁ = k₁ := by cases n <;> rfl
        rw [hEnd]
        exact hFirst
      | some o' =>
        rw [ih, hFirst]
        rw [hRerank.nextOwner]
        rw [hNext] at hx
        exact hx.2

end Frame

/-- A recomputation that starts at `t` gives every task the equation if only tasks on the chain
of `t` may lack it, and writes effective priorities on that chain only. -/
theorem recompute_restores {k : Kernel} {t : TaskId} (hk : Consistent k)
    (hAcyclic : AcyclicWaits k) (ht : t < k.taskCount)
    (h : ∀ x, x < k.taskCount → ¬ OnChain (nextOwner k) t x → InheritsAt k x) :
    ∃ eff, mutexRecomputeOwnerPriority k (some t) = k.withEff eff ∧
      (∀ x, ¬ OnChain (nextOwner k) t x → eff x = k.eff x) ∧
      ∀ x, x < k.taskCount → InheritsAt (k.withEff eff) x := by
  obtain ⟨eff, hEq⟩ := recomputeLoop_withEff (k := k) (n := osMaxTasks) (some t)
  have hRerank := Reranked.mutexRecomputeOwnerPriority k (some t)
  have hEff : eff = (mutexRecomputeOwnerPriority k (some t)).eff := by
    rw [mutexRecomputeOwnerPriority, hEq]
    rfl
  refine ⟨eff, hEq, ?_, ?_⟩
  · intro x hx
    rw [hEff]
    apply eff_recomputeLoop_off
    rwa [hk.mem_walk_iff hAcyclic ht]
  · intro x hx
    have hExact := hk.exact_recomputeLoop (n := osMaxTasks) hAcyclic
      (fun hOff => hk.inheritsAt_iff.mp (h x hx hOff)) (hk.mem_walk_iff hAcyclic ht).mpr
    change InheritsAt (k.withEff eff) x
    rw [← hEq]
    rw [← hRerank.base, ← hRerank.nextOwner] at hExact
    exact (hk.reranked hRerank).inheritsAt_iff.mpr hExact

/-- Task 2 has timed out on the mutex of task 1, which still has the donated priority. -/
theorem recompute_restores_timeout :
    ∃ trace s, Reaches trace s ∧ s.kernel.base 1 = 5 ∧ s.kernel.eff 1 = 4 ∧
      ∃ eff, mutexRecomputeOwnerPriority s.kernel (some 1) = s.kernel.withEff eff ∧
        (∀ x, ¬ OnChain (nextOwner s.kernel) 1 x → eff x = s.kernel.eff x) ∧
        ∀ x, x < s.kernel.taskCount → InheritsAt (s.kernel.withEff eff) x := by
  have hCheck : checkBoot sampleImage [sampleTask 5, sampleTask 4, .mutex (some 0)]
      [.call (.taskDelay 1), .pendSV, .call (.mutexLock (some 0) 0), .tick, .pendSV, .resume,
        .call (.mutexLock (some 0) 1), .pendSV, .tick]
      (fun l => decide (UserBlocks l))
      (fun s => s.kernel.base 1 == 5 && s.kernel.eff 1 == 4 && s.kernel.taskCount == 3 &&
        flatWaits s.kernel &&
        [0, 2].all fun t => scanOwner s.kernel t == s.kernel.eff t) = true := by
    decide +kernel
  obtain ⟨trace, s, hReaches, _, hUser, hFinal⟩ := reaches_of_checkBoot hCheck
  simp only [Bool.and_eq_true, beq_iff_eq, List.all_cons, List.all_nil] at hFinal
  obtain ⟨⟨⟨⟨hBase, hEff⟩, hCount⟩, hFlat⟩, hIdle, hWaiter, _⟩ := hFinal
  have hLocks := hReaches.locks fun l hl => of_decide_eq_true (hUser l hl)
  have hConsistent := hLocks.consistent
  refine ⟨trace, s, hReaches, hBase, hEff, recompute_restores hConsistent
    (hLocks.sound.waiting.acyclic_of_flat hFlat) (by rw [hCount]; decide) ?_⟩
  intro x hx hOff
  rw [hCount] at hx
  match x, hx with
  | 0, _ => exact hConsistent.inheritsAt_of_scan hIdle
  | 1, _ => exact absurd .refl hOff
  | 2, _ => exact hConsistent.inheritsAt_of_scan hWaiter

theorem nextOwner_enqueue {k : Kernel} {i : MutexId} {o : TaskId} {n : U32}
    (hOwner : k.ownerOf i = some o) :
    nextOwner (enqueueCurrent k (.mutex i) n .mutex) =
      Function.update (nextOwner k) k.currentTask (some o) := by
  rw [nextOwner_enter blockedOn_enqueueCurrent SameOwning.enqueueCurrent.ownerOf]
  exact congrArg (Function.update (nextOwner k) k.currentTask) hOwner

namespace Consistent

variable {k : Kernel} {i : MutexId} {o x : TaskId} {w : WaitlistRef} {n : U32}

theorem current_free (h : Consistent k) (hFree : k.current.currentState ≠ .blocked) :
    k.blockedOn k.currentTask = none := by
  cases hOn : k.blockedOn k.currentTask with
  | none => rfl
  | some w => exact absurd (h.blocked hOn).2.1 hFree

theorem waitCount_lt (h : Consistent k) (hCaller : k.currentTask < k.taskCount)
    (hFree : k.current.currentState ≠ .blocked) : (k.waitlist w).waitCount < osMaxTasks := by
  have hOthers : ∀ t w, k.blockedOn t = some w →
      t ∈ (Finset.range k.taskCount).erase k.currentTask := by
    intro t w hOn
    refine Finset.mem_erase.mpr ⟨?_, Finset.mem_range.mpr (h.blocked hOn).1⟩
    rintro rfl
    exact hFree (h.blocked hOn).2.1
  have hSum := h.waiting.sum_length_le _ hOthers {w}
  rw [Finset.sum_singleton, Finset.card_erase_of_mem (Finset.mem_range.mpr hCaller),
    Finset.card_range, ← (h.listed w).count] at hSum
  have hLe := h.taskCount_le
  unfold TaskId at hCaller
  omega

theorem waitlistBlockCurrent_eq {reason : BlockReason} (h : Consistent k)
    (hCaller : k.currentTask < k.taskCount) (hFree : k.current.currentState ≠ .blocked) :
    waitlistBlockCurrent k w n reason = (enqueueCurrent k w n reason, .ok) :=
  if_neg (Nat.not_le.mpr (h.waitCount_lt hCaller hFree))

theorem afterEnqueue (h : Consistent k) (hCaller : k.currentTask < k.taskCount)
    (hFree : k.current.currentState ≠ .blocked) :
    Consistent (enqueueCurrent k w n w.blockReason) where
  taskCount_le := by
    rw [taskCount_enqueueCurrent]
    exact h.taskCount_le
  listed := h.listed.afterEnqueue
  waiting := by
    rw [blockedOn_enqueueCurrent, waiters_enqueueCurrent h.listed]
    exact h.waiting.append (h.current_free hFree)
  blocked {t w'} hOn := by
    rw [blockedOn_enqueueCurrent, Function.update_apply] at hOn
    rw [taskCount_enqueueCurrent, userTasks_enqueueCurrent]
    split at hOn
    · cases hOn
      subst t
      rw [if_pos rfl]
      exact ⟨hCaller, rfl, rfl⟩
    · rename_i hne
      rw [if_neg hne]
      exact h.blocked hOn
  owning := h.owning.congr .enqueueCurrent
  owner_lt hOwner := by
    rw [SameOwning.enqueueCurrent.ownerOf] at hOwner
    rw [taskCount_enqueueCurrent]
    exact h.owner_lt hOwner

theorem eff_donate (h : Consistent k) (o : TaskId) :
    (mutexDonatePriority k (some o)).eff =
      donate k.eff (k.eff k.currentTask) (walk (nextOwner k) osMaxTasks (some o)) :=
  eff_donateLoop fun _ => h.nextOwner_of_reason

theorem waitlistBlockCurrent_donated (h : Consistent k) (hCaller : k.currentTask < k.taskCount)
    (hFree : k.current.currentState ≠ .blocked) :
    waitlistBlockCurrent (mutexDonatePriority k (some o)) (.mutex i) n .mutex =
      (enqueueCurrent (mutexDonatePriority k (some o)) (.mutex i) n .mutex, .ok) := by
  have hRerank := Reranked.mutexDonatePriority k (some o)
  apply (h.reranked hRerank).waitlistBlockCurrent_eq
  · rw [hRerank.currentTask, hRerank.taskCount]
    exact hCaller
  · rw [Kernel.current, hRerank.currentTask, hRerank.currentState]
    exact hFree

theorem osMutexLock_waits {donated : Kernel} (h : Consistent k)
    (hOwner : (k.mutexes i).owner = some o) (hOther : o ≠ k.currentTask) (hn : n ≠ 0)
    (hDonated : waitlistBlockCurrent (mutexDonatePriority k (some o)) (.mutex i) n .mutex =
      (donated, .ok)) :
    osMutexLock k (some i) n = (donated, .suspended (.mutexLock i .ok .woken)) := by
  have hLocked : (k.mutexes i).state ≠ .unlocked := by
    intro hUnlocked
    have hNobody := (h.owning.unlocked i).mp hUnlocked
    rw [Kernel.ownerOf, hOwner] at hNobody
    cases hNobody
  have hNotMine : (k.mutexes i).owner ≠ some k.currentTask := by
    rw [hOwner]
    exact fun hEq => hOther (Option.some.inj hEq)
  unfold osMutexLock
  dsimp only
  rw [if_neg hLocked, if_neg hNotMine, if_neg hn, hOwner, hDonated]

theorem donate_eq_recompute (h : Consistent k)
    (hExact : ∀ x, x < k.taskCount → InheritsAt k x) (hCaller : k.currentTask < k.taskCount)
    (hFree : k.current.currentState ≠ .blocked) (hOwner : k.ownerOf i = some o)
    (hNone : nextOwner k k.currentTask = none)
    (hChain : ∀ x, x ∈ walk (nextOwner k) osMaxTasks (some o) ↔ OnChain (nextOwner k) o x)
    (hAcyclic : AcyclicWaits (enqueueCurrent k (.mutex i) n .mutex)) :
    donate k.eff (k.eff k.currentTask) (walk (nextOwner k) osMaxTasks (some o)) =
      (mutexRecomputeOwnerPriority (enqueueCurrent k (.mutex i) n .mutex) (some o)).eff := by
  have hWaits : Consistent (enqueueCurrent k (.mutex i) n .mutex) := h.afterEnqueue hCaller hFree
  have hNext := nextOwner_enqueue (n := n) hOwner
  have hRanks : SameRanks k (enqueueCurrent k (.mutex i) n .mutex) := .enqueueCurrent
  have hCount : (enqueueCurrent k (.mutex i) n .mutex).taskCount = k.taskCount :=
    taskCount_enqueueCurrent
  have ho : o < k.taskCount := h.owner_lt hOwner
  generalize enqueueCurrent k (.mutex i) n .mutex = waits at hWaits hNext hRanks hCount hAcyclic ⊢
  have hReached : ∀ x, x ∈ walk (nextOwner waits) osMaxTasks (some o) ↔
      OnChain (nextOwner waits) o x := fun x =>
    hWaits.mem_walk_iff hAcyclic (by rw [hCount]; exact ho)
  have hGraph : Acyclic (Function.update (nextOwner k) k.currentTask (some o)) := hNext ▸ hAcyclic
  have hNot : ¬ OnChain (nextOwner k) o k.currentTask := hGraph.not_onChain hNone
  have hDonated : ∀ x ∈ Finset.range k.taskCount, Exact k.base
      (donate k.eff (k.eff k.currentTask) (walk (nextOwner k) osMaxTasks (some o)))
      (nextOwner waits) x := by
    intro x hx
    rw [hNext]
    apply Exact.afterDonation hNone hChain hNot
    exact h.inheritsAt_iff.mp (hExact x (Finset.mem_range.mp hx))
  have hRecomputed : ∀ x ∈ Finset.range k.taskCount, Exact k.base
      (mutexRecomputeOwnerPriority waits (some o)).eff (nextOwner waits) x := by
    intro x hx
    rw [← hRanks.base]
    refine hWaits.exact_recomputeLoop hAcyclic (fun hOff => ?_) (hReached x).mpr
    have hxo : x ≠ o := by
      rintro rfl
      exact hOff .refl
    rw [hRanks.base, hRanks.eff, hNext]
    exact exact_enter hNone (h.inheritsAt_iff.mp (hExact x (Finset.mem_range.mp hx))) hxo
  funext x
  rcases Nat.lt_or_ge x k.taskCount with hx | hx
  · have hClosed : ∀ a b, b ∈ Finset.range k.taskCount → nextOwner waits a = some b →
        a ∈ Finset.range k.taskCount := by
      intro a b _ hab
      have hLt := (hWaits.next_lt hab).1
      rw [hCount] at hLt
      exact Finset.mem_range.mpr hLt
    exact Exact.unique hAcyclic hClosed hDonated hRecomputed x (Finset.mem_range.mpr hx)
  · -- beyond the tasks neither of them writes
    have hFar : ¬ OnChain (nextOwner waits) o x := by
      intro hOn
      have hLt := hWaits.chain_lt (by rw [hCount]; exact ho) hOn
      rw [hCount] at hLt
      exact absurd hLt (Nat.not_lt.mpr hx)
    have hOff : x ∉ walk (nextOwner k) osMaxTasks (some o) := by
      intro hMem
      exact absurd (h.chain_lt ho ((hChain x).mp hMem)) (Nat.not_lt.mpr hx)
    rw [donate, if_neg hOff, mutexRecomputeOwnerPriority, eff_recomputeLoop_off, hRanks.eff]
    rw [hReached]
    exact hFar

end Consistent

/-- Donating before the caller waits gives every task the priority that a recomputation gives
after it, with the whole chain of the owner raised and everybody else left alone. -/
theorem donation_agrees {k : Kernel} {i : MutexId} {o : TaskId} {n : U32} (hk : Consistent k)
    (hExact : ∀ x, x < k.taskCount → InheritsAt k x) (hCaller : k.currentTask < k.taskCount)
    (hFree : k.current.currentState ≠ .blocked) (hOwner : (k.mutexes i).owner = some o)
    (hOther : o ≠ k.currentTask)
    (hAcyclic : AcyclicWaits (waitlistBlockCurrent k (.mutex i) n .mutex).1) :
    ∃ donated waits,
      waitlistBlockCurrent (mutexDonatePriority k (some o)) (.mutex i) n .mutex = (donated, .ok) ∧
      waitlistBlockCurrent k (.mutex i) n .mutex = (waits, .ok) ∧
      donated.eff = (mutexRecomputeOwnerPriority waits (some o)).eff ∧
      (∀ x, OnChain (nextOwner k) o x → donated.eff x = min (k.eff x) (k.eff k.currentTask)) ∧
      (∀ x, ¬ OnChain (nextOwner k) o x → donated.eff x = k.eff x) ∧
      (n ≠ 0 → osMutexLock k (some i) n = (donated, .suspended (.mutexLock i .ok .woken))) := by
  have hWaits : waitlistBlockCurrent k (.mutex i) n .mutex =
      (enqueueCurrent k (.mutex i) n .mutex, .ok) := hk.waitlistBlockCurrent_eq hCaller hFree
  have hDonated := hk.waitlistBlockCurrent_donated (i := i) (o := o) (n := n) hCaller hFree
  rw [hWaits] at hAcyclic
  have hNone : nextOwner k k.currentTask = none := by
    apply nextOwner_eq_none
    intro m hOn
    rw [hk.current_free hFree] at hOn
    cases hOn
  have hNext := nextOwner_enqueue (n := n) hOwner
  have hGraph : Acyclic (Function.update (nextOwner k) k.currentTask (some o)) := by
    rw [← hNext]
    exact hAcyclic
  have hOld : AcyclicWaits k := by
    refine hGraph.mono fun a b hab => ?_
    exact (update_next_eq hNone).mpr (.inr hab)
  have ho : o < k.taskCount := hk.owner_lt hOwner
  have hChain : ∀ x, x ∈ walk (nextOwner k) osMaxTasks (some o) ↔ OnChain (nextOwner k) o x :=
    fun x => hk.mem_walk_iff hOld ho
  have hEff : (enqueueCurrent (mutexDonatePriority k (some o)) (.mutex i) n .mutex).eff =
      donate k.eff (k.eff k.currentTask) (walk (nextOwner k) osMaxTasks (some o)) := by
    rw [SameRanks.enqueueCurrent.eff]
    exact hk.eff_donate o
  refine ⟨_, _, hDonated, hWaits, ?_, ?_, ?_, ?_⟩
  · rw [hEff]
    exact hk.donate_eq_recompute hExact hCaller hFree hOwner hNone hChain hAcyclic
  · intro x hx
    rw [hEff, donate, if_pos ((hChain x).mpr hx)]
  · intro x hx
    rw [hEff, donate, if_neg fun hMem => hx ((hChain x).mp hMem)]
  · intro hn
    exact hk.osMutexLock_waits hOwner hOther hn hDonated

/-- Task 3 locks the mutex of task 2, which waits for the mutex of task 1. -/
theorem donation_agrees_chain :
    ∃ trace s donated waits, Reaches trace s ∧ nextOwner s.kernel 2 = some 1 ∧
      waitlistBlockCurrent (mutexDonatePriority s.kernel (some 2)) (.mutex 1) osWaitForever .mutex =
        (donated, .ok) ∧
      waitlistBlockCurrent s.kernel (.mutex 1) osWaitForever .mutex = (waits, .ok) ∧
      donated.eff = (mutexRecomputeOwnerPriority waits (some 2)).eff ∧
      (∀ x, OnChain (nextOwner s.kernel) 2 x →
        donated.eff x = min (s.kernel.eff x) (s.kernel.eff s.kernel.currentTask)) := by
  have hCheck : checkBoot sampleImage
      [sampleTask 30, sampleTask 20, sampleTask 10, .mutex (some 0), .mutex (some 1)]
      [.call (.taskDelay 2), .pendSV, .call (.taskDelay 1), .pendSV,
        .call (.mutexLock (some 0) 0), .tick, .pendSV, .resume, .call (.mutexLock (some 1) 0),
        .call (.mutexLock (some 0) osWaitForever), .pendSV, .tick, .pendSV, .resume]
      (fun l => decide (UserBlocks l))
      (fun s => nextOwner s.kernel 2 == some 1 && s.kernel.taskCount == 4 &&
        s.kernel.currentTask == 3 && (s.kernel.mutexes 1).owner == some 2 &&
        s.kernel.current.currentState == .running &&
        ([0, 1, 2, 3].all fun t => scanOwner s.kernel t == s.kernel.eff t) &&
        [0, 1, 2, 3].all fun t =>
          (nextOwner (waitlistBlockCurrent s.kernel (.mutex 1) osWaitForever .mutex).1 t).all
            (· < t)) = true := by
    decide +kernel
  obtain ⟨trace, s, hReaches, _, hUser, hFinal⟩ := reaches_of_checkBoot hCheck
  simp only [Bool.and_eq_true, beq_iff_eq, List.all_cons, List.all_nil] at hFinal
  obtain ⟨⟨⟨⟨⟨⟨hChain, hCount⟩, hCurrent⟩, hOwner⟩, hRuns⟩, h₀, h₁, h₂, h₃, _⟩, hDown⟩ := hFinal
  have hConsistent := (hReaches.locks fun l hl => of_decide_eq_true (hUser l hl)).consistent
  have hCaller : s.kernel.currentTask < s.kernel.taskCount := by
    rw [hCurrent, hCount]
    decide
  have hFree : s.kernel.current.currentState ≠ .blocked := by
    rw [hRuns]
    simp
  have hExact : ∀ x, x < s.kernel.taskCount → InheritsAt s.kernel x := by
    intro x hx
    apply hConsistent.inheritsAt_of_scan
    rw [hCount] at hx
    match x, hx with
    | 0, _ => exact h₀
    | 1, _ => exact h₁
    | 2, _ => exact h₂
    | 3, _ => exact h₃
  have hAcyclic : AcyclicWaits
      (waitlistBlockCurrent s.kernel (.mutex 1) osWaitForever .mutex).1 := by
    rw [hConsistent.waitlistBlockCurrent_eq hCaller hFree] at hDown ⊢
    have hWaits : Consistent (enqueueCurrent s.kernel (.mutex 1) osWaitForever .mutex) :=
      hConsistent.afterEnqueue hCaller hFree
    refine acyclic_of_rank (fun t => t) fun a b hab => ?_
    have hLt := (hWaits.next_lt hab).1
    rw [taskCount_enqueueCurrent, hCount] at hLt
    obtain ⟨hDown₀, hDown₁, hDown₂, hDown₃, _⟩ := hDown
    have hEach : (nextOwner (enqueueCurrent s.kernel (.mutex 1) osWaitForever .mutex) a).all
        (· < a) = true := by
      match a, hLt with
      | 0, _ => exact hDown₀
      | 1, _ => exact hDown₁
      | 2, _ => exact hDown₂
      | 3, _ => exact hDown₃
    rw [hab] at hEach
    exact of_decide_eq_true hEach
  obtain ⟨donated, waits, hDonated, hWaits, hSame, hOn, _⟩ := donation_agrees hConsistent hExact
    hCaller hFree hOwner (by rw [hCurrent]; decide) hAcyclic
  exact ⟨trace, s, donated, waits, hReaches, hChain, hDonated, hWaits, hSame, hOn⟩

end KoRTOS
