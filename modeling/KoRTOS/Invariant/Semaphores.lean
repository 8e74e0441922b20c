import KoRTOS.Invariant.Sound

/-!
# Semaphore traffic

What a piece of code does to the count and the waiters of one semaphore.
-/

namespace KoRTOS

def Piece.usesSem (i : SemId) : Piece → Bool
  | .call (.semWait (some j) _) => j == i
  | .call (.semPost (some j)) => j == i
  | .rest (.semWait j) => j == i
  | _ => false

inductive SemEffect (k : Kernel) (i : SemId) (k' : Kernel) : Piece → Flow → Prop
  | take {n} (hToken : 0 < k.tokens i) (hTokens : k'.tokens i = k.tokens i - 1)
      (hWaiters : k'.waiters (.sem i) = k.waiters (.sem i)) :
      SemEffect k i k' (.call (.semWait (some i) n)) (.ret .ok)
  | refuse {n} (hTokens : k'.tokens i = k.tokens i)
      (hWaiters : k'.waiters (.sem i) = k.waiters (.sem i)) :
      SemEffect k i k' (.call (.semWait (some i) n)) (.ret .unavailable)
  | wait {n} (hEmpty : k.tokens i = 0) (hTokens : k'.tokens i = k.tokens i)
      (hWaiters : k'.waiters (.sem i) = k.waiters (.sem i) ++ [k.currentTask]) :
      SemEffect k i k' (.call (.semWait (some i) n)) (.suspended (.semWait i))
  | add (hNone : k.waiters (.sem i) = []) (hTokens : k'.tokens i = (k.tokens i + 1) % 2 ^ 8)
      (hWaiters : k'.waiters (.sem i) = k.waiters (.sem i)) :
      SemEffect k i k' (.call (.semPost (some i))) (.ret .ok)
  | release {t} (hMem : t ∈ k.waiters (.sem i)) (hTokens : k'.tokens i = k.tokens i)
      (hWaiters : k'.waiters (.sem i) = (k.waiters (.sem i)).erase t) :
      SemEffect k i k' (.call (.semPost (some i))) (.ret .ok)
  | woken (hTokens : k'.tokens i = k.tokens i)
      (hWaiters : k'.waiters (.sem i) = k.waiters (.sem i)) :
      SemEffect k i k' (.rest (.semWait i)) (.ret (timeoutResult k))
  | other {piece f} (hPiece : piece.usesSem i = false) (hRest : f.rest ≠ some (.semWait i))
      (hTokens : k'.tokens i = k.tokens i)
      (hWaiters : k'.waiters (.sem i) = k.waiters (.sem i)) : SemEffect k i k' piece f

section Frame

variable {k k' : Kernel} {i j : SemId} {t : TaskId} {w : WaitlistRef} {piece : Piece} {f : Flow}

theorem tokens_congr (h : k'.semaphores = k.semaphores) : k'.tokens = k.tokens := by
  funext i
  rw [Kernel.tokens, h, Kernel.tokens]

theorem tokens_enqueueCurrent {n : U32} {reason : BlockReason} :
    (enqueueCurrent k w n reason).tokens = k.tokens := by
  simp [enqueueCurrent]

theorem tokens_handOff {m : MutexId} {p : Nat} : (handOff k m p t).tokens = k.tokens := by
  have hRecompute := fun k o => tokens_congr (Reranked.mutexRecomputeOwnerPriority k o).semaphores
  have hGive : ∀ k, (giveMutex k m t).tokens = k.tokens := fun _ => rfl
  rw [handOff_eq, hRecompute, hGive, hRecompute, releaseOwned, releaseTask_eq,
    tokens_leaveWaitlist]
  rfl

theorem tokens_takeToken :
    (takeToken k j).tokens i = if i = j then k.tokens i - 1 else k.tokens i := by
  unfold Kernel.tokens takeToken Kernel.setSemaphore
  by_cases h : i = j
  · simp [h]
  · simp [h]

theorem tokens_addToken :
    (addToken k j).tokens i = if i = j then (k.tokens i + 1) % 2 ^ 8 else k.tokens i := by
  unfold Kernel.tokens addToken Kernel.setSemaphore
  by_cases h : i = j
  · simp [h]
  · simp [h]

theorem Traffic.tokens {data : List U8} (h : Traffic k piece w k' data) :
    k'.tokens = k.tokens := by
  cases h <;> rfl

theorem Traffic.sem {data : List U8} (h : Traffic k piece (.sem j) k' data) :
    piece = .call (.semPost (some j)) ∧ k' = k ∧ data = [] := by
  cases h
  exact ⟨rfl, rfl, rfl⟩

theorem Traffic.usesSem {data : List U8} (h : Traffic k piece w k' data) (hw : w ≠ .sem i) :
    piece.usesSem i = false := by
  cases h with
  | post => exact beq_eq_false_iff_ne.mpr fun hEq => hw (congrArg _ hEq)
  | push hPiece => cases hPiece <;> rfl
  | pop hPiece => cases hPiece <;> rfl

theorem Refused.usesSem {err : OsErr} (h : Refused k piece err) (hWaiting : Waiting k) :
    (∃ n, piece = .call (.semWait (some i) n) ∧ err = .unavailable) ∨
      (piece = .rest (.semWait i) ∧ err = timeoutResult k) ∨ piece.usesSem i = false := by
  cases h with
  | @semEmpty j =>
    by_cases hEq : j = i
    · subst hEq
      exact .inl ⟨_, rfl, rfl⟩
    · exact .inr (.inr (beq_eq_false_iff_ne.mpr hEq))
  | @semOver j =>
    by_cases hEq : j = i
    · subst hEq
      exact .inr (.inl ⟨rfl, rfl⟩)
    · exact .inr (.inr (beq_eq_false_iff_ne.mpr hEq))
  | sendFull hPiece => cases hPiece <;> exact .inr (.inr rfl)
  | recvEmpty hPiece => cases hPiece <;> exact .inr (.inr rfl)
  | listFull _ hFull => exact absurd hWaiting.waitCount_lt (Nat.not_lt.mpr hFull)
  | _ => exact .inr (.inr rfl)

theorem Traffic.semEffect {p : Nat} {data : List U8} (h : Waiting k)
    (hTraffic : Traffic k piece w k' data) (hChosen : Chosen k' w p t) :
    SemEffect k i (releaseTask k' w p t).portYield piece (.returned .ok data) := by
  have hWaiting := h.congr hTraffic.quiet.sameBlocking
  have hTokens : (releaseTask k' w p t).portYield.tokens i = k.tokens i := by
    rw [Kernel.tokens_portYield, releaseTask_eq, tokens_leaveWaitlist, hTraffic.tokens]
  by_cases hEq : w = .sem i
  · subst hEq
    obtain ⟨rfl, rfl, rfl⟩ := hTraffic.sem
    obtain ⟨hp, ht⟩ := h.listed.chosen hChosen
    exact .release (ht ▸ List.getElem_mem hp) hTokens
      (by rw [waiters_releaseTask h hChosen, if_pos rfl])
  · refine .other (hTraffic.usesSem hEq) (by simp [Flow.rest]) hTokens ?_
    rw [waiters_releaseTask hWaiting hChosen, if_neg (Ne.symm hEq), hTraffic.quiet.waiters]

theorem Blocks.semEffect {n : U32} {rest : Pending} (h : Waiting k)
    (hBlocks : Blocks k piece w n rest) :
    SemEffect k i (enqueueCurrent k w n w.blockReason) piece (.suspended rest) := by
  have hTokens : (enqueueCurrent k w n w.blockReason).tokens i = k.tokens i :=
    congrFun tokens_enqueueCurrent i
  have hWaiters : (enqueueCurrent k w n w.blockReason).waiters (.sem i) =
      if WaitlistRef.sem i = w then k.waiters w ++ [k.currentTask] else k.waiters (.sem i) := by
    rw [waiters_enqueueCurrent h.listed, Function.update_apply]
  cases hBlocks with
  | @sem j _ hEmpty =>
    by_cases hEq : i = j
    · subst hEq
      rw [if_pos rfl] at hWaiters
      exact .wait hEmpty hTokens hWaiters
    · rw [if_neg (by simpa using hEq)] at hWaiters
      exact .other (beq_eq_false_iff_ne.mpr (Ne.symm hEq))
        (by simpa [Flow.rest] using Ne.symm hEq) hTokens hWaiters
  | send hPiece =>
    rw [if_neg (by simp)] at hWaiters
    cases hPiece <;> exact .other rfl (by simp [Flow.rest]) hTokens hWaiters
  | recv hPiece =>
    rw [if_neg (by simp)] at hWaiters
    cases hPiece <;> exact .other rfl (by simp [Flow.rest]) hTokens hWaiters

theorem Section.semEffect (h : Waiting k) (hs : Section k piece k' f) :
    SemEffect k i k' piece f := by
  cases hs with
  | refuse hErr =>
    rcases hErr.usesSem (i := i) h with ⟨n, rfl, rfl⟩ | ⟨rfl, rfl⟩ | hOther
    · exact .refuse rfl rfl
    · exact .woken rfl rfl
    · exact .other hOther (by simp [Flow.rest, Flow.ret]) rfl rfl
  | @take j n hCount =>
    have hWaiters := congrFun (quiet_takeToken (k := k) (i := j)).waiters (.sem i)
    by_cases hEq : i = j
    · subst hEq
      exact .take hCount (by rw [tokens_takeToken, if_pos rfl]) hWaiters
    · exact .other (beq_eq_false_iff_ne.mpr (Ne.symm hEq)) (by simp [Flow.rest, Flow.ret])
        (by rw [tokens_takeToken, if_neg hEq]) hWaiters
  | @post j hEmpty =>
    have hWaiters := congrFun (quiet_addToken (k := k) (i := j)).waiters (.sem i)
    by_cases hEq : i = j
    · subst hEq
      have hNone : k.waiters (.sem i) = [] :=
        List.length_eq_zero_iff.mp (h.waitCount_eq ▸ hEmpty)
      exact .add hNone (by rw [tokens_addToken, if_pos rfl]) hWaiters
    · exact .other (beq_eq_false_iff_ne.mpr (Ne.symm hEq)) (by simp [Flow.rest, Flow.ret])
        (by rw [tokens_addToken, if_neg hEq]) hWaiters
  | @serve _ w _ _ hTraffic hQueue hEmpty =>
    have hOther := hTraffic.usesSem (i := i) fun hEq => hQueue i hEq
    exact .other hOther (by simp [Flow.rest]) (congrFun hTraffic.tokens i)
      (congrFun hTraffic.quiet.waiters _)
  | wake hTraffic hChosen => exact hTraffic.semEffect h hChosen
  | acquire =>
    exact .other rfl (by simp [Flow.rest, Flow.ret]) rfl (congrFun acquire_blocking.waiters _)
  | free =>
    exact .other rfl (by simp [Flow.rest, Flow.ret]) rfl (congrFun free_blocking.waiters _)
  | @handOff m p t _ hChosen =>
    refine .other rfl (by simp [Flow.rest, Flow.ret]) (congrFun tokens_handOff i) ?_
    rw [(SameShape.portYield _).waiters, handOff_blocking.waiters,
      waiters_leaveWaitlist h (h.listed.chosen hChosen), Function.update_of_ne (by simp)]
  | delay =>
    refine .other rfl (by simp [Flow.rest]) rfl ?_
    rw [delayCurrent, (SameShape.portYield _).waiters, Kernel.waiters, Kernel.waitlist_modifyTask,
      Kernel.waiters]
  | block hBlocks => exact hBlocks.semEffect h
  | @lockBlock m n =>
    have hRanks := Reranked.mutexDonatePriority k (k.mutexes m).owner
    refine .other rfl (by simp [Flow.rest]) ?_ ?_
    · rw [tokens_enqueueCurrent, tokens_congr hRanks.semaphores]
    · rw [waiters_enqueueCurrent (h.congr hRanks.sameBlocking).listed,
        Function.update_of_ne (by simp), hRanks.waiters]
  | lockFull _ _ _ hFull => exact absurd h.waitCount_lt (Nat.not_lt.mpr hFull)
  | stage => exact .other rfl (by simp [Flow.rest]) rfl rfl
  | write =>
    have hRanks := Reranked.setEffectivePriority k
    exact .other rfl (by simp [Flow.rest]) rfl (congrFun (hRanks _ _).waiters _)

end Frame
end KoRTOS
