import KoRTOS.Evaluation
import KoRTOS.Property.QueueFifo
import Mathlib.Data.Finset.Card

/-!
# No wake-up of a queue is lost

Each receive makes room for one sender and wakes one, each send makes an item
for one receiver and wakes one. A woken task finds the queue as others have left
it. As long as somebody waits on one side, there are no more openings on that
side than tasks that have been woken for them and have not looked yet.
-/

namespace KoRTOS

/-- The free slots of a queue, for its senders, and the items, for its receivers. -/
def openings (k : Kernel) : WaitlistRef → Nat
  | .queueSend q => (k.queues q).maxItems - (k.queues q).count
  | .queueRecv q => (k.queues q).count
  | _ => 0

/-- The tasks that were released from waitlist `w`, not by a time-out, and have not gone on
with their call since. -/
def onTheWay (s : Sys) (w : WaitlistRef) : Finset TaskId :=
  (Finset.range osMaxTasks).filter fun t =>
    (s.pending t).bind Pending.waitsOn = some w ∧ s.kernel.blockedOn t = none ∧
      (s.kernel.userTasks t).timeout = false

/-- While tasks wait to send, every free slot has a sender on the way to it, and while tasks
wait to receive, every item has a receiver on the way to it. -/
structure NoLostWakeup (q : QueueId) (s : Sys) : Prop where
  send : (s.kernel.queues q).sendWaitlist.waitCount ≠ 0 →
    (s.kernel.queues q).maxItems - (s.kernel.queues q).count ≤ (onTheWay s (.queueSend q)).card
  recv : (s.kernel.queues q).recvWaitlist.waitCount ≠ 0 →
    (s.kernel.queues q).count ≤ (onTheWay s (.queueRecv q)).card

def Rechecks (k : Kernel) (w : WaitlistRef) (piece : Piece) : Prop :=
  ∃ rest, piece = .rest rest ∧ rest.waitsOn = some w ∧ k.current.timeout = false

inductive Service (k : Kernel) (w : WaitlistRef) (k' : Kernel) (piece : Piece) : Prop
  | closed (hNone : openings k' w = 0)
  | used (hUsed : openings k' w + 1 ≤ openings k w) (hWaiters : k'.waiters w = k.waiters w)
  | kept (hSame : openings k' w ≤ openings k w) (hPiece : ¬ Rechecks k w piece)
      (hWaiters : k'.waiters w ≠ [] → k.waiters w ≠ [])
  | nobody (hWaiters : k'.waiters w = [])
  | served {t} (hOpened : openings k' w ≤ openings k w + 1) (hPiece : ¬ Rechecks k w piece)
      (hMem : t ∈ k.waiters w) (hLeft : t ∉ k'.waiters w)

section Pieces

variable {k k' : Kernel} {w v : WaitlistRef} {piece : Piece} {f : Flow} {q : QueueId}
  {n d : U32} {item : Nat → U8} {data : List U8}

theorem openings_congr (h : k'.content = k.content) : openings k' = openings k := by
  funext w
  cases w with
  | queueSend q =>
    have hMax : (k'.content q).maxItems = (k.content q).maxItems := by rw [h]
    have hCount : (k'.content q).count = (k.content q).count := by rw [h]
    exact congrArg₂ (· - ·) hMax hCount
  | queueRecv q =>
    have hCount : (k'.content q).count = (k.content q).count := by rw [h]
    exact hCount
  | _ => rfl

theorem Sending.not_rechecks (h : Sending k piece q item n d) (hw : w ≠ .queueSend q) :
    ¬ Rechecks k w piece := by
  rintro ⟨rest, hPiece, hWaits, _⟩
  cases h with
  | call => cases hPiece
  | rest =>
    cases hPiece
    exact hw (Option.some.inj hWaits).symm

theorem Receiving.not_rechecks (h : Receiving k piece q n d) (hw : w ≠ .queueRecv q) :
    ¬ Rechecks k w piece := by
  rintro ⟨rest, hPiece, hWaits, _⟩
  cases h with
  | call => cases hPiece
  | rest =>
    cases hPiece
    exact hw (Option.some.inj hWaits).symm

theorem openings_setQueue {queue : Queue} (hSend : w ≠ .queueSend q) (hRecv : w ≠ .queueRecv q) :
    openings (k.setQueue q queue) w = openings k w := by
  cases w with
  | queueSend p =>
    have hne : p ≠ q := fun h => hSend (congrArg WaitlistRef.queueSend h)
    simp [openings, Kernel.setQueue, hne]
  | queueRecv p =>
    have hne : p ≠ q := fun h => hRecv (congrArg WaitlistRef.queueRecv h)
    simp [openings, Kernel.setQueue, hne]
  | _ => rfl

theorem openings_push_send (hRoom : (k.queues q).count < (k.queues q).maxItems)
    (hSmall : (k.queues q).maxItems < 2 ^ 32) :
    openings (k.setQueue q ((k.queues q).pushItem item)) (.queueSend q) + 1 ≤
      openings k (.queueSend q) := by
  simp only [openings, Kernel.setQueue, Function.update_self, Queue.pushItem]
  omega

theorem openings_push_recv :
    openings (k.setQueue q ((k.queues q).pushItem item)) (.queueRecv q) ≤
      openings k (.queueRecv q) + 1 := by
  simp only [openings, Kernel.setQueue, Function.update_self, Queue.pushItem]
  exact Nat.mod_le _ _

theorem openings_pop_send :
    openings (k.setQueue q (k.queues q).popItem) (.queueSend q) ≤
      openings k (.queueSend q) + 1 := by
  simp only [openings, Kernel.setQueue, Function.update_self, Queue.popItem]
  omega

theorem openings_pop_recv (hItem : (k.queues q).count ≠ 0) :
    openings (k.setQueue q (k.queues q).popItem) (.queueRecv q) + 1 ≤
      openings k (.queueRecv q) := by
  simp only [openings, Kernel.setQueue, Function.update_self, Queue.popItem]
  omega

/-- Traffic takes an opening on its own side and makes one on the side it serves. -/
theorem Traffic.openings (h : Traffic k piece v k' data)
    (hSmall : ∀ q, w = .queueSend q → (k.queues q).maxItems < 2 ^ 32) :
    (w ≠ v ∧ openings k' w + 1 ≤ openings k w) ∨
      (openings k' w ≤ openings k w + (if w = v then 1 else 0) ∧ ¬ Rechecks k w piece) := by
  cases h with
  | post =>
    right
    refine ⟨Nat.le_add_right _ _, ?_⟩
    rintro ⟨_, hPiece, _⟩
    cases hPiece
  | @push _ q _ _ _ hPiece hRoom =>
    by_cases hSend : w = .queueSend q
    · subst hSend
      exact .inl ⟨by simp, openings_push_send hRoom (hSmall q rfl)⟩
    · right
      refine ⟨?_, hPiece.not_rechecks hSend⟩
      split
      · rename_i hRecv
        rw [hRecv]
        exact openings_push_recv
      · rename_i hRecv
        exact (openings_setQueue hSend hRecv).le
  | @pop _ q _ _ hPiece hItem =>
    by_cases hRecv : w = .queueRecv q
    · subst hRecv
      exact .inl ⟨by simp, openings_pop_recv hItem⟩
    · right
      refine ⟨?_, hPiece.not_rechecks hRecv⟩
      split
      · rename_i hSend
        rw [hSend]
        exact openings_pop_send
      · rename_i hSend
        exact (openings_setQueue hSend hRecv).le

theorem Blocks.openings {rest : Pending} (h : Blocks k piece w n rest) : openings k w = 0 := by
  cases h with
  | sem => rfl
  | send _ hFull => exact Nat.sub_eq_zero_of_le hFull
  | recv _ hEmpty => exact hEmpty

theorem Blocks.not_rechecks {rest : Pending} (h : Blocks k piece v n rest) (hw : w ≠ v) :
    ¬ Rechecks k w piece := by
  cases h with
  | sem =>
    rintro ⟨_, hPiece, _⟩
    cases hPiece
  | send hPiece => exact hPiece.not_rechecks hw
  | recv hPiece => exact hPiece.not_rechecks hw

theorem Refused.openings {err : OsErr} (h : Refused k piece err) (hPiece : Rechecks k w piece) :
    openings k w = 0 := by
  have hBlocks : ∀ {v n rest}, Blocks k piece v n rest → KoRTOS.openings k w = 0 := by
    intro v n rest hBlocks
    by_cases hw : w = v
    · subst hw
      exact hBlocks.openings
    · exact absurd hPiece (hBlocks.not_rechecks hw)
  cases h with
  | @sendFull _ q _ _ _ hSending hFull =>
    by_cases hw : w = .queueSend q
    · subst hw
      exact Nat.sub_eq_zero_of_le hFull
    · exact absurd hPiece (hSending.not_rechecks hw)
  | @recvEmpty _ q _ _ hReceiving hEmpty =>
    by_cases hw : w = .queueRecv q
    · subst hw
      exact hEmpty
    · exact absurd hPiece (hReceiving.not_rechecks hw)
  | listFull h => exact hBlocks h
  | delayOver =>
    obtain ⟨_, hRest, hWaits, _⟩ := hPiece
    cases hRest
    cases hWaits
  | semOver =>
    obtain ⟨_, hRest, hWaits, _⟩ := hPiece
    cases hRest
    cases hWaits
    rfl
  | lockOver =>
    obtain ⟨_, hRest, hWaits, _⟩ := hPiece
    cases hRest
    cases hWaits
  | lockFailed hErr =>
    obtain ⟨_, hRest, hWaits, _⟩ := hPiece
    cases hRest
    simp [Pending.waitsOn] at hWaits
  | sendOver hTimeout =>
    obtain ⟨_, _, _, hNot⟩ := hPiece
    exact absurd (hTimeout.symm.trans hNot) (by simp)
  | recvOver hTimeout =>
    obtain ⟨_, _, _, hNot⟩ := hPiece
    exact absurd (hTimeout.symm.trans hNot) (by simp)
  | _ =>
    obtain ⟨_, hCall, _⟩ := hPiece
    cases hCall

theorem not_rechecks_call {c : ApiCall} : ¬ Rechecks k w (.call c) := by
  rintro ⟨_, hPiece, _⟩
  cases hPiece

theorem Service.quiet (hContent : k'.content = k.content) (hPiece : ¬ Rechecks k w piece)
    (hWaiters : k'.waiters w = k.waiters w) : Service k w k' piece :=
  .kept (by rw [openings_congr hContent]) hPiece fun h => hWaiters ▸ h

theorem service_of_unserved (hTraffic : Traffic k piece v k' data)
    (hSmall : ∀ q, w = .queueSend q → (k.queues q).maxItems < 2 ^ 32)
    (hEmpty : (k'.waitlist v).waitCount = 0) : Service k w k' piece := by
  have hWaiters : k'.waiters w = k.waiters w := congrFun hTraffic.quiet.waiters w
  by_cases hw : w = v
  · subst hw
    refine .nobody ?_
    rw [Kernel.waiters, Waitlist.tasks, hEmpty]
    rfl
  · rcases hTraffic.openings hSmall with ⟨_, hUsed⟩ | ⟨hSame, hPiece⟩
    · exact .used hUsed hWaiters
    · rw [if_neg hw] at hSame
      exact .kept hSame hPiece fun hne => hWaiters ▸ hne

theorem service_of_served {j : Nat} {t : TaskId} (h : Waiting k)
    (hTraffic : Traffic k piece v k' data)
    (hSmall : ∀ q, w = .queueSend q → (k.queues q).maxItems < 2 ^ 32)
    (hChosen : Chosen k' v j t) : Service k w (releaseTask k' v j t).portYield piece := by
  have hWaiting : Waiting k' := h.congr hTraffic.quiet.sameBlocking
  have hOpenings : openings (releaseTask k' v j t).portYield = openings k' :=
    openings_congr (by simp [releaseTask_eq])
  have hBefore : k'.waiters = k.waiters := hTraffic.quiet.waiters
  have hAfter : (releaseTask k' v j t).portYield.waiters w = _ :=
    waiters_releaseTask hWaiting hChosen
  by_cases hw : w = v
  · subst hw
    rcases hTraffic.openings hSmall with ⟨hOther, _⟩ | ⟨hSame, hPiece⟩
    · exact absurd rfl hOther
    · obtain ⟨hj, hAt⟩ := hWaiting.listed.chosen hChosen
      rw [if_pos rfl] at hAfter hSame
      refine .served (t := t) (hOpenings ▸ hSame) hPiece ?_ ?_
      · rw [← hBefore, ← hAt]
        exact List.getElem_mem hj
      · rw [hAfter]
        exact (hWaiting.fibers.nodup w).not_mem_erase
  · rw [if_neg hw, hBefore] at hAfter
    rcases hTraffic.openings hSmall with ⟨_, hUsed⟩ | ⟨hSame, hPiece⟩
    · exact .used (hOpenings ▸ hUsed) hAfter
    · rw [if_neg hw] at hSame
      exact .kept (hOpenings ▸ hSame) hPiece fun hne => hAfter ▸ hne

/-- What a piece of code does to the waitlist of one side of a queue. -/
theorem Section.service (h : Waiting k) (hs : Section k piece k' f)
    (hSmall : ∀ q, w = .queueSend q → (k.queues q).maxItems < 2 ^ 32) :
    Service k w k' piece := by
  by_cases hNone : openings k' w = 0
  · exact .closed hNone
  have hMutex : ∀ i, w ≠ .mutex i := by
    rintro i rfl
    exact hNone rfl
  have hLock : ∀ i r st, ¬ Rechecks k w (.rest (.mutexLock i r st)) := by
    rintro i r st ⟨_, hPiece, hWaits, _⟩
    cases hPiece
    simp only [Pending.waitsOn] at hWaits
    split at hWaits
    · exact hMutex i (Option.some.inj hWaits).symm
    · cases hWaits
  cases hs with
  | refuse hRefused =>
    exact .kept le_rfl (fun hPiece => hNone (hRefused.openings hPiece)) id
  | take => exact .quiet rfl not_rechecks_call (congrFun quiet_takeToken.waiters w)
  | post => exact .quiet rfl not_rechecks_call (congrFun quiet_addToken.waiters w)
  | serve hTraffic _ hEmpty => exact service_of_unserved hTraffic hSmall hEmpty
  | wake hTraffic hChosen => exact service_of_served h hTraffic hSmall hChosen
  | acquire => exact .quiet rfl not_rechecks_call (congrFun acquire_blocking.waiters w)
  | free => exact .quiet rfl not_rechecks_call (congrFun free_blocking.waiters w)
  | @handOff i j t _ hChosen =>
    refine .quiet content_handOff not_rechecks_call ?_
    have hWaiters : (KoRTOS.handOff k i j t).waiters = _ := handOff_blocking.waiters
    rw [(SameShape.portYield _).waiters, hWaiters, waiters_leaveWaitlist h (h.listed.chosen hChosen),
      Function.update_of_ne (hMutex i)]
  | delay => exact .quiet rfl not_rechecks_call (congrArg Waitlist.tasks (by simp [delayCurrent]))
  | @block _ v _ _ hBlocks =>
    by_cases hw : w = v
    · subst hw
      rw [openings_congr content_enqueueCurrent] at hNone
      exact absurd hBlocks.openings hNone
    · refine .quiet content_enqueueCurrent (hBlocks.not_rechecks hw) ?_
      rw [waiters_enqueueCurrent h.listed, Function.update_of_ne hw]
  | @lockBlock i _ _ _ _ =>
    have hReranked := Reranked.mutexDonatePriority k (k.mutexes i).owner
    have hWaiting := h.congr hReranked.sameBlocking
    refine .quiet ?_ not_rechecks_call ?_
    · rw [content_enqueueCurrent, content_congr hReranked.queues]
    · rw [waiters_enqueueCurrent hWaiting.listed, Function.update_of_ne (hMutex i),
        hReranked.waiters]
  | @lockFull i _ _ _ _ _ =>
    have hReranked := Reranked.mutexDonatePriority k (k.mutexes i).owner
    exact .quiet (content_congr hReranked.queues) not_rechecks_call (congrFun hReranked.waiters w)
  | stage => exact .quiet rfl (hLock _ _ _) rfl
  | @write _ _ o _ v =>
    have hReranked := Reranked.setEffectivePriority k o v
    exact .quiet (content_congr hReranked.queues) (hLock _ _ _) (congrFun hReranked.waiters w)

end Pieces

/-- While somebody waits, there are no more openings than tasks on the way. -/
def Wakeups (s : Sys) : Prop :=
  ∀ w, s.kernel.waiters w ≠ [] → openings s.kernel w ≤ (onTheWay s w).card

/-- `s'` is what a piece of code makes of `s`, run by the current task or by a handler. -/
structure Ran (s : Sys) (piece : Piece) (f : Flow) (s' : Sys) : Prop where
  code : Section s.kernel piece s'.kernel f
  others : ∀ t, t ≠ s.kernel.currentTask → s'.pending t = s.pending t
  current :
    (f.rest = none ∧ s'.pending s.kernel.currentTask = s.pending s.kernel.currentTask) ∨
    (s.kernel.current.currentState ≠ .blocked ∧
      ∀ rest, s.pending s.kernel.currentTask = some rest → piece = .rest rest)

section Counting

variable {s s' : Sys} {piece : Piece} {f : Flow} {w : WaitlistRef} {t : TaskId} {e : Event}
  {out : Option Ret}

theorem mem_onTheWay : t ∈ onTheWay s w ↔ t < osMaxTasks ∧
    (s.pending t).bind Pending.waitsOn = some w ∧ s.kernel.blockedOn t = none ∧
      (s.kernel.userTasks t).timeout = false := by
  rw [onTheWay, Finset.mem_filter, Finset.mem_range]

theorem Ran.pending (h : Ran s piece f s') (hOn : t = s.kernel.currentTask →
      f.rest = none ∧ s'.pending s.kernel.currentTask = s.pending s.kernel.currentTask) :
    s'.pending t = s.pending t ∧ (f.rest ≠ none → t ≠ s.kernel.currentTask) := by
  by_cases ht : t = s.kernel.currentTask
  · obtain ⟨hRest, hSame⟩ := hOn ht
    subst ht
    exact ⟨hSame, fun hne => absurd hRest hne⟩
  · exact ⟨h.others t ht, fun _ => ht⟩

theorem Ran.stays (h : Ran s piece f s') (hWaiting : Waiting s.kernel)
    (ht : t ∈ onTheWay s w) (hPiece : t = s.kernel.currentTask → ¬ Rechecks s.kernel w piece) :
    t ∈ onTheWay s' w := by
  rw [mem_onTheWay] at ht ⊢
  obtain ⟨hLt, hCall, hFree, hTimeout⟩ := ht
  have hOn : t = s.kernel.currentTask → f.rest = none ∧
      s'.pending s.kernel.currentTask = s.pending s.kernel.currentTask := by
    rintro rfl
    rcases h.current with hIsr | ⟨_, hRun⟩
    · exact hIsr
    · obtain ⟨rest, hPending, hWaits⟩ := Option.bind_eq_some_iff.mp hCall
      exact absurd ⟨rest, hRun rest hPending, hWaits, hTimeout⟩ (hPiece rfl)
  obtain ⟨hSame, hne⟩ := h.pending hOn
  rw [hSame]
  have hTask := (h.code.reblocks hWaiting.listed).task hWaiting hne
  obtain ⟨hFree', hTimeout', _⟩ | ⟨v, hSome, _⟩ := hTask
  · exact ⟨hLt, hCall, hFree'.trans hFree, hTimeout'.trans hTimeout⟩
  · exact absurd (hSome.symm.trans hFree) (by simp)

theorem Ran.joins (h : Ran s piece f s') (hSound : Sound s) (hMem : t ∈ s.kernel.waiters w)
    (hLeft : s'.kernel.blockedOn t ≠ some w) : t ∈ onTheWay s' w ∧ t ∉ onTheWay s w := by
  have hWaiting := hSound.waiting
  have hBlocked := hWaiting.mem_waiters.mp hMem
  obtain ⟨rest, hPending, hWaits⟩ := hSound.pending_waits hBlocked
  obtain ⟨_, hLt, hState, _⟩ := hWaiting.blocked hBlocked
  have hOn : t = s.kernel.currentTask → f.rest = none ∧
      s'.pending s.kernel.currentTask = s.pending s.kernel.currentTask := by
    rintro rfl
    rcases h.current with hIsr | ⟨hRun, _⟩
    · exact hIsr
    · exact absurd hState hRun
  obtain ⟨hSame, hne⟩ := h.pending hOn
  rw [mem_onTheWay, mem_onTheWay, hSame]
  constructor
  · have hTask := (h.code.reblocks hWaiting.listed).task hWaiting hne
    obtain ⟨hStill, _⟩ | ⟨_, _, hFree, hTimeout, _⟩ := hTask
    · exact absurd (hStill.trans hBlocked) hLeft
    · exact ⟨hLt.trans_le hWaiting.taskCount_le, by simp [hPending, hWaits], hFree, hTimeout⟩
  · rintro ⟨_, _, hFree, _⟩
    exact absurd (hBlocked.symm.trans hFree) (by simp)

theorem Ran.wakeups (h : Ran s piece f s') (hSound : Sound s) (hSound' : Sound s')
    (hService : Service s.kernel w s'.kernel piece)
    (hOld : s.kernel.waiters w ≠ [] → openings s.kernel w ≤ (onTheWay s w).card)
    (hNew : s'.kernel.waiters w ≠ []) : openings s'.kernel w ≤ (onTheWay s' w).card := by
  have hWaiting := hSound.waiting
  cases hService with
  | closed hNone =>
    rw [hNone]
    exact Nat.zero_le _
  | used hUsed hWaiters =>
    have hErase : (onTheWay s w).erase s.kernel.currentTask ⊆ onTheWay s' w := by
      intro t ht
      obtain ⟨hne, ht⟩ := Finset.mem_erase.mp ht
      exact h.stays hWaiting ht fun hEq => absurd hEq hne
    have hCard := Finset.card_le_card hErase
    have hLess := Finset.pred_card_le_card_erase (s := onTheWay s w) (a := s.kernel.currentTask)
    have hBefore := hOld (hWaiters ▸ hNew)
    omega
  | kept hSame hPiece hWaiters =>
    have hCard := Finset.card_le_card fun t ht => h.stays (w := w) hWaiting ht fun _ => hPiece
    exact (hSame.trans (hOld (hWaiters hNew))).trans hCard
  | nobody hNobody => exact absurd hNobody hNew
  | @served t hOpened hPiece hMem hLeft =>
    obtain ⟨hJoined, hAbsent⟩ := h.joins hSound hMem fun hOn =>
      hLeft (hSound'.waiting.mem_waiters.mpr hOn)
    have hInsert : insert t (onTheWay s w) ⊆ onTheWay s' w := by
      intro u hu
      rcases Finset.mem_insert.mp hu with rfl | hu
      · exact hJoined
      · exact h.stays hWaiting hu fun _ => hPiece
    have hCard := Finset.card_le_card hInsert
    rw [Finset.card_insert_of_notMem hAbsent] at hCard
    have hBefore := hOld (List.ne_nil_of_mem hMem)
    omega

end Counting

section Runs

variable {s s' : Sys} {piece : Piece} {f : Flow} {w : WaitlistRef} {e : Event}
  {out : Option Ret} {k' : Kernel} {trace : List Label}

theorem ran_afterPiece (hSound : Sound s) (hRun : s.kernel.pendSV = false)
    (hSection : Section s.kernel piece k' f)
    (hPiece : ∀ rest, s.pending s.kernel.currentTask = some rest → piece = .rest rest) :
    Ran s piece f (s.afterPiece k' f) where
  code := hSection
  others t ht := by rw [pending_afterPiece hSection, if_neg ht]
  current := .inr ⟨hSound.current_free hRun, hPiece⟩

theorem ran_isr {err : OsErr} {data : List U8}
    (hSection : Section s.kernel piece k' (.returned err data)) :
    Ran s piece (.returned err data) { s with kernel := k' } where
  code := hSection
  others _ _ := rfl
  current := .inl ⟨rfl, rfl⟩

/-- Queues that are in use have their capacity in a `uint32_t`. -/
def Capacities (s : Sys) : Prop :=
  ∀ q, s.created.queue q = true → (s.kernel.queues q).maxItems < 2 ^ 32

theorem Wakeups.afterRan (h : Wakeups s) (hSound : Sound s) (hSound' : Sound s')
    (hSmall : Capacities s) (hCreated : s'.created = s.created) (hRan : Ran s piece f s') :
    Wakeups s' := by
  intro w hNew
  have hExists : s.created.has w = true := by
    cases hHas : s'.created.has w with
    | false => exact absurd (hSound'.waiters_absent hHas) hNew
    | true => rw [← hCreated, hHas]
  have hService := hRan.code.service (w := w) hSound.waiting (by
    rintro q rfl
    exact hSmall q hExists)
  exact hRan.wakeups hSound hSound' hService (h w) hNew

theorem Wakeups.congr (h : Wakeups s) (hQuiet : Quiet s.kernel k')
    (hContent : k'.content = s.kernel.content) : Wakeups { s with kernel := k' } := by
  intro w hNew
  have hWay : onTheWay { s with kernel := k' } w = onTheWay s w := by
    simp only [onTheWay, hQuiet.blockedOn, hQuiet.timeout]
  dsimp only at hNew ⊢
  rw [hWay, openings_congr hContent]
  exact h w (hQuiet.waiters ▸ hNew)

theorem onTheWay_afterTick (hSound : Sound s) :
    onTheWay s w ⊆ onTheWay { s with kernel := osTick s.kernel } w := by
  intro t ht
  rw [mem_onTheWay] at ht ⊢
  obtain ⟨hLt, hCall, hFree, hTimeout⟩ := ht
  obtain ⟨rest, hPending, hWaits⟩ := Option.bind_eq_some_iff.mp hCall
  have hReady : (s.kernel.userTasks t).currentState ≠ .blocked := by
    apply hSound.not_blocked hPending
    · rintro rfl
      cases hWaits
    · exact hFree
  have hSame : (osTick s.kernel).userTasks t = s.kernel.userTasks t := by
    rcases hSound.waiting.updateTickCount.ticked_unblockTasks.tasks t with hSame | ⟨hReached, _⟩
    · exact hSame
    · exact absurd hReached.1 hReady
  refine ⟨hLt, hCall, ?_, ?_⟩
  · dsimp only
    rw [Kernel.blockedOn, hSame]
    exact hFree
  · dsimp only
    rw [hSame]
    exact hTimeout

theorem Wakeups.afterTick (h : Wakeups s) (hSound : Sound s) :
    Wakeups { s with kernel := osTick s.kernel } := by
  intro w hNew
  have hTicked := hSound.waiting.updateTickCount.ticked_unblockTasks
  have hOld : s.kernel.waiters w ≠ [] := by
    intro hEmpty
    have hSublist : ((osTick s.kernel).waiters w).Sublist (s.kernel.waiters w) := hTicked.waiters w
    rw [hEmpty, List.sublist_nil] at hSublist
    exact hNew hSublist
  dsimp only
  rw [openings_congr content_osTick]
  exact (h w hOld).trans (Finset.card_le_card (onTheWay_afterTick hSound))

theorem Wakeups.afterPendSV (h : Wakeups s) :
    Wakeups { s with kernel := pendSVHandler s.kernel } := by
  intro w hNew
  have hSame : SameButStates { s.kernel with pendSV := false } (pendSVHandler s.kernel) :=
    sameButStates_osScheduleNextTask
  have hWay : onTheWay { s with kernel := pendSVHandler s.kernel } w = onTheWay s w := by
    simp only [onTheWay, hSame.blockedOn, hSame.timeout]
    rfl
  have hOld : s.kernel.waiters w ≠ [] := by
    rw [show s.kernel.waiters w = (pendSVHandler s.kernel).waiters w from
      (congrFun hSame.waiters w).symm]
    exact hNew
  dsimp only
  rw [hWay, openings_congr (content_congr hSame.queues)]
  exact h w hOld

theorem onTheWay_afterCreate {c : CreateCall} {err : OsErr} (hSound : Sound s)
    (hCreation : Creation s.kernel c k' err) :
    onTheWay s w ⊆ onTheWay (s.afterCreate c k' err) w := by
  intro t ht
  rw [mem_onTheWay] at ht ⊢
  obtain ⟨hLt, hCall, hFree, hTimeout⟩ := ht
  obtain ⟨rest, hPending, _⟩ := Option.bind_eq_some_iff.mp hCall
  have hSame := userTasks_creation_old hCreation (hSound.pending_user hPending).2
  refine ⟨hLt, hCall, ?_, ?_⟩
  · exact (congrFun (blockedOn_creation hSound.waiting hCreation) t).trans hFree
  · exact (congrArg Tcb.timeout hSame).trans hTimeout

theorem Wakeups.afterCreate {c : CreateCall} {err : OsErr} (h : Wakeups s) (hSound : Sound s)
    (hFresh : s.created.fresh c = true) (hCreation : Creation s.kernel c k' err) :
    Wakeups (s.afterCreate c k' err) := by
  intro w hNew
  have hOld : s.kernel.waiters w ≠ [] := by
    rw [← (hSound.waiters_creation hFresh hCreation).1]
    exact hNew
  have hExists : s.created.has w = true := by
    by_contra hAbsent
    exact hOld (hSound.waiters_absent (by simpa using hAbsent))
  have hOpenings : openings k' w = openings s.kernel w := by
    cases hCreation with
    | fail => rfl
    | task => exact congrFun (openings_congr rfl) w
    | sem => exact congrFun (openings_congr rfl) w
    | mutex => exact congrFun (openings_congr rfl) w
    | @queue q =>
      have hAbsent : s.created.queue q = false := by simpa [Objects.fresh] using hFresh
      apply openings_setQueue
      · rintro rfl
        exact absurd (hExists.symm.trans hAbsent) (by simp)
      · rintro rfl
        exact absurd (hExists.symm.trans hAbsent) (by simp)
  have hCard := Finset.card_le_card (onTheWay_afterCreate (w := w) hSound hCreation)
  exact (hOpenings.le.trans (h w hOld)).trans hCard

theorem Wakeups.afterMove (h : Wakeups s) (hSound : Sound s) (hSound' : Sound s')
    (hSmall : Capacities s) (hMove : Move s e s' out) : Wakeups s' := by
  cases hMove with
  | create _ _ hFresh hCreation => exact h.afterCreate hSound hFresh hCreation
  | call hRun hFree _ hSection =>
    refine h.afterRan hSound hSound' hSmall rfl (ran_afterPiece hSound hRun hSection ?_)
    intro rest hPending
    exact absurd (hPending.symm.trans hFree) (by simp)
  | resume hRun hPending hSection =>
    refine h.afterRan hSound hSound' hSmall rfl (ran_afterPiece hSound hRun hSection ?_)
    intro rest hRest
    rw [hPending] at hRest
    cases hRest
    rfl
  | @isrSend queue _ k' err _ _ hSection =>
    have hAfter := h.afterRan hSound (hSound.afterIsr hSection) hSmall rfl (ran_isr hSection)
    split
    · exact hAfter.congr (quiet_countDropped k' queue) content_countDropped
    · exact hAfter
  | isrRecv _ hSection =>
    exact h.afterRan hSound (hSound.afterIsr hSection) hSmall rfl (ran_isr hSection)
  | tick => exact h.afterTick hSound
  | pendSV => exact h.afterPendSV

theorem wakeups_of_boot {image : Image} {calls : List CreateCall} {start : Sys}
    (h : boot image calls = some start) : Wakeups start := fun w hNew =>
  absurd ((idle_of_boot h).1 w) hNew

/-- What holds in every state of a run in which the idle task does not block. -/
structure Served (trace : List Label) (s : Sys) : Prop where
  sound : Sound s
  queues : ∀ q, QueueHistory q trace s
  wakeups : Wakeups s

theorem Served.afterMove (h : Served trace s) (hMove : Move s e s' out)
    (hUser : UserBlocks ⟨s, e, out, s'⟩) : Served (trace ++ [⟨s, e, out, s'⟩]) s' := by
  have hSound' := h.sound.afterMove hMove hUser
  have hSmall : Capacities s := fun q hCreated => ((h.queues q).ring hCreated).maxItems_lt
  exact ⟨hSound', fun q => (h.queues q).afterMove hMove,
    h.wakeups.afterMove h.sound hSound' hSmall hMove⟩

theorem Reaches.served (h : Reaches trace s) (hUser : ∀ l ∈ trace, UserBlocks l) :
    Served trace s := by
  obtain ⟨image, calls, start, hBoot, hRun⟩ := h
  have hStart : Served [] start :=
    ⟨sound_of_boot hBoot, fun _ => queueHistory_of_boot hBoot, wakeups_of_boot hBoot⟩
  exact hRun.historyInvariant hStart
    (fun _ _ hTaken hUser hPre => hPre.afterMove (move_of_step hTaken) hUser) hUser

end Runs

/-- As long as the idle task does not block, no wake-up of a queue is lost. -/
theorem queue_wakeups_kept {trace : List Label} {s : Sys} (h : Reaches trace s)
    (hUser : ∀ l ∈ trace, UserBlocks l) (q : QueueId) : NoLostWakeup q s := by
  have hServed := h.served hUser
  have hListed : ∀ w, (s.kernel.waitlist w).waitCount ≠ 0 → s.kernel.waiters w ≠ [] := by
    intro w hCount hEmpty
    rw [hServed.sound.waiting.waitCount_eq, hEmpty] at hCount
    exact hCount rfl
  exact ⟨fun hCount => hServed.wakeups (.queueSend q) (hListed (.queueSend q) hCount),
    fun hCount => hServed.wakeups (.queueRecv q) (hListed (.queueRecv q) hCount)⟩

/-- Two tasks wait to receive and one of them has been woken for the item that has come. -/
theorem queue_wakeups_kept_oneWoken :
    ∃ trace s, Reaches trace s ∧ s.kernel.waiters (.queueRecv 0) = [2] ∧
      (s.kernel.queues 0).count = 1 ∧ NoLostWakeup 0 s := by
  have hCheck : checkBoot sampleImage
      [sampleTask 1, sampleTask 2, .queue (some 0) (some fun _ => 0) 1 2 (some .fifo)]
      [.call (.queueRecv (some 0) false osWaitForever), .pendSV,
        .call (.queueRecv (some 0) false 9), .pendSV, .isrSend (some 0) (some fun _ => 7)]
      (fun l => decide (UserBlocks l))
      (fun s => s.kernel.waiters (.queueRecv 0) == [2] && (s.kernel.queues 0).count == 1) =
        true := by
    decide +kernel
  obtain ⟨trace, s, hReaches, _, hUser, hFinal⟩ := reaches_of_checkBoot hCheck
  simp only [Bool.and_eq_true, beq_iff_eq] at hFinal
  exact ⟨trace, s, hReaches, hFinal.1, hFinal.2,
    queue_wakeups_kept hReaches (fun l hl => of_decide_eq_true (hUser l hl)) 0⟩

/-- The idle task blocks on a queue but is dispatched all the same, so that it is listed three
times. Two items come, it takes one, and is still listed although nobody is on the way. -/
theorem queue_wakeup_lost : ¬ ∀ trace s, Reaches trace s → ∀ q, NoLostWakeup q s := by
  intro hClaim
  have hCheck : checkBoot sampleImage
      [sampleTask 1, .queue (some 0) (some fun _ => 0) 1 3 (some .fifo)]
      [.call (.taskDelay osWaitForever), .pendSV,
        .call (.queueRecv (some 0) false osWaitForever), .pendSV, .resume, .pendSV, .resume,
        .pendSV, .isrSend (some 0) (some fun _ => 7), .isrSend (some 0) (some fun _ => 8),
        .pendSV, .resume]
      (fun _ => true)
      (fun s => (s.kernel.queues 0).recvWaitlist.waitCount == 1 &&
        (s.kernel.queues 0).count == 1 && decide (onTheWay s (.queueRecv 0) = ∅)) = true := by
    decide +kernel
  obtain ⟨trace, s, hReaches, _, _, hFinal⟩ := reaches_of_checkBoot hCheck
  simp only [Bool.and_eq_true, beq_iff_eq, decide_eq_true_eq] at hFinal
  obtain ⟨⟨hListed, hCount⟩, hNobody⟩ := hFinal
  have hRecv := (hClaim trace s hReaches 0).recv (by rw [hListed]; decide)
  rw [hCount, hNobody] at hRecv
  exact absurd hRecv (by decide)

end KoRTOS
