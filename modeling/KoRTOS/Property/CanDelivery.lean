import KoRTOS.App.CanLoopback
import KoRTOS.Property.CanReceptions
import KoRTOS.Property.DroppedItems
import KoRTOS.Property.QueueFifo

/-!
# Frames from the bus to a task

The application joins two systems: the driver takes frames from a FIFO, and the
kernel keeps items in a queue. Each keeps its invariant whatever the other does,
and the callback is where one hands over to the other.
-/

namespace KoRTOS.App

open KoRTOS.Hal

section Bytes

variable {frame : CanFrame} {padding : U8} {item : List U8}

theorem dataWord_bytes (word : U32) :
    dataWord ((word >>> (8 * 3)).setWidth 8) ((word >>> (8 * 2)).setWidth 8)
      ((word >>> (8 * 1)).setWidth 8) ((word >>> (8 * 0)).setWidth 8) = word := by
  ext i hi
  simp only [dataWord, BitVec.getElem_or, BitVec.getElem_shiftLeft, BitVec.getElem_setWidth,
    BitVec.getLsbD_setWidth, BitVec.getLsbD_ushiftRight]
  grind

theorem frameOfBytes_frameBytes :
    frameOfBytes ((List.range canFrameSize).map (frameBytes padding frame)) = frame := by
  have hByte : ∀ i < canFrameSize,
      ((List.range canFrameSize).map (frameBytes padding frame)).getD i 0 =
        frameBytes padding frame i := by
    intro i hi
    simp [List.getD_eq_getElem?_getD, List.getElem?_range hi]
  have hData : ∀ i : Fin 8, ((List.range canFrameSize).map
      (frameBytes padding frame)).getD (7 + i.val) 0 = frame.data i := by
    intro i
    rw [hByte _ (by unfold canFrameSize; omega)]
    fin_cases i <;> rfl
  have hId := dataWord_bytes frame.id
  have hTime := dataWord_bytes frame.timestamp
  unfold frameOfBytes
  rw [hByte 0 (by decide), hByte 1 (by decide), hByte 2 (by decide), hByte 3 (by decide),
    hByte 4 (by decide), hByte 5 (by decide), hByte 6 (by decide), hByte 16 (by decide),
    hByte 17 (by decide), hByte 18 (by decide), hByte 19 (by decide), funext hData]
  exact congrArg₂ (CanFrame.mk · frame.dlc frame.idType frame.frameType frame.data ·) hId hTime

end Bytes

/-- What holds of the driver and of the frame that it hands over. -/
structure TakenOver (trace : List CanApp.Label) (app : CanApp) : Prop where
  kept : app.rx.Kept id
  waits : app.handing.isSome → ∃ status frame, app.rx.calls 0 = .returned status frame
  delivered : app.rx.delivered 0 = CanApp.passedFrames trace ++ app.handing.toList

section Driver

variable {q : QueueId} {trace : List CanApp.Label} {app app' : CanApp} {out : Option Ret}
  {event : CanAppEvent}

theorem passedFrames_snoc (l : CanApp.Label) :
    CanApp.passedFrames (trace ++ [l]) =
      CanApp.passedFrames trace ++ (CanApp.passedFrame l).toList := by
  rw [CanApp.passedFrames, List.filterMap_append]
  cases h : CanApp.passedFrame l <;> simp [h, CanApp.passedFrames]

theorem TakenOver.arrive {fifoNum : Nat} {locked : Bool} {frame : CanFifo}
    (h : TakenOver trace app) :
    TakenOver (trace ++ [⟨app, .arrive fifoNum locked frame, out, app'⟩])
      { app with rx := app.rx.step (.arrive fifoNum locked frame) } := by
  refine ⟨h.kept.arrive, h.waits, ?_⟩
  rw [passedFrames_snoc]
  simpa [CanApp.passedFrame, CanRx.step] using h.delivered

theorem TakenOver.irqHandler {frame : CanFrame} (h : TakenOver trace app)
    (hNone : app.handing = none) :
    TakenOver (trace ++ [⟨app, .irqHandler frame, out, app'⟩])
      { app with rx := app.rx.step (.interrupt 0 0 frame) } := by
  have hSame : (app.rx.step (.interrupt 0 0 frame)).delivered = app.rx.delivered := by
    simp only [CanRx.step]
    split <;> rfl
  have hUses : (RxEvent.interrupt 0 0 frame).Uses id := rfl
  refine ⟨h.kept.step hUses, ?_, ?_⟩
  · dsimp only
    rw [hNone]
    rintro ⟨⟩
  · rw [passedFrames_snoc]
    simpa [CanApp.passedFrame, hSame] using h.delivered

theorem TakenOver.going (h : TakenOver trace app)
    (hCall : ∀ status frame, app.rx.calls 0 ≠ .returned status frame) : app.handing = none := by
  cases hHanding : app.handing with
  | none => rfl
  | some frame =>
    obtain ⟨status, found, hReturned⟩ := h.waits (by rw [hHanding]; rfl)
    exact absurd hReturned (hCall status found)

theorem TakenOver.access {unknown : U32} (h : TakenOver trace app) :
    TakenOver (trace ++ [⟨app, .access unknown, out, app'⟩])
      { app with rx := app.rx.stepCall 0 unknown, handing := app.handed } := by
  have hUses : (RxEvent.access 0 unknown).Uses id := trivial
  have hKept : (app.rx.stepCall 0 unknown).Kept id := h.kept.step hUses
  have hPassed : CanApp.passedFrames (trace ++ [⟨app, .access unknown, out, app'⟩]) =
      CanApp.passedFrames trace := by
    rw [passedFrames_snoc]
    exact List.append_nil _
  have hStill : app.handing = none → app.handed = none →
      (app.rx.stepCall 0 unknown).delivered = app.rx.delivered →
      TakenOver (trace ++ [⟨app, .access unknown, out, app'⟩])
        { app with rx := app.rx.stepCall 0 unknown, handing := app.handed } := by
    intro hNone hHanded hSame
    refine ⟨hKept, ?_, ?_⟩
    · rw [hHanded]
      rintro ⟨⟩
    · dsimp only
      rw [hSame, hPassed, hHanded, ← hNone]
      exact h.delivered
  cases hCall : app.rx.calls 0 with
  | returned status frame =>
    have hSame : app.rx.stepCall 0 unknown = app.rx := by
      simp only [CanRx.stepCall, hCall]
    have hHanded : app.handed = app.handing := by
      simp only [CanApp.handed, hCall]
    refine ⟨hKept, fun _ => ⟨status, frame, by rw [hSame, hCall]⟩, ?_⟩
    dsimp only
    rw [hSame, hPassed, hHanded]
    exact h.delivered
  | releasing fifoNum value frame =>
    have hNone := h.going fun _ _ hReturned => by simp [hCall] at hReturned
    have hOwned := h.kept.owned 0
    rw [hCall] at hOwned
    obtain rfl : fifoNum = 0 := hOwned
    have hDelivered := h.delivered
    rw [hNone] at hDelivered
    refine ⟨hKept, fun _ => ⟨.ok, some frame, ?_⟩, ?_⟩
    · simp only [CanRx.stepCall, hCall, Function.update_self]
    · dsimp only
      rw [hPassed]
      simpa [CanRx.stepCall, CanApp.handed, hCall] using hDelivered
  | _ =>
    have hNone := h.going fun _ _ hReturned => by simp [hCall] at hReturned
    refine hStill hNone ?_ ?_
    · simp only [CanApp.handed, hCall, hNone]
    · simp only [CanRx.stepCall, hCall, CanRx.setCall]

theorem TakenOver.rxCallback {padding : U8} {frame : CanFrame} {sys : Sys}
    (h : TakenOver trace app) (hSome : app.handing = some frame) :
    TakenOver (trace ++ [⟨app, .rxCallback padding, out, app'⟩])
      { app with handing := none, sys := sys } := by
  refine ⟨h.kept, by rintro ⟨⟩, ?_⟩
  rw [passedFrames_snoc]
  simpa [CanApp.passedFrame, hSome] using h.delivered

theorem TakenOver.kernel {sys : Sys} {e : Event} (h : TakenOver trace app) :
    TakenOver (trace ++ [⟨app, .kernel e, out, app'⟩]) { app with sys := sys } := by
  refine ⟨h.kept, h.waits, ?_⟩
  rw [passedFrames_snoc]
  simpa [CanApp.passedFrame] using h.delivered

theorem TakenOver.step {l : CanApp.Label} (h : TakenOver trace l.pre)
    (hTaken : Transition.Taken (CanApp.step q) l) : TakenOver (trace ++ [l]) l.post := by
  obtain ⟨app, event, out, app'⟩ := l
  simp only [Transition.Taken] at hTaken
  cases event with
  | arrive =>
    cases hTaken
    exact h.arrive
  | irqHandler =>
    simp only [CanApp.step] at hTaken
    split at hTaken
    · cases hTaken
    · rename_i hNone
      cases hTaken
      exact h.irqHandler (by simpa using hNone)
  | access =>
    cases hTaken
    exact h.access
  | rxCallback =>
    obtain ⟨frame, hSome, hTaken⟩ := Option.bind_eq_some_iff.mp hTaken
    obtain ⟨⟨sys, result⟩, _, hTaken⟩ := Option.bind_eq_some_iff.mp hTaken
    cases hTaken
    exact h.rxCallback hSome
  | kernel =>
    simp only [CanApp.step] at hTaken
    split at hTaken
    · cases hTaken
    · obtain ⟨⟨sys, result⟩, _, hTaken⟩ := Option.bind_eq_some_iff.mp hTaken
      cases hTaken
      exact h.kernel

end Driver

def NoSender (q : QueueId) (s : Sys) : Prop :=
  ∀ t rest, s.pending t = some rest → rest.uses ≠ some (.queueSend q)

section Kernel

variable {s s' : Sys} {e : Event} {out : Option Ret} {q : QueueId}

theorem sendsTo_of_uses {piece : Piece} (h : piece.uses ≠ some (.queueSend q)) :
    piece.sendsTo q = none := by
  unfold Piece.sendsTo
  split
  · exact if_neg fun hEq => h (by simp [Piece.uses, hEq])
  · exact if_neg fun hEq => h (by simp [Piece.uses, Pending.uses, hEq])
  · rfl

theorem NoSender.afterPiece {piece : Piece} {k' : Kernel} {f : Flow} (h : NoSender q s)
    (hs : Section s.kernel piece k' f) (hUses : piece.uses ≠ some (.queueSend q)) :
    NoSender q (s.afterPiece k' f) := by
  intro t rest hRest
  rw [pending_afterPiece hs] at hRest
  split at hRest
  · rw [hs.uses hRest]
    exact hUses
  · exact h t rest hRest

theorem noSender_of_boot {image : Image} {calls : List CreateCall}
    (h : boot image calls = some s) : NoSender q s := by
  obtain ⟨_, _, hBooting, rfl⟩ := boot_induction (P := fun _ _ => True) h trivial
    fun _ _ _ _ _ _ _ _ _ => trivial
  intro t rest hPending
  rw [hBooting.pending t] at hPending
  cases hPending

theorem move_sends_nothing (hMove : Move s e s' out) (h : NoSender q s)
    (hOther : sendsToQueue q e = false) :
    NoSender q s' ∧ sentItem q ⟨s, e, out, s'⟩ = none ∧
      handlerSends q ⟨s, e, out, s'⟩ = false := by
  have hCall : ∀ c, sendsToQueue q (.call c) = false →
      (Piece.call c).uses ≠ some (.queueSend q) := by
    rintro (_ | _ | _ | _ | _ | _ | ⟨_ | p, _, _⟩ | ⟨_ | p, _, _⟩) hSends hUses
    all_goals simp_all [Piece.uses, sendsToQueue]
  cases hMove with
  | create => exact ⟨h, rfl, rfl⟩
  | call _ _ _ hs =>
    exact ⟨h.afterPiece hs (hCall _ hOther), sentBy_none (sendsTo_of_uses (hCall _ hOther)), rfl⟩
  | resume _ hPending hs =>
    have hUses : (Piece.rest _).uses ≠ some (.queueSend q) := h _ _ hPending
    refine ⟨h.afterPiece hs hUses, ?_, rfl⟩
    simp only [sentItem, pieceOf, hPending, Option.map_some, Option.bind_some]
    exact sentBy_none (sendsTo_of_uses hUses)
  | @isrSend queue item =>
    have hUses : (Piece.call (.queueSend queue item 0)).uses ≠ some (.queueSend q) := by
      cases queue with
      | none => simp [Piece.uses]
      | some p => simpa [Piece.uses, sendsToQueue] using hOther
    refine ⟨h, sentBy_none (sendsTo_of_uses hUses), ?_⟩
    cases queue with
    | none => rfl
    | some p =>
      cases item with
      | none => rfl
      | some item => exact hOther
  | isrRecv => exact ⟨h, rfl, rfl⟩
  | tick => exact ⟨h, rfl, rfl⟩
  | pendSV => exact ⟨h, rfl, rfl⟩

theorem move_keeps_sizes (hMove : Move s e s' out) (hCreated : s.created.queue q = true) :
    (s'.kernel.queues q).itemSize = (s.kernel.queues q).itemSize ∧
      (s'.kernel.queues q).maxItems = (s.kernel.queues q).maxItems := by
  have hContent : ∀ k : Kernel, (k.content q).itemSize = (k.queues q).itemSize ∧
      (k.content q).maxItems = (k.queues q).maxItems := fun _ => ⟨rfl, rfl⟩
  have hMoves := hMove.moves hCreated
  rw [← (hContent s'.kernel).1, ← (hContent s'.kernel).2]
  generalize sentItem q _ = sent at hMoves
  generalize receivedItem q _ = received at hMoves
  cases hMoves with
  | stay hSame => exact hSame ▸ ⟨rfl, rfl⟩
  | push _ hSame => exact hSame ▸ ⟨rfl, rfl⟩
  | pop _ hSame => exact hSame ▸ ⟨rfl, rfl⟩

theorem move_of_callback {item : Nat → U8} (hMove : Move s (.isrSend (some q) (some item)) s' out)
    (h : NoSender q s) :
    NoSender q s' ∧ handlerSends q ⟨s, .isrSend (some q) (some item), out, s'⟩ = true ∧
      (sentItem q ⟨s, .isrSend (some q) (some item), out, s'⟩ = none ∨
        sentItem q ⟨s, .isrSend (some q) (some item), out, s'⟩ =
          some ((List.range (s.kernel.queues q).itemSize).map item)) := by
  cases hMove with
  | isrSend _ hs =>
    refine ⟨h, beq_self_eq_true q, ?_⟩
    obtain rfl | rfl := hs.handler_result
    · exact .inr (by simp [sentItem, pieceOf, sentBy, Piece.sendsTo])
    · exact .inl (by simp [sentItem, pieceOf, sentBy, Piece.sendsTo])

end Kernel

/-- What a transition of the application is for the kernel. -/
inductive KernelSide (q : QueueId) (l : CanApp.Label) : Prop
  | driver (hLabel : CanApp.kernelLabel q l = none) (hPassed : CanApp.passedFrame l = none)
      (hSys : l.post.sys = l.pre.sys)
  | callback {padding frame} (hLabel : CanApp.kernelLabel q l = some
        ⟨l.pre.sys, .isrSend (some q) (some (frameBytes padding frame)), l.out, l.post.sys⟩)
      (hPassed : CanApp.passedFrame l = some frame)
      (hStep : KoRTOS.step l.pre.sys (.isrSend (some q) (some (frameBytes padding frame))) =
        some (l.post.sys, l.out))
  | other {e} (hOther : sendsToQueue q e = false)
      (hLabel : CanApp.kernelLabel q l = some ⟨l.pre.sys, e, l.out, l.post.sys⟩)
      (hPassed : CanApp.passedFrame l = none)
      (hStep : KoRTOS.step l.pre.sys e = some (l.post.sys, l.out))

theorem kernelSide_of_step {q : QueueId} {l : CanApp.Label}
    (h : Transition.Taken (CanApp.step q) l) : KernelSide q l := by
  obtain ⟨app, event, out, app'⟩ := l
  simp only [Transition.Taken] at h
  cases event with
  | arrive =>
    cases h
    exact .driver rfl rfl rfl
  | irqHandler =>
    simp only [CanApp.step] at h
    split at h
    · cases h
    · cases h
      exact .driver rfl rfl rfl
  | access =>
    cases h
    exact .driver rfl rfl rfl
  | rxCallback padding =>
    obtain ⟨frame, hSome, h⟩ := Option.bind_eq_some_iff.mp h
    obtain ⟨⟨sys, result⟩, hStep, h⟩ := Option.bind_eq_some_iff.mp h
    cases h
    exact .callback (by simp only [CanApp.kernelLabel, hSome, Option.map_some]) hSome hStep
  | kernel e =>
    simp only [CanApp.step] at h
    split at h
    · cases h
    · rename_i hOther
      obtain ⟨⟨sys, result⟩, hStep, h⟩ := Option.bind_eq_some_iff.mp h
      cases h
      exact .other (by simpa using hOther) rfl rfl hStep

/-- What holds of the queue and of the frames that were handed over to it. -/
structure Queued (q : QueueId) (trace : List CanApp.Label) (app : CanApp) : Prop where
  created : app.sys.created.queue q = true
  itemSize : (app.sys.kernel.queues q).itemSize = canFrameSize
  fits : (app.sys.kernel.queues q).Fits
  noSender : NoSender q app.sys
  inOrder : ((sentItems q (CanApp.kernelTrace q trace)).map frameOfBytes).Sublist
    (CanApp.passedFrames trace)
  stores : (sentItems q (CanApp.kernelTrace q trace)).length =
    (CanApp.kernelTrace q trace).countP (handlerStores q)
  sends : (CanApp.passedFrames trace).length =
    (CanApp.kernelTrace q trace).countP (handlerSends q)

section Queue

variable {q : QueueId} {trace : List CanApp.Label} {app app' start : CanApp} {out : Option Ret}
  {event : CanAppEvent}

theorem kernelTrace_snoc (l : CanApp.Label) :
    CanApp.kernelTrace q (trace ++ [l]) =
      CanApp.kernelTrace q trace ++ (CanApp.kernelLabel q l).toList := by
  rw [CanApp.kernelTrace, List.filterMap_append]
  cases h : CanApp.kernelLabel q l <;> simp [h, CanApp.kernelTrace]

theorem Queued.driver {l : CanApp.Label} (h : Queued q trace app)
    (hKernel : CanApp.kernelLabel q l = none) (hPassed : CanApp.passedFrame l = none)
    (hSys : app'.sys = app.sys) : Queued q (trace ++ [l]) app' := by
  have hTrace : CanApp.kernelTrace q (trace ++ [l]) = CanApp.kernelTrace q trace := by
    rw [kernelTrace_snoc, hKernel, Option.toList_none, List.append_nil]
  have hFrames : CanApp.passedFrames (trace ++ [l]) = CanApp.passedFrames trace := by
    rw [passedFrames_snoc, hPassed, Option.toList_none, List.append_nil]
  exact ⟨hSys ▸ h.created, hSys ▸ h.itemSize, hSys ▸ h.fits, hSys ▸ h.noSender,
    hTrace ▸ hFrames ▸ h.inOrder, hTrace ▸ h.stores, hTrace ▸ hFrames ▸ h.sends⟩

theorem Queued.kernel {l : CanApp.Label} {e : Event} (h : Queued q trace l.pre)
    (hKernel : CanApp.kernelLabel q l = some ⟨l.pre.sys, e, l.out, l.post.sys⟩)
    (hMove : Move l.pre.sys e l.post.sys l.out) (hNoSender : NoSender q l.post.sys)
    (hSends : (CanApp.passedFrame l).isSome =
      handlerSends q ⟨l.pre.sys, e, l.out, l.post.sys⟩)
    (hItem : ∀ item, sentItem q ⟨l.pre.sys, e, l.out, l.post.sys⟩ = some item →
      CanApp.passedFrame l = some (frameOfBytes item)) : Queued q (trace ++ [l]) l.post := by
  obtain ⟨hSize, hMax⟩ := move_keeps_sizes hMove h.created
  have hStores : handlerStores q ⟨l.pre.sys, e, l.out, l.post.sys⟩ =
      (sentItem q ⟨l.pre.sys, e, l.out, l.post.sys⟩).isSome := by
    rw [handlerStores, ← hSends]
    cases hSent : sentItem q ⟨l.pre.sys, e, l.out, l.post.sys⟩ with
    | none => exact Bool.and_false _
    | some item => rw [hItem item hSent, Option.isSome_some, Option.isSome_some, Bool.and_true]
  refine ⟨hMove.created_mono (w := .queueSend q) h.created, hSize.trans h.itemSize, ?_, hNoSender,
    ?_, ?_, ?_⟩
  · rw [Queue.Fits, hSize, hMax]
    exact h.fits
  · rw [kernelTrace_snoc, hKernel, Option.toList_some, sentItems_snoc, passedFrames_snoc,
      List.map_append]
    apply h.inOrder.append
    cases hSent : sentItem q ⟨l.pre.sys, e, l.out, l.post.sys⟩ with
    | none => exact List.nil_sublist _
    | some item => rw [hItem item hSent, Option.toList_some, Option.toList_some, List.map_singleton]
  · rw [kernelTrace_snoc, hKernel, Option.toList_some, sentItems_snoc, List.length_append,
      List.countP_append, List.countP_singleton, hStores, h.stores]
    cases sentItem q ⟨l.pre.sys, e, l.out, l.post.sys⟩ <;> rfl
  · rw [kernelTrace_snoc, hKernel, Option.toList_some, passedFrames_snoc, List.length_append,
      List.countP_append, List.countP_singleton, ← hSends, h.sends]
    cases CanApp.passedFrame l <;> rfl

theorem Queued.step {l : CanApp.Label} (h : Queued q trace l.pre)
    (hTaken : Transition.Taken (CanApp.step q) l) : Queued q (trace ++ [l]) l.post := by
  cases kernelSide_of_step hTaken with
  | driver hLabel hPassed hSys => exact h.driver hLabel hPassed hSys
  | callback hLabel hPassed hStep =>
    have hMove := move_of_step hStep
    obtain ⟨hNoSender, hSends, hSent⟩ := move_of_callback hMove h.noSender
    refine h.kernel hLabel hMove hNoSender ?_ ?_
    · rw [hSends, hPassed, Option.isSome_some]
    · intro item hItem
      obtain hSent | hSent := hSent
      · rw [hSent] at hItem
        cases hItem
      · rw [hSent, h.itemSize] at hItem
        cases hItem
        rw [hPassed, frameOfBytes_frameBytes]
  | other hOther hLabel hPassed hStep =>
    have hMove := move_of_step hStep
    obtain ⟨hNoSender, hSent, hSends⟩ := move_sends_nothing hMove h.noSender hOther
    refine h.kernel hLabel hMove hNoSender (by rw [hPassed, hSends, Option.isSome_none]) ?_
    intro item hItem
    rw [hSent] at hItem
    cases hItem

/-- What the kernel sees of a run of the application is a run of the kernel. -/
theorem kernel_run (hRun : CanApp.Run q start trace app) :
    KoRTOS.Run start.sys (CanApp.kernelTrace q trace) app.sys := by
  induction hRun with
  | nil => exact .nil
  | @snoc trace l _ hTaken ih =>
    rw [kernelTrace_snoc]
    cases kernelSide_of_step hTaken with
    | driver hLabel _ hSys =>
      rw [hLabel, Option.toList_none, List.append_nil, hSys]
      exact ih
    | callback hLabel _ hStep =>
      rw [hLabel, Option.toList_some]
      exact .snoc (l := ⟨l.pre.sys, _, l.out, l.post.sys⟩) ih hStep
    | other _ hLabel _ hStep =>
      rw [hLabel, Option.toList_some]
      exact .snoc (l := ⟨l.pre.sys, _, l.out, l.post.sys⟩) ih hStep

end Queue

/-- The kernel has been started with a queue for frames, and no frame has come in yet. -/
structure CanApp.Starts (q : QueueId) (app : CanApp) : Prop where
  fresh : app.rx.Fresh
  handing : app.handing = none
  boots : ∃ image calls, boot image calls = some app.sys
  created : app.sys.created.queue q = true
  itemSize : (app.sys.kernel.queues q).itemSize = canFrameSize
  fits : (app.sys.kernel.queues q).Fits

/-- Where the frames are that FIFO 0 took in. -/
structure CanDelivered (q : QueueId) (trace : List CanApp.Label) (app : CanApp) : Prop where
  takenOver : ∃ released, app.rx.stored 0 = released ++ (app.rx.fifos 0).pending ∧
    List.Forall₂ (fun shown frame => ∃ old, frame = CanFifo.decode shown old) released
      (CanApp.passedFrames trace ++ app.handing.toList)
  inOrder : ((receivedItems q (CanApp.kernelTrace q trace) ++
    (app.sys.kernel.queues q).items).map frameOfBytes).Sublist (CanApp.passedFrames trace)
  accounted : (CanApp.passedFrames trace).length =
    (receivedItems q (CanApp.kernelTrace q trace)).length + (app.sys.kernel.queues q).count +
      (CanApp.kernelTrace q trace).countP (handlerDrops q)
  counted : app.sys.kernel.dropped q =
    (CanApp.kernelTrace q trace).countP (handlerDrops q) % 2 ^ 32

/-- In every run, whenever frames come in, handlers preempt and tasks use the kernel, each frame
that FIFO 0 took in and did not overwrite waits in the FIFO, is about to be handed to the
callback, waits in the queue, was received by a task, or was counted in `dropped_count`. Those
that tasks receive are complete and in the order in which they came in. -/
theorem can_frames_delivered {q : QueueId} {start app : CanApp} {trace : List CanApp.Label}
    (hStart : start.Starts q) (hRun : CanApp.Run q start trace app) :
    CanDelivered q trace app := by
  obtain ⟨image, calls, hBoot⟩ := hStart.boots
  have hTaken : TakenOver trace app := by
    refine hRun.historyInvariant (C := fun _ => True) ?_ (fun _ _ hTaken _ hPre => hPre.step hTaken)
      fun _ _ => trivial
    refine ⟨hStart.fresh.kept, ?_, ?_⟩
    · rw [hStart.handing]
      rintro ⟨⟩
    · rw [hStart.fresh.delivered, hStart.handing]
      rfl
  have hQueued : Queued q trace app := by
    refine hRun.historyInvariant (C := fun _ => True) ?_ (fun _ _ hTaken _ hPre => hPre.step hTaken)
      fun _ _ => trivial
    exact ⟨hStart.created, hStart.itemSize, hStart.fits, noSender_of_boot hBoot, .slnil, rfl, rfl⟩
  have hKernel := kernel_run hRun
  have hFifo := ((queueHistory_of_run hKernel (queueHistory_of_boot hBoot)).isFifo hQueued.created
    hQueued.fits).contents
  have hCounted : Counted q (CanApp.kernelTrace q trace) app.sys := counted_of_run hKernel hBoot
  refine ⟨?_, ?_, ?_, hCounted.counted⟩
  · rw [← hTaken.delivered]
    exact hTaken.kept.handed 0
  · rw [← hFifo]
    exact hQueued.inOrder
  · have hLength := congrArg List.length hFifo
    rw [hQueued.stores, List.length_append, Queue.items, RingBuffer.length_contents] at hLength
    rw [hQueued.sends, hCounted.accounted, hLength]

/-- The calls of `main` in `CAN_loopback_mutex_queue.c`, where the queue has room for ten frames. -/
def loopbackCalls (maxItems : U32) : List CreateCall :=
  [sampleTask 1, sampleTask 2, sampleTask 3, sampleTask 4, .mutex (some 0),
    .queue (some 0) (some fun _ => 0) 20 maxItems (some .priority)]

def loopbackStart (sys : Sys) : CanApp := ⟨quietRx, none, sys⟩

def frameHandled (frame : CanFifo) : List CanAppEvent :=
  [.arrive 0 false frame, .irqHandler blankFrame] ++ List.replicate 14 (.access 0) ++
    [.rxCallback 0]

/-- With room for one frame, the second of two is refused and counted; the first is received. -/
theorem can_frames_delivered_refused :
    ∃ start trace app, CanApp.Run 0 start trace app ∧
      (receivedItems 0 (CanApp.kernelTrace 0 trace)).length = 1 ∧
      app.sys.kernel.dropped 0 = 1 ∧ CanDelivered 0 trace app := by
  have hCheck : ((boot sampleImage (loopbackCalls 1)).bind fun sys =>
      (Transition.execute (CanApp.step 0) (loopbackStart sys)
        (frameHandled ⟨0x20000000, 0x4, 0xAAAA, 0⟩ ++ frameHandled ⟨0x20200000, 0x4, 0xBBBB, 0⟩ ++
          [.kernel (.call (.queueRecv (some 0) false osWaitForever))])).map fun r =>
        decide ((receivedItems 0 (CanApp.kernelTrace 0 r.1)).length = 1) &&
          decide (r.2.sys.kernel.dropped 0 = 1) &&
          sys.created.queue 0 && decide ((sys.kernel.queues 0).itemSize = canFrameSize) &&
          decide ((sys.kernel.queues 0).maxItems * (sys.kernel.queues 0).itemSize < 2 ^ 32)) =
      some true := by
    decide +kernel
  obtain ⟨sys, hBoot, hCheck⟩ := Option.bind_eq_some_iff.mp hCheck
  obtain ⟨⟨trace, app⟩, hRun, hCheck⟩ := Option.map_eq_some_iff.mp hCheck
  simp only [Bool.and_eq_true, decide_eq_true_eq] at hCheck
  obtain ⟨⟨⟨⟨hOne, hDropped⟩, hCreated⟩, hSize⟩, hFits⟩ := hCheck
  have hFresh : quietRx.Fresh :=
    ⟨fun _ => rfl, fun _ => ⟨.ok, none, rfl⟩, fun _ => rfl, fun _ => rfl⟩
  have hStart : (loopbackStart sys).Starts 0 :=
    ⟨hFresh, rfl, ⟨sampleImage, loopbackCalls 1, hBoot⟩, hCreated, hSize, hFits⟩
  have hRun : CanApp.Run 0 (loopbackStart sys) trace app := Transition.run_of_execute hRun
  exact ⟨loopbackStart sys, trace, app, hRun, hOne, hDropped, can_frames_delivered hStart hRun⟩

end KoRTOS.App
