import KoRTOS.App.CanSharing
import KoRTOS.Evaluation
import KoRTOS.Property.CanReceptions
import KoRTOS.Property.CanSending

/-!
# Frames are not mixed

The driver is written for one caller at a time: two calls of `CAN_transmit` could choose the same
mailbox. The mutex makes it one, wherever the tasks are preempted, and then every frame on the
bus is one that a task passed, as a whole.
-/

namespace KoRTOS.App

open KoRTOS.Hal Accesses

namespace CanSharing

/-- The frames that the calls have requested, and those that they reported as sent. -/
def requested (app : CanSharing) : List CanMailbox :=
  app.returned.flatMap fun call => requestedBy call.1 call.2

def reported (app : CanSharing) : List CanMailbox :=
  app.returned.flatMap fun call => reportedBy call.1 call.2

/-- What a call that is under way will achieve. -/
def Achieves (app : CanSharing) (frame : Option CanFrame) (rest : CanProg KhalStatus) : Prop :=
  canTransmitter.Achieves (CanTransmitter.Permits app.requested app.reported frame) rest
    (fun status => CanTransmitter.Reported (app.requested ++ requestedBy frame status)
      (app.reported ++ reportedBy frame status)) app.device

/-- Who is not outside holds the mutex. The peripheral is left alone, or the call of one task has
it for itself. -/
structure Shared (i : MutexId) (app : CanSharing) : Prop where
  locks : Locks app.sys
  inSection : ∀ t, app.senders t ≠ .outside ↔ Holds app.sys i t
  accounted : app.device.Accounted
  idle : (∀ t, (app.senders t).isSending = false) →
    app.device.Reported app.requested app.reported
  busy : ∀ t frame rest, app.senders t = .sending frame rest → app.Achieves frame rest

section Steps

variable {i : MutexId} {app app' : CanSharing} {t u : TaskId} {frame : Option CanFrame}
  {rest : CanProg KhalStatus} {out : Option Ret} {event : Event} {sys : Sys}

theorem not_outside_of_sending (h : (app.senders t).isSending = true) :
    app.senders t ≠ .outside := by
  intro hOutside
  rw [hOutside] at h
  cases h

theorem Shared.unique (h : app.Shared i) (ht : app.senders t ≠ .outside)
    (hu : app.senders u ≠ .outside) : u = t :=
  ((h.inSection t).mp ht).unique ((h.inSection u).mp hu)

theorem Shared.alone (h : app.Shared i) (ht : app.senders t ≠ .outside) (hne : u ≠ t) :
    (app.senders u).isSending = false := by
  refine Bool.eq_false_iff.mpr fun hSending => hne ?_
  exact h.unique ht (not_outside_of_sending hSending)

theorem isSending_of_eq (h : app.senders t = .sending frame rest) :
    (app.senders t).isSending = true := by
  rw [h]
  rfl

theorem senders_setSender {sender : Sender} :
    (app.setSender sender).senders t = if t = app.current then sender else app.senders t :=
  Function.update_apply _ _ _ _

theorem Shared.inSection_setSender {sender : Sender} (h : app.Shared i)
    (hBefore : app.senders app.current ≠ .outside) (hAfter : sender ≠ .outside) (t : TaskId) :
    (app.setSender sender).senders t ≠ .outside ↔ Holds app.sys i t := by
  rw [senders_setSender, ← h.inSection t]
  split
  · rename_i hEq
    rw [hEq]
    exact ⟨fun _ => hBefore, fun _ => hAfter⟩
  · exact Iff.rfl

theorem Shared.quiet (h : app.Shared i) (hLocks : Locks app'.sys)
    (hSection : ∀ t, app'.senders t ≠ .outside ↔ Holds app'.sys i t)
    (hBefore : ∀ t, (app.senders t).isSending = false)
    (hAfter : ∀ t, (app'.senders t).isSending = false)
    (hDevice : app'.device = app.device) (hReturned : app'.returned = app.returned) :
    app'.Shared i := by
  refine ⟨hLocks, hSection, hDevice ▸ h.accounted, fun _ => ?_, fun t frame rest hSending => ?_⟩
  · rw [hDevice, requested, reported, hReturned]
    exact h.idle hBefore
  · have hNot := hAfter t
    rw [isSending_of_eq hSending] at hNot
    cases hNot

theorem Shared.kernel (h : app.Shared i)
    (hStep : KoRTOS.step app.sys event = some (sys, out))
    (hUser : UserBlocks ⟨app.sys, event, out, sys⟩)
    (hFree : (ofTask event && (app.senders app.current).isSending) = false) :
    Shared i { app.setSender ((app.senders app.current).afterKernel i ⟨app.sys, event, out, sys⟩)
      with sys := sys } := by
  have hMove : Move app.sys event sys out := move_of_step hStep
  have hLocks : Locks sys := h.locks.afterMove hMove hUser
  cases h.locks.sectioned (i := i) hMove with
  | enter hGranted hReleased hBefore hAfter =>
    have hOutside : ∀ t, app.senders t = .outside := by
      intro t
      by_contra hNot
      exact hBefore t ((h.inSection t).mp hNot)
    rw [Sender.afterKernel, if_pos hGranted]
    refine h.quiet hLocks (fun t => ?_) (fun t => ?_) (fun t => ?_) rfl rfl
    · rw [hAfter]
      simp only [setSender, Function.update_apply]
      split
      · rename_i hEq
        exact ⟨fun _ => hEq, fun _ => by rintro ⟨⟩⟩
      · rename_i hNe
        exact ⟨fun hNot => absurd (hOutside t) hNot, fun hEq => absurd hEq hNe⟩
    · rw [hOutside]
      rfl
    · simp only [setSender, Function.update_apply]
      split
      · rfl
      · rw [hOutside]
        rfl
  | leave hGranted hReleased hBefore hAfter =>
    have hCurrent : app.senders app.current ≠ .outside := (h.inSection _).mpr hBefore
    have hTask : ofTask event = true := by
      cases event <;> first | rfl | cases hReleased
    rw [hTask, Bool.true_and] at hFree
    rw [Sender.afterKernel, hGranted, hReleased]
    refine h.quiet hLocks (fun t => ?_) (fun t => ?_) (fun t => ?_) rfl rfl
    · simp only [setSender, Function.update_apply]
      refine ⟨fun hNot => ?_, fun hHolds => absurd hHolds (hAfter t)⟩
      split at hNot
      · exact absurd rfl hNot
      · rename_i hNe
        exact absurd (h.unique hCurrent hNot) hNe
    · by_cases hEq : t = app.current
      · rw [hEq]
        exact hFree
      · exact h.alone hCurrent hEq
    · simp only [setSender, Function.update_apply]
      split
      · rfl
      · rename_i hNe
        exact h.alone hCurrent hNe
  | keep hGranted hReleased hSame =>
    have hSenders : Function.update app.senders app.current (app.senders app.current) =
        app.senders := Function.update_eq_self _ _
    rw [Sender.afterKernel, hGranted, hReleased]
    simp only [Bool.false_eq_true, if_false, setSender, hSenders]
    exact ⟨hLocks, fun t => (h.inSection t).trans (hSame t).symm, h.accounted, h.idle, h.busy⟩

theorem Shared.transmit (h : app.Shared i) (hInside : app.senders app.current = .inside) :
    Shared i (app.setSender (.sending frame (CanProg.transmit frame))) := by
  have hCurrent : app.senders app.current ≠ .outside := by
    rw [hInside]
    rintro ⟨⟩
  have hNobody : ∀ t, (app.senders t).isSending = false := by
    intro t
    by_cases hEq : t = app.current
    · rw [hEq, hInside]
      rfl
    · exact h.alone hCurrent hEq
  refine ⟨h.locks, h.inSection_setSender hCurrent (by rintro ⟨⟩), h.accounted, fun hNone => ?_,
    fun t sending rest hSending => ?_⟩
  · have hNot := hNone app.current
    rw [senders_setSender, if_pos rfl] at hNot
    cases hNot
  · rw [senders_setSender] at hSending
    split at hSending
    · cases hSending
      exact CanTransmitter.triple_transmit _ (h.idle hNobody)
    · have hNot := hNobody t
      rw [isSending_of_eq hSending] at hNot
      cases hNot

theorem Shared.advance {w : U32} (h : app.Shared i)
    (hCall : app.senders app.current = .sending frame rest) :
    Shared i { app.setSender (.sending frame (canTransmitter.advance w (rest, app.device)).1) with
      device := (canTransmitter.advance w (rest, app.device)).2 } := by
  have hCurrent := not_outside_of_sending (isSending_of_eq hCall)
  refine ⟨h.locks, h.inSection_setSender hCurrent (by rintro ⟨⟩), ?_, fun hNone => ?_,
    fun t sending rest' hSending => ?_⟩
  · obtain hSame | ⟨a, _, hSame⟩ := canTransmitter.advance_snd rest w app.device
    · dsimp only
      rw [hSame]
      exact h.accounted
    · dsimp only
      rw [hSame]
      exact h.accounted.respond a
  · have hNot : ((app.setSender _).senders app.current).isSending = false := hNone app.current
    rw [senders_setSender, if_pos rfl] at hNot
    cases hNot
  · have hNow : (app.setSender _).senders t = .sending sending rest' := hSending
    rw [senders_setSender] at hNow
    split at hNow
    · cases hNow
      exact (h.busy _ _ _ hCall).advance w
    · rename_i hNe
      have hNot := h.alone hCurrent hNe
      rw [isSending_of_eq hNow] at hNot
      cases hNot

theorem Shared.returns {status : KhalStatus} (h : app.Shared i)
    (hCall : app.senders app.current = .sending frame (.pure status)) :
    Shared i { app.setSender .inside with returned := app.returned ++ [(frame, status)] } := by
  have hCurrent := not_outside_of_sending (isSending_of_eq hCall)
  have hReported : app.device.Reported (app.requested ++ requestedBy frame status)
      (app.reported ++ reportedBy frame status) := h.busy _ _ _ hCall _ .refl
  have hNobody : ∀ t, ((app.setSender .inside).senders t).isSending = false := by
    intro t
    rw [senders_setSender]
    split
    · rfl
    · rename_i hNe
      exact h.alone hCurrent hNe
  refine ⟨h.locks, h.inSection_setSender hCurrent (by rintro ⟨⟩), h.accounted, fun _ => ?_,
    fun t sending rest' hSending => ?_⟩
  · simpa [requested, reported, setSender] using hReported
  · have hNot := hNobody t
    have hNow : (app.setSender .inside).senders t = .sending sending rest' := hSending
    rw [isSending_of_eq hNow] at hNot
    cases hNot

theorem Shared.occur {e : CanChange} (h : app.Shared i) :
    Shared i { app with device := app.device.occur e } :=
  ⟨h.locks, h.inSection, h.accounted.occur, fun hNone => (h.idle hNone).occur,
    fun t frame rest hSending => (h.busy t frame rest hSending).occur e⟩

theorem Shared.step {l : Label} (h : l.pre.Shared i) (hTaken : Transition.Taken (step i) l)
    (hUser : ∀ k, kernelLabel l = some k → UserBlocks k) : l.post.Shared i := by
  obtain ⟨app, event, out, app'⟩ := l
  simp only [Transition.Taken] at hTaken
  cases event with
  | kernel event =>
    simp only [CanSharing.step] at hTaken
    split at hTaken
    · cases hTaken
    · rename_i hFree
      obtain ⟨⟨sys, result⟩, hStep, hTaken⟩ := Option.bind_eq_some_iff.mp hTaken
      cases hTaken
      exact h.kernel hStep (hUser _ rfl) (Bool.eq_false_iff.mpr hFree)
  | transmit frame =>
    simp only [CanSharing.step] at hTaken
    split at hTaken
    · rename_i hInside
      split at hTaken
      · cases hTaken
        exact h.transmit hInside
      · cases hTaken
    · cases hTaken
  | access w =>
    simp only [CanSharing.step] at hTaken
    split at hTaken
    · obtain ⟨next, hNext, hTaken⟩ := Option.map_eq_some_iff.mp hTaken
      cases hTaken
      simp only [stepCall] at hNext
      split at hNext
      · rename_i hCall
        cases hNext
        exact h.returns hCall
      · rename_i hCall
        cases hNext
        exact h.advance hCall
      · cases hNext
    · cases hTaken
  | complete e =>
    cases hTaken
    exact h.occur

end Steps

/-- The kernel has been started, no task is in its section, and the mailboxes are empty. -/
structure Starts (app : CanSharing) : Prop where
  boots : ∃ image calls, boot image calls = some app.sys
  outside : ∀ t, app.senders t = .outside
  returned : app.returned = []
  requested : app.device.requested = []
  sent : app.device.sent = []
  vacant : ∀ x < 3, app.device.vacant x = true

theorem Starts.shared {i : MutexId} {app : CanSharing} (h : app.Starts) : app.Shared i := by
  obtain ⟨image, calls, hBoot⟩ := h.boots
  refine ⟨locks_of_boot hBoot, fun t => ⟨fun hNot => absurd (h.outside t) hNot, fun hHolds => ?_⟩,
    ?_, fun _ => ⟨?_, ?_⟩, fun t frame rest hSending => ?_⟩
  · have hOwner := hHolds.1
    rw [ownerOf_of_boot hBoot] at hOwner
    cases hOwner
  · have hNone : ∀ x < 3, app.device.held x = 0 :=
      fun x hx => CanTransmitter.held_of_vacant (h.vacant x hx)
    rw [CanTransmitter.Accounted, h.sent, hNone 0 (by decide), hNone 1 (by decide),
      hNone 2 (by decide)]
    exact Multiset.zero_le _
  · rw [h.requested, CanSharing.requested, h.returned]
    rfl
  · rw [h.sent, reported, h.returned]
    exact .refl _
  · rw [h.outside] at hSending
    cases hSending

end CanSharing

/-- What is promised of the frames. -/
structure FramesWhole (app : CanSharing) : Prop where
  exclusive : ∀ t u, (app.senders t).isSending = true → (app.senders u).isSending = true → u = t
  vacant : ∀ t frame rest a mailbox, app.senders t = .sending frame rest → rest.next? = some a →
    a.loads = some mailbox → app.device.vacant mailbox = true
  requested : app.device.requested = app.requested ∨
    ∃ t frame rest, app.senders t = .sending (some frame) rest ∧
      app.device.requested = app.requested ++ [frame.mailbox]
  sent : app.device.sent.Subperm app.device.requested
  reported : app.reported.Sublist app.device.sent

namespace CanSharing

variable {i : MutexId} {app : CanSharing} {frame : Option CanFrame} {rest : CanProg KhalStatus}

theorem Achieves.requested (h : app.Achieves frame rest) :
    app.device.requested = app.requested ∨ ∃ sending, frame = some sending ∧
      app.device.requested = app.requested ++ [sending.mailbox] := by
  refine Device.Achieves.holds (A := fun device : CanTransmitter =>
    device.requested = app.requested ∨ ∃ sending, frame = some sending ∧
      device.requested = app.requested ++ [sending.mailbox]) h (fun _ _ hNow => hNow.requested) ?_
  intro status device hEnd
  have hRequested := hEnd.requested
  cases frame with
  | none =>
    left
    cases status <;> simpa [requestedBy] using hRequested
  | some sending =>
    cases status with
    | ok => exact .inr ⟨sending, rfl, hRequested⟩
    | errTx => exact .inr ⟨sending, rfl, hRequested⟩
    | errTimeout => exact .inr ⟨sending, rfl, hRequested⟩
    | _ =>
      left
      simpa [requestedBy] using hRequested

theorem Achieves.reported (h : app.Achieves frame rest) :
    app.reported.Sublist app.device.sent :=
  Device.Achieves.holds (A := fun device : CanTransmitter => app.reported.Sublist device.sent) h
    (fun _ _ hNow => hNow.acked)
    fun _ _ hEnd => (List.sublist_append_left _ _).trans hEnd.acked

theorem exists_sending {t : TaskId} (h : (app.senders t).isSending = true) :
    ∃ frame rest, app.senders t = .sending frame rest := by
  cases hSender : app.senders t with
  | sending frame rest => exact ⟨frame, rest, rfl⟩
  | _ =>
    rw [hSender] at h
    cases h

theorem Shared.framesWhole (h : app.Shared i) : FramesWhole app := by
  have hEither : (∀ t, (app.senders t).isSending = false) ∨
      ∃ t frame rest, app.senders t = .sending frame rest := by
    by_cases hNone : ∀ t, (app.senders t).isSending = false
    · exact .inl hNone
    · obtain ⟨t, hSending⟩ := not_forall.mp hNone
      exact .inr ⟨t, exists_sending (eq_true_of_ne_false hSending)⟩
  refine ⟨fun t u ht hu => ?_, fun t frame rest a mailbox hSending hNext hLoads => ?_, ?_, ?_, ?_⟩
  · exact h.unique (not_outside_of_sending ht) (not_outside_of_sending hu)
  · exact ((h.busy t frame rest hSending).allows hNext).vacant mailbox hLoads
  · obtain hNone | ⟨t, frame, rest, hSending⟩ := hEither
    · exact .inl (h.idle hNone).requested
    · obtain hSame | ⟨sending, rfl, hOne⟩ := (h.busy t frame rest hSending).requested
      · exact .inl hSame
      · exact .inr ⟨t, sending, rest, hSending, hOne⟩
  · have hLe : (app.device.sent : Multiset CanMailbox) ≤ app.device.requested :=
      (le_add_of_nonneg_right (Multiset.zero_le _)).trans h.accounted
    exact Multiset.coe_le.mp hLe
  · obtain hNone | ⟨t, frame, rest, hSending⟩ := hEither
    · exact (h.idle hNone).acked
    · exact (h.busy t frame rest hSending).reported

end CanSharing

/-- As long as the idle task does not block, whatever the tasks send and wherever they are
preempted: one call of `CAN_transmit` is under way at a time and writes only to an empty mailbox,
the frames that are requested are those that the calls were given, whole and in their order, no
frame is on the bus more often than it was requested, and those that were reported as sent were on
the bus, in the order of the reports. -/
theorem can_frames_whole {i : MutexId} {start app : CanSharing} {trace : List CanSharing.Label}
    (hStart : start.Starts) (hRun : CanSharing.Run i start trace app)
    (hUser : ∀ l ∈ CanSharing.kernelTrace trace, UserBlocks l) : FramesWhole app := by
  refine CanSharing.Shared.framesWhole (i := i) (hRun.invariant (I := CanSharing.Shared i)
    (C := fun l => ∀ k, CanSharing.kernelLabel l = some k → UserBlocks k) hStart.shared
    (fun l hTaken hUser hPre => hPre.step hTaken hUser) fun l hl k hLabel => ?_)
  exact hUser k (List.mem_filterMap.mpr ⟨l, hl, hLabel⟩)

def resetTransmitter : CanTransmitter := ⟨0x1C000000, fun _ => ⟨0, 0, 0, 0⟩, [], []⟩

def sharingStart (sys : Sys) : CanSharing := ⟨sys, resetTransmitter, fun _ => .outside, []⟩

/-- Task 1 is preempted while its frame waits for the bus. Task 2 wants to send and has to wait for
the mutex. -/
theorem can_frames_whole_waiting :
    ∃ start trace app, CanSharing.Run 0 start trace app ∧ app.device.sent.length = 1 ∧
      FramesWhole app := by
  have hCheck : ((boot sampleImage [sampleTask 1, sampleTask 1, .mutex (some 0)]).bind fun sys =>
      (Transition.execute (CanSharing.step 0) (sharingStart sys)
        ([.kernel (.call (.mutexLock (some 0) osWaitForever)), .transmit (some blankFrame)] ++
        List.replicate 8 (.access 0) ++
        [.kernel .tick, .kernel .pendSV, .kernel (.call (.mutexLock (some 0) osWaitForever)),
          .kernel .pendSV, .complete ⟨0, true, false, false⟩])).map fun r =>
        decide (r.2.device.sent.length = 1) &&
          (CanSharing.kernelTrace r.1).all fun l => decide (UserBlocks l)) = some true := by
    decide +kernel
  obtain ⟨sys, hBoot, hCheck⟩ := Option.bind_eq_some_iff.mp hCheck
  obtain ⟨⟨trace, app⟩, hRun, hCheck⟩ := Option.map_eq_some_iff.mp hCheck
  simp only [Bool.and_eq_true, decide_eq_true_eq, List.all_eq_true] at hCheck
  obtain ⟨hSent, hUser⟩ := hCheck
  have hStart : (sharingStart sys).Starts := by
    refine ⟨⟨sampleImage, _, hBoot⟩, fun _ => rfl, rfl, rfl, rfl, ?_⟩
    change ∀ x < 3, resetTransmitter.vacant x = true
    decide
  have hRun : CanSharing.Run 0 (sharingStart sys) trace app := Transition.run_of_execute hRun
  exact ⟨sharingStart sys, trace, app, hRun, hSent, can_frames_whole hStart hRun hUser⟩

end KoRTOS.App
