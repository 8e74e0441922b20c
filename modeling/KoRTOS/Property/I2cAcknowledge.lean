import KoRTOS.Hal.I2cInterrupts

/-!
# Acknowledging all but the last byte

By polling, `I2C_master_receive` acknowledges every byte but the last, stores all of them and
sets ACK again, whatever the order of its accesses and of what the peripheral does. The
same holds of `I2C_master_receive_IT` with `I2C_EV_IRQ_handling` if more than one byte is to be
received. A single byte is asked for with ACK still set: the handler tests ADDR and MSL, which
are reads of `SR1` and of `SR2`, before it clears ACK.
-/

namespace KoRTOS.Hal

open RegisterBits Accesses Rounds I2cDevice I2cProg I2cHandle

inductive I2cMode where
  | polling
  | interrupt
  deriving DecidableEq, Repr

/-- A call as it runs: its accesses, the peripheral, and the handle once all is received. -/
structure I2cCall where
  State : Type
  start : State
  step : I2cInput → State → State
  device : State → I2cDevice
  next? : State → Option I2cAccess
  result? : State → Option I2cHandle
  fair : (Nat → I2cInput) → Prop

namespace I2cReception

variable (r : I2cReception)

def pollingStart : I2cProg I2cHandle × I2cDevice :=
  (r.handle.masterReceive r.pRxBuffer r.len r.slaveAddr r.rsEnable, r.device)

def pollingCall : I2cCall where
  State := I2cProg I2cHandle × I2cDevice
  start := r.pollingStart
  step := pollingStep r.bus.words r.ahead
  device s := s.2
  next? s := s.1.next?
  result? s :=
    match s.1 with
    | .pure handle => some handle
    | _ => none
  fair input := Goes I2cInput.role input

/-- All is received when the driver is ready again. The handler may be invoked at any time. -/
def interruptCall : I2cCall where
  State := I2cItState
  start := r.itStart
  step := r.itStep
  device s := s.device
  next? s := s.next?
  result? s := if s.handler.isNone ∧ s.handle.txRxState = .ready then some s.handle else none
  fair input := Goes I2cInput.role input ∧ Often (· = .interrupt) input ∧
    ∃ n, (after r.itStep input r.itStart n).call.next? = none

def call : I2cMode → I2cCall
  | .polling => r.pollingCall
  | .interrupt => r.interruptCall

/-- All bytes are stored in order, ACK is set again, all but the last byte were acknowledged, and
the last was not if it could not come in before ACK was cleared. -/
structure Complete (handle : I2cHandle) (device : I2cDevice) : Prop where
  stores : handle.stores = r.handle.stores ++
    (List.range r.len.toNat).map fun i => (r.pRxBuffer + i, (r.bus.words i).setWidth 8)
  restored : device.acking = true
  acknowledged : ∀ i, i + 1 < r.len.toNat → device.answers[i]? = some true
  refused : r.ahead = 1 ∨ r.len = 1 → device.answers[r.len.toNat - 1]? = some false

/-- In every state ACK is set while more than two bytes are left, and the next access is one that
is permitted; the call ends if it is not starved, and then all is received. -/
structure Correct (call : I2cCall) : Prop where
  acking : ∀ input n, (call.device (after call.step input call.start n)).taken + 2 < r.len.toNat →
    (call.device (after call.step input call.start n)).acking = true
  permitted : ∀ input n i, call.next? (after call.step input call.start n) = some i →
    (call.device (after call.step input call.start n)).Permitted r.len.toNat i
  complete : ∀ input n handle, call.result? (after call.step input call.start n) = some handle →
    r.Complete handle (call.device (after call.step input call.start n))
  ends : ∀ input, call.fair input →
    ∃ n handle, call.result? (after call.step input call.start n) = some handle

def Acknowledges (mode : I2cMode) : Prop := r.Correct (r.call mode)

variable {r}

theorem complete_of_served {handle : I2cHandle} {device : I2cDevice}
    (hStores : handle.stores = (r.received r.len.toNat).stores)
    (hServed : device.Served r.len.toNat r.ahead) : r.Complete handle device := by
  have hTaken := hServed.taken
  have hLe := hServed.serving.taken_le
  have hSome := hServed.serving.some_bytes
  refine ⟨hStores, hServed.acking, ?_, ?_⟩
  · exact fun i hi => hServed.serving.acked i hi (by omega)
  · intro hLast
    have hLt : r.len.toNat - 1 < device.answers.length := by omega
    rw [List.getElem?_eq_getElem hLt]
    refine congrArg some (hServed.serving.refused (hLast.imp_right fun hOne => ?_) _
      (List.getElem?_eq_getElem hLt))
    exact congrArg BitVec.toNat hOne

theorem hosts_polling : Device.Hosts (i2cDevice r.bus.words r.ahead) I2cInput.role
    (pollingStep r.bus.words r.ahead)
    (fun (p : I2cProg I2cHandle) device s => s = (p, device)) where
  occur := by
    rintro (e | _ | w) e' p device s hRole _ rfl
    · obtain rfl := Role.occur.inj hRole
      rfl
    · cases hRole
    · cases hRole
  access := by
    rintro (e | _ | w) w' p device s hRole _ rfl
    · cases hRole
    · cases hRole
    · obtain rfl := Role.access.inj hRole
      rfl
  other := by
    rintro (e | _ | w) p device s hRole _ rfl
    · cases hRole
    · rfl
    · cases hRole

def Receives (r : I2cReception) (s : I2cProg I2cHandle × I2cDevice) : Prop :=
  (i2cDevice r.bus.words r.ahead).Achieves (fun i device => device.Sound r.len.toNat r.ahead i) s.1
    (I2cHandle.Received r.bus.words r.len.toNat r.ahead r.pRxBuffer r.handle) s.2

theorem receives_start : r.Receives r.pollingStart :=
  I2cHandle.triple_masterReceive r.ahead_pos r.ackEnabled r.device ⟨serving_device, rfl⟩

theorem Receives.step {s : I2cProg I2cHandle × I2cDevice} (h : r.Receives s) (i : I2cInput) :
    r.Receives (pollingStep r.bus.words r.ahead i s) := by
  cases i with
  | change e => exact Device.Achieves.occur e h
  | interrupt => exact h
  | access w => exact Device.Achieves.advance w h

theorem Receives.complete {s : I2cProg I2cHandle × I2cDevice} {handle : I2cHandle}
    (h : r.Receives s) (hResult : r.pollingCall.result? s = some handle) :
    r.Complete handle s.2 := by
  obtain ⟨p, device⟩ := s
  cases p with
  | access i next => cases hResult
  | await i ready next => cases hResult
  | pure last =>
    obtain rfl := Option.some.inj hResult
    obtain ⟨hHandle, hServed⟩ := show I2cHandle.Received r.bus.words r.len.toNat r.ahead
      r.pRxBuffer r.handle last device from h device .refl
    exact complete_of_served (congrArg I2cHandle.stores hHandle) hServed

theorem correct_pollingCall : r.Correct r.pollingCall := by
  have hRun : ∀ input n, r.Receives
      (after (pollingStep r.bus.words r.ahead) input r.pollingStart n) :=
    fun input n => after_invariant receives_start (fun i s h => h.step i) n
  constructor
  · intro input n hMore
    have hServing := Device.Achieves.holds (hRun input n)
      (A := fun device => device.Serving r.len.toNat r.ahead) (fun _ _ h => h.serving)
      fun _ _ h => h.2.serving
    exact hServing.kept hMore
  · intro input n i hNext
    exact (Device.Achieves.allows (hRun input n) hNext).permitted
  · exact fun input n handle hResult => (hRun input n).complete hResult
  · intro input hFair
    obtain ⟨n, _, handle, device, hEnd, _⟩ := hosts_polling.ends (n := 0) hFair
      (show r.pollingStart = (r.pollingStart.1, r.pollingStart.2) from rfl) receives_start
    refine ⟨n, handle, ?_⟩
    change r.pollingCall.result? (after (pollingStep r.bus.words r.ahead) input r.pollingStart n) =
      some handle
    exact congrArg r.pollingCall.result? hEnd

theorem Kept.complete {s : I2cItState} {handle : I2cHandle} (h : r.Kept s)
    (hResult : r.interruptCall.result? s = some handle) : r.Complete handle s.device := by
  obtain ⟨⟨hIdle, hReady⟩, hHandle⟩ := (Option.ite_none_right_eq_some ..).mp hResult
  obtain rfl := Option.some.inj hHandle
  have hDone := h.done (Option.isNone_iff_eq_none.mp hIdle) hReady
  exact complete_of_served hDone.stores hDone.served

theorem correct_interruptCall (hMany : r.len ≠ 1) : r.Correct r.interruptCall := by
  have hRun : ∀ input n, r.Kept (after r.itStep input r.itStart n) :=
    fun input n => after_invariant kept_itStart (fun i s h => h.step hMany i) n
  constructor
  · exact fun input n hMore => (hRun input n).serving.kept hMore
  · exact fun input n i hNext => ((hRun input n).sound hNext).permitted
  · exact fun input n handle hResult => (hRun input n).complete hResult
  · rintro input ⟨hGoes, hOften, n, hReturned⟩
    obtain ⟨m, _, hIdle, hDone⟩ := leads_finished hMany hGoes hOften n ⟨hRun input n, hReturned⟩
    refine ⟨m, (after r.itStep input r.itStart m).handle, if_pos ⟨?_, hDone.ready⟩⟩
    exact Option.isNone_iff_eq_none.mpr hIdle

def untilAddr : List I2cInput :=
  List.replicate 8 (.access 0) ++
    [.change .sb, .interrupt, .access 0, .access 0, .access 0, .access 0, .change .addr, .access 0]

theorem itStep_check {device : I2cDevice} {handle : I2cHandle} {call : I2cProg I2cState}
    {f : I2cFlag} {temp : Bool} {p : I2cProg I2cHandle} {rest : I2cHandle → I2cProg I2cHandle}
    (hTemp : temp = true) (hShows : device.shows f = true) (hGoes : (p >>= rest).next?.isSome) :
    r.itStep (.access 0) ⟨device, handle, call, some ((perform .readSr1 >>= fun sr1 =>
      if temp && sr1.getLsbD f.bit then p else pure handle) >>= rest)⟩ =
    ⟨{ device with sr1Read := true }, handle, call, some (p >>= rest)⟩ := by
  change I2cItState.resume
    ((if temp && (device.sr1 0).getLsbD f.bit then p else pure handle) >>= rest) _ = _
  rw [hTemp, sr1_bit, hShows]
  exact I2cItState.resume_of_next hGoes

theorem foldl_untilAddr : ∃ s, untilAddr.foldl (fun s i => r.itStep i s) r.itStart = s ∧
    s.next? = some .readSr2 ∧ s.device.stage = .addr ∧ s.device.sr1Read = true ∧
    s.device.acking = true := by
  let cr2 := r.cr2 ||| bit i2cCr2Itbufen ||| bit i2cCr2Itevten ||| bit i2cCr2Iterren
  have hStart : (r.cr1 ||| bit i2cCr1Start).getLsbD i2cCr1Start = true :=
    getLsbD_or_bit_self (by decide)
  have hEnabled : cr2.getLsbD i2cCr2Itevten = true := by
    rw [getLsbD_or_bit_of_ne (by decide) (by decide), getLsbD_or_bit_self (by decide)]
  let atSb : I2cDevice :=
    ⟨(r.cr1 ||| bit i2cCr1Start) &&& ~~~bit i2cCr1Start, cr2, .sb, r.sr1Read, [], 0⟩
  let afterAddr : I2cHandle → I2cProg I2cHandle := fun handle => do
    let handle ← checkBtf (cr2.getLsbD i2cCr2Itevten) handle
    let handle ← checkStopf (cr2.getLsbD i2cCr2Itevten) handle
    let handle ← checkTxe r.bus.memory (cr2.getLsbD i2cCr2Itbufen) (cr2.getLsbD i2cCr2Itevten) handle
    checkRxne (cr2.getLsbD i2cCr2Itbufen) (cr2.getLsbD i2cCr2Itevten) handle
  let afterSb : I2cHandle → I2cProg I2cHandle := fun handle =>
    checkAddr (cr2.getLsbD i2cCr2Itevten) handle >>= afterAddr
  have hAsked : (List.replicate 8 (.access 0)).foldl (fun s i => r.itStep i s) r.itStart =
      ⟨{ r.device with cr1 := r.cr1 ||| bit i2cCr1Start, cr2 := cr2, stage := .starting }, r.busy,
        pure r.handle.txRxState, none⟩ := by
    rw [itStart, masterReceiveIt_eq]
    change (⟨{ r.device with
      cr1 := r.cr1 ||| bit i2cCr1Start
      cr2 := cr2
      stage := if (r.cr1 ||| bit i2cCr1Start).getLsbD i2cCr1Start then .starting else .idle },
      r.busy, pure r.handle.txRxState, none⟩ : I2cItState) = _
    rw [hStart]
    rfl
  have hSb : r.itStep (.access 0) ⟨atSb, r.busy, pure r.handle.txRxState,
        some (checkSb (cr2.getLsbD i2cCr2Itevten) r.busy >>= afterSb)⟩ = _ :=
    itStep_check (f := .sb) hEnabled rfl rfl
  have hAddr : r.itStep (.access 0) ⟨{ atSb with stage := .addr, sr1Read := true }, r.busy,
        pure r.handle.txRxState, some (checkAddr (cr2.getLsbD i2cCr2Itevten) r.busy >>= afterAddr)⟩ =
      _ := itStep_check (f := .addr) hEnabled rfl rfl
  have hUntil : untilAddr.foldl (fun s i => r.itStep i s) r.itStart =
      r.itStep (.access 0) ⟨{ atSb with stage := .addr, sr1Read := true }, r.busy,
        pure r.handle.txRxState,
        some (checkAddr (cr2.getLsbD i2cCr2Itevten) r.busy >>= afterAddr)⟩ := by
    rw [untilAddr, List.foldl_append, hAsked]
    change r.itStep (.access 0) (r.itStep (.change .addr) (r.itStep (.access 0)
      (r.itStep (.access 0) ⟨atSb, r.busy, pure r.handle.txRxState,
        some (checkSb (cr2.getLsbD i2cCr2Itevten) r.busy >>= afterSb)⟩))) = _
    rw [hSb]
    rfl
  refine ⟨_, hUntil.trans hAddr, rfl, rfl, rfl, ?_⟩
  change atSb.cr1.getLsbD i2cCr1Ack = true
  rw [getLsbD_and_not_bit_of_ne (by decide) (by decide),
    getLsbD_or_bit_of_ne (by decide) (by decide), r.acking]

theorem not_correct_of_one (hOne : r.len = 1) : ¬ r.Correct r.interruptCall := by
  intro h
  obtain ⟨s, hRun, hNext, hStage, hRead, hAcking⟩ := foldl_untilAddr (r := r)
  obtain ⟨input, hInput⟩ : ∃ input, after r.itStep input r.itStart untilAddr.length =
      untilAddr.foldl (fun s i => r.itStep i s) r.itStart :=
    exists_after_eq_foldl (.access 0) untilAddr
  rw [hRun] at hInput
  have hPermitted : s.device.Permitted r.len.toNat .readSr2 := by
    rw [← hInput] at hNext ⊢
    exact h.permitted input untilAddr.length .readSr2 hNext
  have hNot := hPermitted (congrArg BitVec.toNat hOne) hStage hRead
  exact Bool.false_ne_true (hNot.symm.trans hAcking)

theorem acknowledges_iff (r : I2cReception) (mode : I2cMode) :
    r.Acknowledges mode ↔ mode = .polling ∨ r.len ≠ 1 := by
  constructor
  · intro h
    cases mode with
    | polling => exact .inl rfl
    | interrupt => exact .inr fun hOne => not_correct_of_one hOne h
  · rintro (rfl | hMany)
    · exact correct_pollingCall
    · cases mode with
      | polling => exact correct_pollingCall
      | interrupt => exact correct_interruptCall hMany

/-- One byte is asked for, as `I2C_periph_control` leaves `CR1`. -/
def oneByte : I2cReception where
  bus := .numbered
  ahead := 1
  cr1 := bit i2cCr1Ack
  cr2 := 0
  sr1Read := false
  handle :=
    { ackControl := i2cAckEnable
      pTxBuffer := NULL
      pRxBuffer := NULL
      txLen := 0
      rxLen := 0
      txRxState := .ready
      slaveAddr := 0
      rxSize := 0
      repeatedStart := i2cRsDisable
      stores := []
      events := [] }
  pRxBuffer := 0x20000000
  len := 1
  slaveAddr := 0x68
  rsEnable := i2cRsDisable
  ahead_pos := Nat.zero_lt_one
  len_ne_zero := by decide
  acking := by decide
  ackEnabled := rfl
  free := rfl

/-- Three bytes with a repeated start; one may wait while another comes in. -/
def threeBytes : I2cReception :=
  { oneByte with
    ahead := 2
    cr1 := bit i2cCr1Ack ||| bit 0
    sr1Read := true
    len := 3
    rsEnable := 1
    ahead_pos := Nat.zero_lt_two
    len_ne_zero := by decide
    acking := by decide }

theorem threeBytes_acknowledged :
    threeBytes.Acknowledges .interrupt ∧ threeBytes.Acknowledges .polling :=
  ⟨(acknowledges_iff threeBytes .interrupt).mpr (.inr (by decide)),
    (acknowledges_iff threeBytes .polling).mpr (.inl rfl)⟩

theorem oneByte_not_acknowledged : ¬ oneByte.Acknowledges .interrupt :=
  not_correct_of_one rfl

end I2cReception

end KoRTOS.Hal
