import KoRTOS.Hal.CanInit

/-!
# Time-outs of the CAN driver

`CAN_transmit` and `CAN_init` decide from the budget that is left whether the
flag they waited for was seen. What they report is true for every sequence of
values the registers are read as, unless a flag first shows at the last poll of
its loop.
-/

namespace KoRTOS.Hal

open Polling

namespace TxCall

/-- The next access of a call that nothing interrupts; a read returns `tsr`. -/
def advance (tsr : U32) : TxCall → TxCall
  | .requesting poll mailbox => .requested poll mailbox
  | .clearing _ status _ => .returned status
  | call => call.read tsr

/-- A call of `CAN_transmit` after `n` accesses; an access that reads gets its value of `tsr`. -/
def transmit (frame : Option CanFrame) (tsr : Nat → U32) : Nat → TxCall
  | 0 => .start true frame
  | n + 1 => (transmit frame tsr n).advance (tsr n)

/-- The loop on TME of a mailbox. -/
def loop (mailbox : Nat) : Loop TxCall U32 where
  head := .waiting mailbox
  notYet tsr := decide (tsr &&& canTsrTmeMsk mailbox = 0)
  expired := .returned .errTimeout
  passed := .checking mailbox
  head_ne_expired _ := TxCall.noConfusion
  head_ne_passed _ := TxCall.noConfusion
  passed_ne_expired := TxCall.noConfusion

end TxCall

theorem stepTask_call (tx : CanTx) (task : Nat) :
    (tx.stepTask task).calls task = (tx.calls task).advance tx.tsr := by
  unfold CanTx.stepTask
  generalize tx.calls task = call
  cases call <;> exact CanTx.setCall_self

section Transmit

variable {frame : Option CanFrame} {tsr : Nat → U32} {s n mailbox : Nat} {status : KhalStatus}

open TxCall

def TransmitReturns (frame : Option CanFrame) (tsr : Nat → U32) (status : KhalStatus) : Prop :=
  ∃ n, transmit frame tsr n = .returned status

/-- A time-out is only reported if no poll saw TME, and if one did, the result is that of TXOK
in the read after the loop. -/
structure TransmitReports (frame : Option CanFrame) (tsr : Nat → U32) : Prop where
  timeout : ∀ s mailbox, transmit frame tsr s = .waiting mailbox canInitTimeout →
    TransmitReturns frame tsr .errTimeout →
      ∀ i ≤ canInitTimeout, tsr (s + i) &&& canTsrTmeMsk mailbox = 0
  result : ∀ s mailbox e, transmit frame tsr s = .waiting mailbox canInitTimeout →
    e ≤ canInitTimeout → (∀ i < e, tsr (s + i) &&& canTsrTmeMsk mailbox = 0) →
      tsr (s + e) &&& canTsrTmeMsk mailbox ≠ 0 →
        (TransmitReturns frame tsr .ok ↔ tsr (s + e + 1) &&& canTsrTxokMsk mailbox ≠ 0) ∧
          (TransmitReturns frame tsr .errTx ↔ tsr (s + e + 1) &&& canTsrTxokMsk mailbox = 0)

/-- The mailbox that the call loads: CODE in its second read of TSR. -/
def chosenMailbox (tsr : Nat → U32) : Nat := ((tsr 1 &&& canTsrCodeMsk) >>> canTsrCodePos).toNat

/-- A frame is loaded, and TME of its mailbox first shows at the last poll of the loop. -/
structure TransmitLate (frame : Option CanFrame) (tsr : Nat → U32) : Prop where
  valid : ∃ f ∈ frame, ¬ f.outOfRange
  free : tsr 0 &&& (canTsrTmeMsk 0 ||| canTsrTmeMsk 1 ||| canTsrTmeMsk 2) ≠ 0
  mailbox : chosenMailbox tsr < 3
  notYet : ∀ i < canInitTimeout, tsr (3 + i) &&& canTsrTmeMsk (chosenMailbox tsr) = 0
  last : tsr (3 + canInitTimeout) &&& canTsrTmeMsk (chosenMailbox tsr) ≠ 0

theorem transmit_follows : (loop mailbox).Follows (transmit frame tsr) tsr := by
  intro i n hHead
  change (transmit frame tsr i).advance (tsr i) = _
  rw [hHead]
  simp [loop, advance, TxCall.read, poll]

theorem transmit_returned (h : transmit frame tsr s = .returned status) (hn : s ≤ n) :
    transmit frame tsr n = .returned status := by
  induction n, hn using Nat.le_induction with
  | base => exact h
  | succ n _ ih => rw [transmit, ih]; rfl

theorem TransmitReturns.unique {status' : KhalStatus} (h : TransmitReturns frame tsr status)
    (h' : TransmitReturns frame tsr status') : status = status' := by
  obtain ⟨n, hn⟩ := h
  obtain ⟨n', hn'⟩ := h'
  have hMax := transmit_returned hn (Nat.le_max_left n n')
  rw [transmit_returned hn' (Nat.le_max_right n n')] at hMax
  exact (TxCall.returned.inj hMax).symm

theorem transmit_checking (h : transmit frame tsr s = .checking mailbox) :
    TransmitReturns frame tsr
      (if tsr s &&& canTsrTxokMsk mailbox = 0 then .errTx else .ok) := by
  have hAck : transmit frame tsr (s + 1) =
      .acking mailbox (if tsr s &&& canTsrTxokMsk mailbox = 0 then .errTx else .ok) := by
    rw [transmit, h]
    exact (apply_ite (TxCall.acking mailbox) _ _ _).symm
  have hClear : transmit frame tsr (s + 2) = .clearing mailbox
      (if tsr s &&& canTsrTxokMsk mailbox = 0 then .errTx else .ok)
      (tsr (s + 1) ||| canTsrRqcpMsk mailbox) := by
    rw [transmit, hAck]
    rfl
  refine ⟨s + 3, ?_⟩
  rw [transmit, hClear]
  rfl

/-- What the accesses before the loop have shown. -/
def Located (frame : Option CanFrame) (tsr : Nat → U32) (s : Nat) : TxCall → Prop
  | .testing poll => s = 0 ∧ poll = true ∧ ∃ f ∈ frame, ¬ f.outOfRange
  | .choosing poll => s = 1 ∧ poll = true ∧ (∃ f ∈ frame, ¬ f.outOfRange) ∧
      tsr 0 &&& (canTsrTmeMsk 0 ||| canTsrTmeMsk 1 ||| canTsrTmeMsk 2) ≠ 0
  | .requesting poll mailbox => s = 2 ∧ poll = true ∧ (∃ f ∈ frame, ¬ f.outOfRange) ∧
      tsr 0 &&& (canTsrTmeMsk 0 ||| canTsrTmeMsk 1 ||| canTsrTmeMsk 2) ≠ 0 ∧
      mailbox = chosenMailbox tsr
  | .waiting mailbox timeout => timeout + s = canInitTimeout + 3 ∧
      (∃ f ∈ frame, ¬ f.outOfRange) ∧
      tsr 0 &&& (canTsrTmeMsk 0 ||| canTsrTmeMsk 1 ||| canTsrTmeMsk 2) ≠ 0 ∧
      mailbox = chosenMailbox tsr ∧ chosenMailbox tsr < 3
  | _ => True

theorem Located.advance {call : TxCall} (h : Located frame tsr s call) :
    Located frame tsr (s + 1) (call.advance (tsr s)) := by
  cases call with
  | testing poll =>
    obtain ⟨rfl, rfl, hValid⟩ := h
    simp only [TxCall.advance, TxCall.read]
    split
    · trivial
    · next hFree => exact ⟨rfl, rfl, hValid, hFree⟩
  | choosing poll =>
    obtain ⟨rfl, rfl, hValid, hFree⟩ := h
    exact ⟨rfl, rfl, hValid, hFree, rfl⟩
  | requesting poll mailbox =>
    obtain ⟨rfl, rfl, hValid, hFree, rfl⟩ := h
    simp only [TxCall.advance, TxCall.requested, if_true]
    split
    · next hMailbox => exact ⟨rfl, hValid, hFree, rfl, hMailbox⟩
    · trivial
  | waiting mailbox timeout =>
    obtain ⟨hCount, hRest⟩ := h
    simp only [TxCall.advance, TxCall.read]
    split
    · next hLoop => exact ⟨by omega, hRest⟩
    · split <;> trivial
  | checking mailbox =>
    simp only [TxCall.advance, TxCall.read]
    split <;> trivial
  | _ => trivial

theorem located_transmit : Located frame tsr s (transmit frame tsr s) := by
  induction s with
  | zero =>
    cases frame with
    | none => trivial
    | some f =>
      simp only [transmit, TxCall.start]
      split
      · trivial
      · next hValid => exact ⟨rfl, rfl, f, rfl, hValid⟩
  | succ s ih => exact ih.advance

theorem transmit_waiting (hValid : ∃ f ∈ frame, ¬ f.outOfRange)
    (hFree : tsr 0 &&& (canTsrTmeMsk 0 ||| canTsrTmeMsk 1 ||| canTsrTmeMsk 2) ≠ 0)
    (hMailbox : chosenMailbox tsr < 3) :
    transmit frame tsr 3 = .waiting (chosenMailbox tsr) canInitTimeout := by
  obtain ⟨f, hFrame, hRange⟩ := hValid
  have hFrame : frame = some f := hFrame
  have hStart : transmit frame tsr 0 = .testing true := by
    rw [hFrame, transmit, TxCall.start, if_neg hRange]
  have hTest : transmit frame tsr 1 = .choosing true := by
    rw [transmit, hStart]
    exact if_neg hFree
  have hChoose : transmit frame tsr 2 = .requesting true (chosenMailbox tsr) := by
    rw [transmit, hTest]
    rfl
  rw [transmit, hChoose]
  exact if_pos hMailbox

theorem notYet_iff {value : U32} :
    (loop mailbox).notYet value = true ↔ value &&& canTsrTmeMsk mailbox = 0 :=
  decide_eq_true_iff

theorem seen_iff {e : Nat} : Seen (loop mailbox).notYet tsr s e ↔
    (∀ i < e, tsr (s + i) &&& canTsrTmeMsk mailbox = 0) ∧
      tsr (s + e) &&& canTsrTmeMsk mailbox ≠ 0 := by
  simp only [Seen, notYet_iff]
  exact and_congr_right fun _ => decide_eq_false_iff_not

theorem late_of_seen (h : transmit frame tsr s = .waiting mailbox canInitTimeout)
    (hSeen : Seen (loop mailbox).notYet tsr s canInitTimeout) : TransmitLate frame tsr := by
  have hLocated := @located_transmit frame tsr s
  rw [h] at hLocated
  obtain ⟨hCount, hValid, hFree, rfl, hMailbox⟩ := hLocated
  obtain rfl : s = 3 := by omega
  obtain ⟨hNotYet, hLast⟩ := seen_iff.mp hSeen
  exact ⟨hValid, hFree, hMailbox, hNotYet, hLast⟩

/-- The time-out and the result are reported as they are, unless TME shows at the last poll. -/
theorem transmitReports_iff : TransmitReports frame tsr ↔ ¬ TransmitLate frame tsr := by
  constructor
  · intro h hLate
    have hEnter := transmit_waiting hLate.valid hLate.free hLate.mailbox
    have hGivenUp := Loop.expired_of_notYet transmit_follows hEnter
      fun i hi => notYet_iff.mpr (hLate.notYet i hi)
    exact hLate.last (h.timeout 3 _ hEnter ⟨_, hGivenUp⟩ canInitTimeout (Nat.le_refl _))
  · intro hLate
    have hPassed : ∀ s mailbox e, transmit frame tsr s = .waiting mailbox canInitTimeout →
        e ≤ canInitTimeout → Seen (loop mailbox).notYet tsr s e →
          TransmitReturns frame tsr
            (if tsr (s + e + 1) &&& canTsrTxokMsk mailbox = 0 then .errTx else .ok) := by
      intro s mailbox e hEnter he hSeen
      have hReports := (Loop.reports_iff transmit_follows hEnter).mpr
        fun hLast => hLate (late_of_seen hEnter hLast)
      exact transmit_checking (hReports.passed e he hSeen)
    constructor
    · intro s mailbox hEnter hReturns
      obtain ⟨e, he, hSeen⟩ | hNone :=
        seen_or_notYet (loop mailbox).notYet tsr (canInitTimeout + 1) s
      · have hStatus := hReturns.unique (hPassed s mailbox e hEnter (by omega) hSeen)
        split at hStatus <;> cases hStatus
      · exact fun i hi => notYet_iff.mp (hNone i (by omega))
    · intro s mailbox e hEnter he hNotYet hSaw
      have hReturns := hPassed s mailbox e hEnter he (seen_iff.mpr ⟨hNotYet, hSaw⟩)
      split at hReturns
      · next hClear =>
        refine ⟨⟨fun hOk => ?_, fun hSet => absurd hClear hSet⟩, ⟨fun _ => hClear, fun _ => hReturns⟩⟩
        cases hReturns.unique hOk
      · next hSet =>
        refine ⟨⟨fun _ => hSet, fun _ => hReturns⟩, ⟨fun hTx => ?_, fun hClear => absurd hClear hSet⟩⟩
        cases hReturns.unique hTx

end Transmit

namespace CanInitCall

def enterLoop (reg : CanInitReg) : Loop CanInitCall U32 where
  head t := ⟨reg, .enteringInit t⟩
  notYet := inakClear
  expired := ⟨reg, .returned .errTimeout⟩
  passed := ⟨reg.exitSleep, .exitingSleep canInitTimeout⟩
  head_ne_expired _ h := CanInitPhase.noConfusion (congrArg phase h)
  head_ne_passed _ h := CanInitPhase.noConfusion (congrArg phase h)
  passed_ne_expired h := CanInitPhase.noConfusion (congrArg phase h)

theorem configure_phase (config : CanConfig) (reg : CanInitReg) :
    (configure config reg).phase = .leavingInit canInitTimeout ∨
      (configure config reg).phase = .returned .errInvalidParam := by
  unfold configure
  split
  · exact Or.inl rfl
  · exact Or.inr rfl

def sleepLoop (config : CanConfig) (reg : CanInitReg) : Loop CanInitCall U32 where
  head t := ⟨reg, .exitingSleep t⟩
  notYet := slakSet
  expired := ⟨reg, .returned .errTimeout⟩
  passed := configure config reg
  head_ne_expired _ h := CanInitPhase.noConfusion (congrArg phase h)
  head_ne_passed _ h := by
    obtain hPhase | hPhase := configure_phase config reg <;> rw [← h] at hPhase <;> cases hPhase
  passed_ne_expired h := by
    obtain hPhase | hPhase := configure_phase config reg <;> rw [h] at hPhase <;> cases hPhase

def leaveLoop (reg : CanInitReg) : Loop CanInitCall U32 where
  head t := ⟨reg, .leavingInit t⟩
  notYet := inakSet
  expired := ⟨reg, .returned .errTimeout⟩
  passed := ⟨reg, .returned .ok⟩
  head_ne_expired _ h := CanInitPhase.noConfusion (congrArg phase h)
  head_ne_passed _ h := CanInitPhase.noConfusion (congrArg phase h)
  passed_ne_expired h := by cases CanInitPhase.returned.inj (congrArg phase h)

end CanInitCall

def canInit (canx : CanPeripheral) (config : CanConfig) (reg : CanInitReg) (msr : Nat → U32) :
    Nat → CanInitCall :=
  CanInitCall.after config (.start (some ⟨some canx, config⟩) reg) msr

open CanInitCall

/-- A time-out in one of the three loops is only reported if no poll of it saw the flag, and
if one did, the call goes on with the next phase. -/
structure InitReports (canx : CanPeripheral) (config : CanConfig) (reg : CanInitReg)
    (msr : Nat → U32) : Prop where
  enterInit : ∀ r s, canInit canx config reg msr s = (enterLoop r).head canInitTimeout →
    (enterLoop r).Reports (canInit canx config reg msr) msr canInitTimeout s
  exitSleep : ∀ r s, canInit canx config reg msr s = (sleepLoop config r).head canInitTimeout →
    (sleepLoop config r).Reports (canInit canx config reg msr) msr canInitTimeout s
  leaveInit : ∀ r s, canInit canx config reg msr s = (leaveLoop r).head canInitTimeout →
    (leaveLoop r).Reports (canInit canx config reg msr) msr canInitTimeout s

/-- In one of the loops that the call enters, the flag first shows at the last poll. -/
def InitLate (config : CanConfig) (msr : Nat → U32) : Prop :=
  ¬ config.invalid ∧
    (Seen inakClear msr 0 canInitTimeout ∨
      ∃ e < canInitTimeout, Seen inakClear msr 0 e ∧
        (Seen slakSet msr (e + 1) canInitTimeout ∨
          ∃ e' < canInitTimeout, Seen slakSet msr (e + 1) e' ∧
            Seen inakSet msr (e + 1 + e' + 1) canInitTimeout))

section Init

variable {canx : CanPeripheral} {config : CanConfig} {reg r : CanInitReg} {msr : Nat → U32}
  {s : Nat}

theorem enterLoop_follows : (enterLoop r).Follows (canInit canx config reg msr) msr := by
  intro i n hHead
  change CanInitCall.read config (msr i) (canInit canx config reg msr i) = _
  rw [hHead]
  rfl

theorem sleepLoop_follows : (sleepLoop config r).Follows (canInit canx config reg msr) msr := by
  intro i n hHead
  change CanInitCall.read config (msr i) (canInit canx config reg msr i) = _
  rw [hHead]
  rfl

theorem leaveLoop_follows : (leaveLoop r).Follows (canInit canx config reg msr) msr := by
  intro i n hHead
  change CanInitCall.read config (msr i) (canInit canx config reg msr i) = _
  rw [hHead]
  rfl

def InitLocated (msr : Nat → U32) (s : Nat) : CanInitPhase → Prop
  | .enteringInit timeout => timeout + s = canInitTimeout ∧ ∀ i < s, inakClear (msr (0 + i)) = true
  | .exitingSleep timeout => ∃ e < canInitTimeout, Seen inakClear msr 0 e ∧
      ∃ j, s = e + 1 + j ∧ timeout + j = canInitTimeout ∧ ∀ i < j, slakSet (msr (e + 1 + i)) = true
  | .leavingInit timeout => ∃ e < canInitTimeout, Seen inakClear msr 0 e ∧
      ∃ e' < canInitTimeout, Seen slakSet msr (e + 1) e' ∧
        ∃ j, s = e + 1 + e' + 1 + j ∧ timeout + j = canInitTimeout
  | .returned _ => True

theorem InitLocated.read {call : CanInitCall} (h : InitLocated msr s call.phase) :
    InitLocated msr (s + 1) (CanInitCall.read config (msr s) call).phase := by
  obtain ⟨reg, phase⟩ := call
  cases phase with
  | enteringInit timeout =>
    obtain ⟨hCount, hNotYet⟩ := h
    simp only [CanInitCall.read, poll]
    split
    · next hPoll =>
      refine ⟨by omega, fun i hi => ?_⟩
      obtain hLt | rfl := Nat.lt_succ_iff_lt_or_eq.mp hi
      · exact hNotYet i hLt
      · rw [Nat.zero_add]
        exact hPoll.1
    · split
      · trivial
      · next hPoll hLeft =>
        have hSaw : inakClear (msr (0 + s)) = false := by
          rw [Nat.zero_add]
          exact Bool.eq_false_iff.mpr fun hClear => hPoll ⟨hClear, Nat.pos_of_ne_zero hLeft⟩
        exact ⟨s, by omega, ⟨hNotYet, hSaw⟩, 0, rfl, rfl, fun i hi => absurd hi (Nat.not_lt_zero i)⟩
  | exitingSleep timeout =>
    obtain ⟨e, he, hSeen, j, rfl, hCount, hNotYet⟩ := h
    simp only [CanInitCall.read, poll]
    split
    · next hPoll =>
      refine ⟨e, he, hSeen, j + 1, rfl, by omega, fun i hi => ?_⟩
      obtain hLt | rfl := Nat.lt_succ_iff_lt_or_eq.mp hi
      · exact hNotYet i hLt
      · exact hPoll.1
    · split
      · trivial
      · next hPoll hLeft =>
        have hSaw : slakSet (msr (e + 1 + j)) = false :=
          Bool.eq_false_iff.mpr fun hSet => hPoll ⟨hSet, Nat.pos_of_ne_zero hLeft⟩
        obtain hPhase | hPhase := configure_phase config reg
        · rw [hPhase]
          exact ⟨e, he, hSeen, j, by omega, ⟨hNotYet, hSaw⟩, 0, rfl, rfl⟩
        · rw [hPhase]
          trivial
  | leavingInit timeout =>
    obtain ⟨e, he, hSeen, e', he', hSeen', j, rfl, hCount⟩ := h
    simp only [CanInitCall.read, poll]
    split
    · exact ⟨e, he, hSeen, e', he', hSeen', j + 1, rfl, by omega⟩
    · split <;> trivial
  | returned status => trivial

theorem located_canInit : InitLocated msr s (canInit canx config reg msr s).phase := by
  induction s with
  | zero =>
    change InitLocated msr 0 (CanInitCall.start (some ⟨some canx, config⟩) reg).phase
    unfold CanInitCall.start
    dsimp only
    split
    · trivial
    · exact ⟨rfl, fun i hi => absurd hi (Nat.not_lt_zero i)⟩
  | succ s ih => exact ih.read

theorem canInit_invalid (h : config.invalid) :
    canInit canx config reg msr s = ⟨reg, .returned .errInvalidParam⟩ := by
  induction s with
  | zero =>
    change CanInitCall.start (some ⟨some canx, config⟩) reg = _
    exact if_pos h
  | succ s ih =>
    change CanInitCall.read config (msr s) (canInit canx config reg msr s) = _
    rw [ih]
    rfl

theorem valid_of_phase {phase : CanInitPhase} (h : (canInit canx config reg msr s).phase = phase)
    (hNe : phase ≠ .returned .errInvalidParam) : ¬ config.invalid := by
  intro hInvalid
  rw [canInit_invalid hInvalid] at h
  exact hNe h.symm

theorem configure_of_valid (h : ¬ config.invalid) (r : CanInitReg) :
    ∃ r', configure config r = ⟨r', .leavingInit canInitTimeout⟩ := by
  have hLow : ¬ canModeSilentLoopback < config.mode := fun hMode =>
    h (Or.inr (Or.inr (Or.inr (Or.inr (Or.inl hMode)))))
  have hMode : config.mode = canModeNormal ∨ config.mode = canModeLoopback ∨
      config.mode = canModeSilent ∨ config.mode = canModeSilentLoopback := by
    generalize config.mode = mode at hLow ⊢
    revert mode
    decide
  unfold configure
  obtain hMode | hMode | hMode | hMode := hMode <;> rw [hMode] <;> exact ⟨_, rfl⟩

theorem canInit_start (h : ¬ config.invalid) :
    canInit canx config reg msr 0 = (enterLoop (reg.requestInit canx)).head canInitTimeout :=
  if_neg h

theorem not_late_of_reports (h : InitReports canx config reg msr) : ¬ InitLate config msr := by
  rintro ⟨hValid, hLate⟩
  have hEnter : canInit canx config reg msr 0 =
      (enterLoop (reg.requestInit canx)).head canInitTimeout := canInit_start hValid
  obtain hLate | ⟨e, he, hSeen, hLate⟩ := hLate
  · exact (Loop.reports_iff enterLoop_follows hEnter).mp (h.enterInit _ 0 hEnter) hLate
  · have hSleep := Loop.passed_of_seen enterLoop_follows hEnter hSeen he
    rw [Nat.zero_add] at hSleep
    have hSleep : canInit canx config reg msr (e + 1) =
        (sleepLoop config (reg.requestInit canx).exitSleep).head canInitTimeout := hSleep
    obtain hLate | ⟨e', he', hSeen', hLate⟩ := hLate
    · exact (Loop.reports_iff sleepLoop_follows hSleep).mp (h.exitSleep _ _ hSleep) hLate
    · obtain ⟨r', hConfigured⟩ := configure_of_valid hValid (reg.requestInit canx).exitSleep
      have hLeave := Loop.passed_of_seen sleepLoop_follows hSleep hSeen' he'
      have hLeave : canInit canx config reg msr (e + 1 + e' + 1) =
          (leaveLoop r').head canInitTimeout := hLeave.trans hConfigured
      exact (Loop.reports_iff leaveLoop_follows hLeave).mp (h.leaveInit _ _ hLeave) hLate

/-- Each loop reports what it saw, unless the flag first shows at its last poll. -/
theorem initReports_iff : InitReports canx config reg msr ↔ ¬ InitLate config msr := by
  constructor
  · exact not_late_of_reports
  · intro hLate
    have hLocated : ∀ s phase, (canInit canx config reg msr s).phase = phase →
        InitLocated msr s phase := fun s phase hPhase => hPhase ▸ located_canInit
    constructor
    · intro r s hHead
      refine (Loop.reports_iff enterLoop_follows hHead).mpr fun hLast => hLate ?_
      have hPhase := congrArg CanInitCall.phase hHead
      obtain ⟨hCount, -⟩ := hLocated s _ hPhase
      obtain rfl : s = 0 := by omega
      exact ⟨valid_of_phase hPhase CanInitPhase.noConfusion, Or.inl hLast⟩
    · intro r s hHead
      refine (Loop.reports_iff sleepLoop_follows hHead).mpr fun hLast => hLate ?_
      have hPhase := congrArg CanInitCall.phase hHead
      obtain ⟨e, he, hSeen, j, rfl, hCount, -⟩ := hLocated s _ hPhase
      obtain rfl : j = 0 := by omega
      exact ⟨valid_of_phase hPhase CanInitPhase.noConfusion,
        Or.inr ⟨e, he, hSeen, Or.inl hLast⟩⟩
    · intro r s hHead
      refine (Loop.reports_iff leaveLoop_follows hHead).mpr fun hLast => hLate ?_
      have hPhase := congrArg CanInitCall.phase hHead
      obtain ⟨e, he, hSeen, e', he', hSeen', j, rfl, hCount⟩ := hLocated s _ hPhase
      obtain rfl : j = 0 := by omega
      exact ⟨valid_of_phase hPhase CanInitPhase.noConfusion,
        Or.inr ⟨e, he, hSeen, Or.inr ⟨e', he', hSeen', hLast⟩⟩⟩

end Init

/-- The calls report time-outs as they should just if no awaited flag first shows at the last
poll of its loop. -/
theorem timeouts_reported_iff (frame : Option CanFrame) (tsr : Nat → U32) (canx : CanPeripheral)
    (config : CanConfig) (reg : CanInitReg) (msr : Nat → U32) :
    (TransmitReports frame tsr ↔ ¬ TransmitLate frame tsr) ∧
      (InitReports canx config reg msr ↔ ¬ InitLate config msr) :=
  ⟨transmitReports_iff, initReports_iff⟩

def emptyFrame : CanFrame where
  id := 0x123#32
  dlc := 0
  idType := standardId
  frameType := dataFrame
  data _ := 0
  timestamp := 0

/-- Mailbox 0 is free and becomes empty, with TXOK, just before the last poll. -/
def lateTsr (i : Nat) : U32 :=
  if i < 3 then canTsrTmeMsk 0
  else if i < 3 + canInitTimeout then 0
  else canTsrTmeMsk 0 ||| canTsrTxokMsk 0

theorem transmit_timeout_misreported :
    ¬ ∀ (frame : Option CanFrame) (tsr : Nat → U32), TransmitReports frame tsr := by
  intro h
  refine transmitReports_iff.mp (h (some emptyFrame) lateTsr) ⟨⟨emptyFrame, rfl, ?_⟩, ?_, ?_, ?_, ?_⟩
  · decide
  · decide
  · decide
  · intro i hi
    rw [lateTsr, if_neg (by omega), if_pos (by omega)]
    exact BitVec.zero_and
  · rw [lateTsr, if_neg (by omega), if_neg (by omega)]
    decide

end KoRTOS.Hal
