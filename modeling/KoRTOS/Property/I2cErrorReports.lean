import KoRTOS.Hal.I2cErrors
import KoRTOS.Library.StickyFlags

/-!
# Errors of an I2C transfer are reported

The handler goes through the errors in turn and acknowledges each by writing back
what it read without this error. An error that comes up between the two accesses
is cleared without being reported; every other error is reported once, and within
one invocation.
-/

namespace KoRTOS.Hal

open RegisterBits StickyFlags

theorem I2cError.mem_all (error : I2cError) : error ∈ all := by
  cases error <;> decide

theorem I2cError.pos_lt (error : I2cError) : error.pos < 32 := by
  cases error <;> decide

theorem I2cError.pos_injective {error other : I2cError} (h : error.pos = other.pos) :
    error = other := by
  cases error <;> cases other <;> first | rfl | cases h

theorem I2cError.getLsbD_msk (error : I2cError) : msk.getLsbD error.pos = true := by
  cases error <;> decide

/-- An invocation that found the interrupt disabled looks at nothing. -/
def ErCall.phase : ErCall → Phase I2cError
  | .returned | .entered => .idle
  | .testing temp1 rest => if temp1 then .testing rest else .idle
  | .reading error rest => .reading error rest
  | .writing error value rest => .writing error (fun other => value.getLsbD other.pos) rest

namespace ErCall

variable {temp1 : Bool} {error : I2cError} {rest : List I2cError} {value : U32}

@[simp] theorem phase_returned : returned.phase = .idle := rfl

@[simp] theorem phase_entered : entered.phase = .idle := rfl

@[simp] theorem phase_testing :
    (testing temp1 rest).phase = if temp1 then .testing rest else .idle := rfl

@[simp] theorem phase_reading : (reading error rest).phase = .reading error rest := rfl

@[simp] theorem phase_writing :
    (writing error value rest).phase =
      .writing error (fun other => value.getLsbD other.pos) rest := rfl

@[simp] theorem phase_next :
    (next temp1 rest).phase = if temp1 then Phase.next rest else .idle := by
  cases rest <;> cases temp1 <;> rfl

end ErCall

namespace I2cEr

def bank (er : I2cEr) : Bank I2cError where
  set := fun error => er.sr1.getLsbD error.pos
  phase := er.call.phase
  raised := er.raised
  reported := fun error => er.events.count error
  hit := er.hit

/-- What an event means for the bank. -/
def bankEvent (er : I2cEr) : ErEvent → List (Event I2cError)
  | .raise error => [.raise error]
  | .status _ | .control _ | .interrupt => []
  | .access =>
    match er.call with
    | .entered =>
      if er.cr2.getLsbD i2cCr2Iterren then [.access, .enter I2cError.all] else [.access]
    | _ => [.access]

def bankEvents : I2cEr → List ErEvent → List (Event I2cError)
  | _, [] => []
  | er, event :: events => er.bankEvent event ++ bankEvents (er.step event) events

variable {er : I2cEr} {error : I2cError} {event : ErEvent}

theorem getLsbD_or_error {other : I2cError} :
    (er.sr1 ||| bit error.pos).getLsbD other.pos =
      Function.update (fun e => er.sr1.getLsbD e.pos) error true other := by
  rw [getLsbD_or_bit other.pos_lt, Function.update_apply]
  split
  · rename_i hEq
    rw [hEq, decide_eq_true rfl, Bool.or_true]
  · rename_i hNe
    rw [decide_eq_false (fun hPos => hNe (I2cError.pos_injective hPos)), Bool.or_false]

/-- A write clears the errors that it writes zeros to. -/
theorem getLsbD_write {value : U32} :
    (er.sr1 &&& (value ||| ~~~I2cError.msk)).getLsbD error.pos =
      (er.sr1.getLsbD error.pos && value.getLsbD error.pos) := by
  rw [BitVec.getLsbD_and, BitVec.getLsbD_or, BitVec.getLsbD_not, error.getLsbD_msk,
    Bool.not_true, Bool.and_false, Bool.or_false]

theorem getLsbD_status {value : U32} :
    (er.sr1 &&& I2cError.msk ||| value &&& ~~~I2cError.msk).getLsbD error.pos =
      er.sr1.getLsbD error.pos := by
  rw [BitVec.getLsbD_or, BitVec.getLsbD_and, BitVec.getLsbD_and, BitVec.getLsbD_not,
    error.getLsbD_msk, Bool.and_true, Bool.not_true, Bool.and_false, Bool.and_false, Bool.or_false]

theorem getLsbD_acknowledge {other : I2cError} :
    (er.sr1 &&& ~~~bit error.pos).getLsbD other.pos =
      (er.sr1.getLsbD other.pos && decide (other ≠ error)) := by
  rw [getLsbD_and_not_bit other.pos_lt]
  cases hPos : decide (other.pos = error.pos) with
  | true =>
    rw [I2cError.pos_injective (of_decide_eq_true hPos)]
    simp
  | false =>
    have hNe : other ≠ error := by
      rintro rfl
      exact of_decide_eq_false hPos rfl
    simp [hNe]

theorem doomed_eq : er.doomed error = er.bank.phase.dooms error := by
  unfold doomed bank
  cases er.call with
  | testing temp1 rest => cases temp1 <;> rfl
  | _ => rfl

theorem bank_raise : (er.raise error).bank = er.bank.raise error := by
  cases hSet : er.sr1.getLsbD error.pos with
  | true =>
    have hBank : er.bank.set error = true := hSet
    rw [I2cEr.raise, Bank.raise, if_pos hSet, if_pos hBank]
  | false =>
    have hBank : ¬ er.bank.set error = true := by
      change ¬ er.sr1.getLsbD error.pos = true
      rw [hSet]
      exact Bool.false_ne_true
    rw [I2cEr.raise, Bank.raise, if_neg (Bool.not_eq_true _ ▸ hSet), if_neg hBank,
      doomed_eq]
    simp only [bank, getLsbD_or_error]
    rfl

theorem count_report {events : List I2cError} :
    (fun other => (events ++ [error]).count other) = count error fun other => events.count other := by
  funext other
  rw [Bank.count_apply, List.count_append, List.count_singleton]
  by_cases hEq : other = error
  · subst hEq
    rw [beq_self_eq_true, if_pos rfl, if_pos rfl]
  · rw [beq_false_of_ne (Ne.symm hEq), if_neg Bool.false_ne_true, if_neg hEq, Nat.add_zero]

theorem bank_access :
    er.access.bank = er.bank.run (er.bankEvent .access) := by
  unfold I2cEr.access bankEvent
  cases hCall : er.call with
  | returned => simp [bank, hCall, Bank.run, Bank.step, Bank.access]
  | entered =>
    cases hEnabled : er.cr2.getLsbD i2cCr2Iterren with
    | true => simp [bank, hCall, Bank.run, Bank.step, Bank.access]
    | false => simp [bank, hCall, Bank.run, Bank.step, Bank.access]
  | testing temp1 rest =>
    cases rest with
    | nil => cases temp1 <;> simp [bank, hCall, Bank.run, Bank.step, Bank.access]
    | cons error rest =>
      cases temp1 with
      | false =>
        simp [bank, hCall, Bank.run, Bank.step, Bank.access]
      | true =>
        cases hSet : er.sr1.getLsbD error.pos with
        | true => simp [bank, hCall, Bank.run, Bank.step, Bank.access, hSet]
        | false =>
          simp [bank, hCall, Bank.run, Bank.step, Bank.access, hSet]
  | reading error rest =>
    simp only [bank, hCall, Bank.run, Bank.step, Bank.access, getLsbD_acknowledge,
      ErCall.phase_reading, ErCall.phase_writing, List.foldl_cons, List.foldl_nil]
  | writing error value rest =>
    simp only [bank, hCall, Bank.run, Bank.step, Bank.access, getLsbD_write, ErCall.phase_writing,
      ErCall.phase_next, List.foldl_cons, List.foldl_nil, count_report,
      ↓reduceIte]

theorem bank_step : (er.step event).bank = er.bank.run (er.bankEvent event) := by
  cases event with
  | raise error => exact bank_raise
  | status value =>
    simp only [I2cEr.step, bank, getLsbD_status]
    rfl
  | control value => rfl
  | interrupt =>
    unfold I2cEr.step
    cases hCall : er.call <;> simp [bank, hCall, bankEvent, Bank.run]
  | access => exact bank_access

theorem bank_run (events : List ErEvent) :
    (er.run events).bank = er.bank.run (er.bankEvents events) := by
  induction events generalizing er with
  | nil => rfl
  | cons event events ih =>
    rw [bankEvents, Bank.run, List.foldl_append]
    exact ih.trans (congrArg (Bank.run _) bank_step)

theorem accounted_start (sr1 cr2 : U32) : (start sr1 cr2).bank.Accounted := by
  refine ⟨trivial, fun error => ?_⟩
  have hClear : (start sr1 cr2).bank.set error = false := by
    change (sr1 &&& ~~~I2cError.msk).getLsbD error.pos = false
    rw [BitVec.getLsbD_and, BitVec.getLsbD_not, error.getLsbD_msk, Bool.not_true, Bool.and_false,
      Bool.and_false]
  rw [hClear]
  rfl

theorem due_entered (hCall : er.call = .entered) (hEnabled : er.cr2.getLsbD i2cCr2Iterren = true)
    (hSet : er.sr1.getLsbD error.pos = true) : Bank.Due error er.access.bank := by
  rw [I2cEr.access, hCall]
  simp only [hEnabled]
  exact ⟨hSet, error.mem_all⟩

theorem countP_bankEvents (events : List ErEvent) :
    (er.bankEvents events).countP Event.isAccess = events.countP ErEvent.isAccess := by
  induction events generalizing er with
  | nil => rfl
  | cons event events ih =>
    have hHead : (er.bankEvent event).countP Event.isAccess =
        if event.isAccess then 1 else 0 := by
      unfold bankEvent
      split
      · rfl
      · rfl
      · rfl
      · rfl
      · split
        · split <;> rfl
        · rfl
    rw [bankEvents, List.countP_append, List.countP_cons, ih, hHead, Nat.add_comm]

end I2cEr

open I2cEr

/-- In every run, each time an error came up it was reported, or came up in the middle of the
acknowledgement of another error, or is still set. -/
theorem i2c_errors_accounted (sr1 cr2 : U32) (events : List ErEvent) (error : I2cError) :
    let er := (start sr1 cr2).run events
    er.raised error = er.events.count error + er.hit error +
      if er.sr1.getLsbD error.pos && !er.doomed error then 1 else 0 := by
  have hRun := (accounted_start sr1 cr2).run ((start sr1 cr2).bankEvents events)
  rw [← bank_run] at hRun
  intro er
  rw [doomed_eq]
  exact hRun.total error

/-- An error that is set when the handler finds the interrupt enabled is reported within the next
21 accesses, whatever else comes up. -/
theorem i2c_error_reported (er : I2cEr) (events : List ErEvent) (error : I2cError)
    (hCall : er.call = .entered) (hEnabled : er.cr2.getLsbD i2cCr2Iterren = true)
    (hSet : er.sr1.getLsbD error.pos = true) (hLong : 21 ≤ events.countP ErEvent.isAccess) :
    er.events.count error < ((er.step .access).run events).events.count error := by
  have hDue : Bank.Due error (er.step .access).bank := due_entered hCall hEnabled hSet
  have hLeft : (er.step .access).bank.phase.left = 21 := by
    simp [I2cEr.step, I2cEr.access, hCall, hEnabled, bank, I2cError.all, Phase.next, Phase.left]
  have hReported := hDue.run ((er.step .access).bankEvents events) (by
    rw [hLeft, countP_bankEvents]
    exact hLong)
  rw [← bank_run] at hReported
  have hBefore : (er.step .access).events = er.events := by
    simp only [I2cEr.step, I2cEr.access, hCall]
  rw [← hBefore]
  exact hReported

theorem i2c_error_reported_two :
    ([] : List I2cError).count .smbalert <
      ((I2cEr.step .access ⟨bit I2cError.af.pos ||| bit I2cError.smbalert.pos,
        bit i2cCr2Iterren, .entered, [], fun _ => 0, fun _ => 0⟩).run
          (List.replicate 21 .access)).events.count .smbalert :=
  i2c_error_reported ⟨bit I2cError.af.pos ||| bit I2cError.smbalert.pos, bit i2cCr2Iterren,
    .entered, [], fun _ => 0, fun _ => 0⟩ (List.replicate 21 .access) .smbalert rfl (by decide)
    (by decide) (by decide)

end KoRTOS.Hal
