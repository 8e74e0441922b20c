import KoRTOS.Hal.I2cHandling

/-!
# Runs of a reception by interrupt

The call and the invocations of the handler share the registers. The call only touches `CR2` after
it has requested the start condition, so that what an invocation leaves is what the next one
finds.
-/

namespace KoRTOS.Hal

open RegisterBits Accesses Rounds I2cDevice I2cProg

def I2cAccess.OnCr2 : I2cAccess → Prop
  | .readCr2 => True
  | .writeCr2 _ => True
  | _ => False

def I2cStage.wakes : I2cStage → I2cChange
  | .starting => .sb
  | .addressing => .addr
  | _ => .byte

namespace I2cProg

/-- The interrupts are enabled in the end, if nobody else writes `CR2`. -/
def Enables {α : Type} : I2cProg α → U32 → Prop
  | .pure _, cr2 => I2cEnabled cr2
  | .access .readCr2 next, cr2 => Enables (next cr2) cr2
  | .access (.writeCr2 value) next, _ => Enables (next 0) value
  | _, _ => False

def Starts {α : Type} : I2cProg α → U32 → Prop
  | .access .readCr1 next, cr1 => Starts (next cr1) cr1
  | .access (.writeCr1 value) next, cr1 => value = cr1 ||| bit i2cCr1Start ∧
    (∀ cr2, Enables (next 0) cr2) ∧ (next 0).Only I2cAccess.OnCr2
  | _, _ => False

def Begins {α : Type} (call : I2cProg α) (c : U32) : Option U32 → Prop
  | some cr1 => call.Starts cr1
  | none => call.Enables c ∧ call.Only I2cAccess.OnCr2

end I2cProg

namespace I2cReception

variable (r : I2cReception)

def busy : I2cHandle :=
  { r.handle with
    pRxBuffer := r.pRxBuffer
    rxLen := r.len
    rxSize := r.len
    txRxState := .busyRx
    repeatedStart := r.rsEnable
    slaveAddr := r.slaveAddr }

def itStart : I2cItState :=
  let call := r.handle.masterReceiveIt r.pRxBuffer r.len r.slaveAddr r.rsEnable
  ⟨r.device, call.1, call.2, none⟩

def itStep : I2cInput → I2cItState → I2cItState :=
  I2cItState.step r.bus.words r.ahead r.bus.memory

def Steady (call : I2cProg I2cState) (handle : I2cHandle) (device : I2cDevice) : Prop :=
  (∃ c before m, r.Resting c before m [] handle device ∧ call.Begins c before) ∨
    r.Done handle device ∧ call.Only I2cAccess.OnCr2

def Kept (s : I2cItState) : Prop :=
  match s.handler with
  | none => r.Steady s.call s.handle s.device
  | some p => p.next?.isSome ∧ (i2cDevice r.bus.words r.ahead).Achieves
    (fun i device => device.Sound r.len.toNat r.ahead i) p (r.Steady s.call) s.device

variable {r}

theorem masterReceiveIt_eq : r.handle.masterReceiveIt r.pRxBuffer r.len r.slaveAddr r.rsEnable =
    (r.busy,
      do
        generateStart
        setCr2 i2cCr2Itbufen
        setCr2 i2cCr2Itevten
        setCr2 i2cCr2Iterren
        pure r.handle.txRxState) := by
  rw [I2cHandle.masterReceiveIt, r.free, if_pos ⟨I2cState.noConfusion, I2cState.noConfusion⟩]
  rfl

theorem starts_call : r.itStart.call.Starts r.cr1 := by
  rw [itStart, masterReceiveIt_eq]
  refine ⟨rfl, fun cr2 => ⟨?_, ?_⟩, ?_⟩
  · rw [getLsbD_or_bit_of_ne (by decide) (by decide), getLsbD_or_bit_of_ne (by decide) (by decide),
      getLsbD_or_bit_self (by decide)]
  · rw [getLsbD_or_bit_of_ne (by decide) (by decide), getLsbD_or_bit_self (by decide)]
  · have hSet : ∀ i, (setCr2 i).Only I2cAccess.OnCr2 :=
      fun _ => ⟨trivial, fun _ => ⟨trivial, fun _ => trivial⟩⟩
    change Prog.Only I2cAccess.OnCr2 (setCr2 i2cCr2Itbufen >>= fun _ => setCr2 i2cCr2Itevten >>=
      fun _ => setCr2 i2cCr2Iterren >>= fun _ => pure r.handle.txRxState)
    exact .bind (hSet _) fun _ => .bind (hSet _) fun _ => .bind (hSet _) fun _ => trivial

theorem serving_device : r.device.Serving r.len.toNat r.ahead where
  some_bytes := Nat.pos_of_ne_zero fun hZero => r.len_ne_zero (BitVec.eq_of_toNat_eq hZero)
  fresh _ := ⟨rfl, rfl⟩
  started hNot := absurd rfl hNot
  taken_le := Nat.le_refl 0
  kept _ := r.acking
  due hNot := absurd (r.acking.symm.trans hNot) (by decide)
  before := nofun
  acked _ _ hLt := absurd hLt (Nat.not_lt_zero _)
  refused _ _ h := by cases h

theorem holds_itStart : r.Holds 0 r.itStart.handle := by
  rw [itStart, masterReceiveIt_eq]
  refine ⟨rfl, rfl, rfl, rfl, ?_, r.ackEnabled⟩
  rw [received, I2cHandle.received_zero]
  rfl

theorem kept_itStart : r.Kept r.itStart := by
  refine .inl ⟨r.cr2, some r.cr1, r.device.left r.len.toNat + 1, ?_, starts_call⟩
  exact ⟨serving_device, rfl, ⟨rfl, rfl⟩, serving_device.some_bytes, holds_itStart,
    fun _ => .inl (Nat.lt_succ_self _)⟩

variable {call : I2cProg I2cState} {handle : I2cHandle} {device next : I2cDevice} {s : I2cItState}

theorem Steady.changes (h : r.Steady call handle device)
    (hChanges : Changes r.ahead device next) : r.Steady call handle next := by
  obtain ⟨c, before, m, hResting, hCall⟩ | ⟨hDone, hCall⟩ := h
  · exact .inl ⟨c, before, m, hResting.changes hChanges, hCall⟩
  · exact .inr ⟨Done.calm.changes hDone hChanges, hCall⟩

theorem Steady.serving (h : r.Steady call handle device) :
    device.Serving r.len.toNat r.ahead := by
  obtain ⟨c, before, m, hResting, _⟩ | ⟨hDone, _⟩ := h
  · exact hResting.serving
  · exact hDone.served.serving

theorem Steady.achieves (hMany : r.len ≠ 1) {memory : Nat → U8}
    (h : r.Steady call handle device) :
    (i2cDevice r.bus.words r.ahead).Achieves (fun i device => device.Sound r.len.toNat r.ahead i)
      (handle.evIrqHandling memory) (r.Steady call) device := by
  obtain ⟨c, before, m, hResting, hCall⟩ | ⟨hDone, hCall⟩ := h
  · have hOwes : r.Resting c before m [.sb, .addr, .rxne] handle device :=
      hResting.owes_of fun hEnabled => by
        obtain hLt | ⟨_, f, hNone, _⟩ := hResting.owes hEnabled
        · exact .inl hLt
        · cases hNone
    refine (triple_evIrqHandling hMany device hOwes).mono fun next device hNext => ?_
    obtain hNext | ⟨rfl, hNext⟩ := hNext
    · exact .inl ⟨c, before, m, hNext, hCall⟩
    · exact .inr ⟨hNext, hCall.2⟩
  · exact (Done.triple_evIrqHandling device hDone).mono fun _ _ hNext => .inr ⟨hNext, hCall⟩

theorem Done.onCr2 {i : I2cAccess} {w : U32} (h : r.Done handle device) (hOn : i.OnCr2) :
    r.Done handle (device.respond r.bus.words i w).2 := by
  cases i with
  | readCr2 => exact h
  | writeCr2 value =>
    have hServed := h.served
    exact
      { h with
        served :=
          { serving := hServed.serving.of_eq rfl rfl rfl rfl
            stage := hServed.stage
            taken := hServed.taken
            acking := hServed.acking } }
  | _ => exact hOn.elim

theorem Resting.writeCr2 {c : U32} {before : Option U32} {m : Nat} {fs : List I2cFlag}
    (h : r.Resting c before m fs handle device) (value : U32) :
    r.Resting value before (device.left r.len.toNat + 1) [] handle
      { device with cr2 := value } where
  serving := h.serving.of_eq rfl rfl rfl rfl
  cr2 := rfl
  held := h.held.of_stage (fun hIdle => ⟨hIdle, rfl⟩) id
  unfinished := h.unfinished
  holds := h.holds
  owes _ := .inl (Nat.lt_succ_self _)

theorem Resting.start {c cr1 : U32} {m : Nat} {fs : List I2cFlag} {w : U32}
    (h : r.Resting c (some cr1) m fs handle device) :
    r.Resting c none m fs handle
      (device.respond r.bus.words (.writeCr1 (cr1 ||| bit i2cCr1Start)) w).2 := by
  obtain ⟨hIdle, rfl⟩ := h.held
  have hSet : (device.cr1 ||| bit i2cCr1Start).getLsbD i2cCr1Start = true :=
    getLsbD_or_bit_self (by decide)
  have hSound : device.Sound r.len.toNat r.ahead (.writeCr1 (device.cr1 ||| bit i2cCr1Start)) :=
    ⟨h.serving, trivial, fun hRestarts => hRestarts.2 hIdle⟩
  exact
    { serving := h.serving.writeStart hIdle
      cr2 := h.cr2
      held := ne_of_eq_of_ne (if_pos hSet) I2cStage.noConfusion
      unfinished := h.unfinished
      holds := h.holds
      owes := fun hEnabled => (h.owes hEnabled).advances hSound.advances }

theorem Steady.advance {w : U32} (h : r.Steady call handle device) :
    r.Steady ((i2cDevice r.bus.words r.ahead).advance w (call, device)).1 handle
      ((i2cDevice r.bus.words r.ahead).advance w (call, device)).2 := by
  obtain ⟨c, before, m, hResting, hCall⟩ | ⟨hDone, hCall⟩ := h
  · cases before with
    | some cr1 =>
      obtain ⟨hIdle, hCr1⟩ := hResting.held
      cases call with
      | pure state => exact hCall.elim
      | await i ready next => exact hCall.elim
      | access i next =>
        cases i with
        | readCr1 =>
          refine .inl ⟨c, some cr1, m, hResting, ?_⟩
          change I2cProg.Starts (next device.cr1) cr1
          rw [hCr1]
          exact hCall
        | writeCr1 value =>
          obtain ⟨rfl, hEnables, hOnly⟩ := hCall
          exact .inl ⟨c, none, m, hResting.start (w := w), hEnables c, hOnly⟩
        | _ => exact hCall.elim
    | none =>
      obtain ⟨hEnables, hOnly⟩ := hCall
      cases call with
      | pure state => exact .inl ⟨c, none, m, hResting, hEnables, hOnly⟩
      | await i ready next => exact hEnables.elim
      | access i next =>
        cases i with
        | readCr2 =>
          refine .inl ⟨c, none, m, hResting, ?_, hOnly.2 _⟩
          change I2cProg.Enables (next device.cr2) c
          rw [hResting.cr2]
          exact hEnables
        | writeCr2 value => exact .inl ⟨value, none, _, hResting.writeCr2 value, hEnables, hOnly.2 _⟩
        | _ => exact hEnables.elim
  · exact .inr (Device.advance_only hCall hDone fun _ => hDone.onCr2)

theorem Steady.sound {i : I2cAccess} (h : r.Steady call handle device)
    (hNext : call.next? = some i) : device.Sound r.len.toNat r.ahead i := by
  have hOnCr2 : i.OnCr2 → device.Sound r.len.toNat r.ahead i := by
    intro hOn
    cases i with
    | readCr2 => exact ⟨h.serving, trivial, id⟩
    | writeCr2 value => exact ⟨h.serving, trivial, id⟩
    | _ => exact hOn.elim
  have hOnly : call.Only I2cAccess.OnCr2 → device.Sound r.len.toNat r.ahead i := by
    intro hOnly
    cases call with
    | pure state => cases hNext
    | access j next => exact hOnCr2 (Option.some.inj hNext ▸ hOnly.1)
    | await j ready next => exact hOnCr2 (Option.some.inj hNext ▸ hOnly.1)
  obtain ⟨c, before, m, hResting, hCall⟩ | ⟨_, hCall⟩ := h
  · cases before with
    | some cr1 =>
      cases call with
      | pure state => cases hNext
      | await j ready next => exact hCall.elim
      | access j next =>
        obtain rfl := Option.some.inj hNext
        cases j with
        | readCr1 => exact ⟨hResting.serving, trivial, id⟩
        | writeCr1 value =>
          exact ⟨hResting.serving, trivial, fun hRestarts => hRestarts.2 hResting.held.1⟩
        | _ => exact hCall.elim
    | none => exact hOnly hCall.2
  · exact hOnly hCall

end I2cReception

namespace I2cItState

variable {words : Nat → U32} {ahead : Nat} {memory : Nat → U8} {s : I2cItState}
  {p : I2cProg I2cHandle}

@[simp] theorem resume_device : (s.resume p).device = s.device := by
  cases p <;> rfl

@[simp] theorem resume_call : (s.resume p).call = s.call := by
  cases p <;> rfl

@[simp] theorem resume_resume : (s.resume p).resume p = s.resume p := by
  cases p <;> rfl

theorem resume_of_next (h : p.next?.isSome) : s.resume p = { s with handler := some p } := by
  cases p with
  | pure handle => cases h
  | _ => rfl

end I2cItState

namespace I2cReception

variable {r : I2cReception} {s : I2cItState}

theorem itStep_interrupt (hIdle : s.handler = none) :
    r.itStep .interrupt s = s.resume (s.handle.evIrqHandling r.bus.memory) := by
  rw [itStep, I2cItState.step, hIdle]

theorem kept_resume {p : I2cProg I2cHandle} (h : (i2cDevice r.bus.words r.ahead).Achieves
    (fun i device => device.Sound r.len.toNat r.ahead i) p (r.Steady s.call) s.device) :
    r.Kept (s.resume p) := by
  cases p with
  | pure handle => exact h s.device .refl
  | access i next => exact ⟨rfl, h⟩
  | await i ready next => exact ⟨rfl, h⟩

namespace Kept

variable (h : r.Kept s)

include h

theorem step (hMany : r.len ≠ 1) (i : I2cInput) : r.Kept (r.itStep i s) := by
  obtain ⟨device, handle, call, handler⟩ := s
  cases i with
  | change e =>
    cases handler with
    | none => exact Steady.changes h changes_occur
    | some p => exact ⟨h.1, h.2.occur e⟩
  | interrupt =>
    cases handler with
    | none => exact kept_resume (Steady.achieves hMany h)
    | some p => exact h
  | access w =>
    cases handler with
    | none => exact Steady.advance h
    | some p => exact kept_resume (h.2.advance w)

theorem serving : s.device.Serving r.len.toNat r.ahead := by
  obtain ⟨device, handle, call, handler⟩ := s
  cases handler with
  | none => exact Steady.serving h
  | some p => exact h.2.holds (fun _ _ h => h.serving) fun _ _ h => h.serving

theorem sound {i : I2cAccess} (hNext : s.next? = some i) :
    s.device.Sound r.len.toNat r.ahead i := by
  obtain ⟨device, handle, call, handler⟩ := s
  cases handler with
  | none => exact Steady.sound h hNext
  | some p => exact h.2.allows hNext

theorem done (hIdle : s.handler = none) (hReady : s.handle.txRxState = .ready) :
    r.Done s.handle s.device := by
  obtain ⟨device, handle, call, handler⟩ := s
  obtain rfl := hIdle
  obtain ⟨c, before, m, hResting, _⟩ | ⟨hDone, _⟩ := show r.Steady call handle device from h
  · cases hReady.symm.trans hResting.holds.busy
  · exact hDone

theorem advances (i : I2cInput) : Advances r.len.toNat s.device (r.itStep i s).device := by
  have hAccess : ∀ {α : Type} {p : I2cProg α} {w}, (∀ j, p.next? = some j → s.next? = some j) →
      Advances r.len.toNat s.device ((i2cDevice r.bus.words r.ahead).advance w (p, s.device)).2 := by
    intro α p w hNext
    obtain hSame | ⟨j, hj, hDevice⟩ := (i2cDevice r.bus.words r.ahead).advance_snd p w s.device
    · rw [hSame]
      exact .refl _
    · rw [hDevice]
      exact (h.sound (hNext j hj)).advances
  cases i with
  | change e => exact changes_occur.advances
  | interrupt =>
    rw [itStep, I2cItState.step]
    split
    · exact .refl _
    · rw [I2cItState.resume_device]
      exact .refl _
  | access w =>
    rw [itStep, I2cItState.step]
    split
    · rename_i p hHandler
      rw [I2cItState.resume_device]
      exact hAccess fun j hj => by rwa [I2cItState.next?, hHandler]
    · rename_i hHandler
      exact hAccess fun j hj => by rwa [I2cItState.next?, hHandler]

end Kept

theorem left_wakes {device : I2cDevice} (hServing : device.Serving r.len.toNat r.ahead)
    (hNone : ∀ f, device.shows f = false) (hIdle : device.stage ≠ .idle)
    (hLeft : 0 < device.left r.len.toNat) :
    (device.occur r.ahead device.stage.wakes).left r.len.toNat < device.left r.len.toNat := by
  cases hStage : device.stage with
  | idle => exact absurd hStage hIdle
  | starting =>
    simp only [I2cStage.wakes, occur, left, hStage, if_true, I2cStage.left]
    omega
  | sb => exact absurd (decide_eq_true hStage) (Bool.eq_false_iff.mp (hNone .sb))
  | addressing =>
    simp only [I2cStage.wakes, occur, left, hStage, if_true, I2cStage.left]
    omega
  | addr => exact absurd (decide_eq_true hStage) (Bool.eq_false_iff.mp (hNone .addr))
  | clocking =>
    have hWaiting : ¬ device.taken < device.answers.length := fun hLt =>
      Bool.eq_false_iff.mp (hNone .rxne) (shows_rxne.mpr hLt)
    have hTaken := hServing.taken_le
    have hClocking : device.Clocking r.len.toNat r.ahead device.taken := ⟨hServing, hStage, rfl⟩
    have hNext : Changes r.ahead device (device.occur r.ahead .byte) := changes_occur
    have hSame : (device.occur r.ahead .byte).stage = .clocking :=
      (hNext.stage (by rw [hStage]; decide) (by rw [hStage]; decide)).trans hStage
    rw [left, hStage, I2cStage.left] at hLeft
    have hThere := shows_rxne.mp (hClocking.occur_byte r.ahead_pos (by omega))
    rw [hNext.taken] at hThere
    change (device.occur r.ahead .byte).left r.len.toNat < _
    rw [left, left, hSame, hStage, hNext.taken, I2cStage.left]
    omega

theorem hosts : Device.Hosts (i2cDevice r.bus.words r.ahead) I2cInput.role r.itStep
    (fun (p : I2cProg I2cHandle) device s => s.device = device ∧ s.resume p = s) where
  occur := by
    rintro i e p device s hRole hNext ⟨rfl, hResume⟩
    cases i with
    | change e' =>
      obtain rfl := Role.occur.inj hRole
      refine ⟨rfl, ?_⟩
      rw [I2cItState.resume_of_next hNext] at hResume ⊢
      exact congrArg (fun s : I2cItState => r.itStep (.change e') s) hResume
    | interrupt => cases hRole
    | access w => cases hRole
  access := by
    rintro i w p device s hRole hNext ⟨rfl, hResume⟩
    cases i with
    | change e => cases hRole
    | interrupt => cases hRole
    | access w' =>
      obtain rfl := Role.access.inj hRole
      have hHandler : s.handler = some p := by
        rw [← hResume, I2cItState.resume_of_next hNext]
      rw [itStep, I2cItState.step, hHandler]
      exact ⟨I2cItState.resume_device, I2cItState.resume_resume⟩
  other := by
    rintro i p device s hRole hNext ⟨rfl, hResume⟩
    have hHandler : s.handler = some p := by
      rw [← hResume, I2cItState.resume_of_next hNext]
    cases i with
    | change e => cases hRole
    | access w => cases hRole
    | interrupt =>
      rw [itStep, I2cItState.step, hHandler]
      exact ⟨rfl, hResume⟩

def Returned (r : I2cReception) (s : I2cItState) : Prop := r.Kept s ∧ s.call.next? = none

/-- The handler has received everything and has returned. -/
def Finished (r : I2cReception) (s : I2cItState) : Prop :=
  s.handler = none ∧ r.Done s.handle s.device

/-- Less than `m` is left, or just `m` and a flag is set. -/
def Owed (r : I2cReception) (m : Nat) (s : I2cItState) : Prop :=
  r.Returned s ∧ s.device.Owes r.len.toNat m [.sb, .addr, .rxne]

theorem Returned.idle_cases (h : r.Returned s) (hIdle : s.handler = none) :
    r.Finished s ∨ s.device.stage ≠ .idle ∧ 0 < s.device.left r.len.toNat := by
  obtain ⟨device, handle, call, handler⟩ := s
  obtain rfl := hIdle
  obtain ⟨hKept, hCall⟩ := h
  obtain ⟨c, before, m, hResting, hBegins⟩ | ⟨hDone, _⟩ :=
    show r.Steady call handle device from hKept
  · cases call with
    | access j next => cases hCall
    | await j ready next => cases hCall
    | pure state =>
      cases before with
      | some cr1 => exact hBegins.elim
      | none =>
        have hLt := hResting.unfinished
        refine .inr ⟨hResting.held, ?_⟩
        change 0 < device.left r.len.toNat
        rw [left]
        omega
  · exact .inl ⟨rfl, hDone⟩

section Fair

variable {input : Nat → I2cInput} {start : I2cItState}

theorem leads_idle (hGoes : Goes I2cInput.role input) {P : I2cItState → Prop}
    (hStep : ∀ i s, P s → P (r.itStep i s)) (hKept : ∀ s, P s → r.Kept s) :
    LeadsTo r.itStep input start P fun s => P s ∧ s.handler = none := by
  intro n hn
  have hNow := hKept _ hn
  cases hHandler : (after r.itStep input start n).handler with
  | none => exact ⟨n, Nat.le_refl n, hn, hHandler⟩
  | some p =>
    rw [Kept, hHandler] at hNow
    have hResume : (after r.itStep input start n).resume p = after r.itStep input start n := by
      rw [I2cItState.resume_of_next hNow.1, ← hHandler]
    obtain ⟨m, hm, handle, device, ⟨rfl, hEnd⟩, _⟩ := hosts.ends hGoes ⟨rfl, hResume⟩ hNow.2
    refine ⟨m, hm, after_kept hStep hm hn, ?_⟩
    rw [← hEnd]
    rfl

variable (hMany : r.len ≠ 1)

include hMany

theorem Returned.step (h : r.Returned s) (i : I2cInput) : r.Returned (r.itStep i s) := by
  refine ⟨h.1.step hMany i, ?_⟩
  obtain ⟨device, handle, call, handler⟩ := s
  obtain ⟨_, hCall⟩ := h
  cases call with
  | access j next => cases hCall
  | await j ready next => cases hCall
  | pure state =>
    cases i with
    | change e => rfl
    | interrupt =>
      cases handler with
      | none =>
        rw [itStep, I2cItState.step, I2cItState.resume_call]
        rfl
      | some p => rfl
    | access w =>
      cases handler with
      | none => rfl
      | some p =>
        rw [itStep, I2cItState.step, I2cItState.resume_call]
        rfl

theorem Owed.step {m : Nat} (h : r.Owed m s) (i : I2cInput) : r.Owed m (r.itStep i s) :=
  ⟨h.1.step hMany i, h.2.advances (h.1.1.advances i)⟩

theorem Owed.achieves {m : Nat} {memory : Nat → U8} (h : r.Owed m s) (hIdle : s.handler = none) :
    (i2cDevice r.bus.words r.ahead).Achieves (fun i device => device.Sound r.len.toNat r.ahead i)
      (s.handle.evIrqHandling memory)
      (fun handle device => r.Done handle device ∨ device.left r.len.toNat < m) s.device := by
  obtain ⟨device, handle, call, handler⟩ := s
  obtain rfl := hIdle
  obtain ⟨⟨hKept, hCall⟩, hOwes⟩ := h
  obtain ⟨c, before, m', hResting, hBegins⟩ | ⟨hDone, _⟩ :=
    show r.Steady call handle device from hKept
  · cases call with
    | access j next => cases hCall
    | await j ready next => cases hCall
    | pure state =>
      cases before with
      | some cr1 => exact hBegins.elim
      | none =>
        have hNow : r.Resting c none m [.sb, .addr, .rxne] handle device :=
          { hResting with owes := fun _ => hOwes }
        refine (triple_evIrqHandling hMany device hNow).mono fun next device hNext => ?_
        obtain hNext | ⟨_, hNext⟩ := hNext
        · obtain hLt | ⟨_, f, hNone, _⟩ := hNext.owes hBegins.1
          · exact .inr hLt
          · cases hNone
        · exact .inl hNext
  · exact (Done.triple_evIrqHandling device hDone).mono fun _ _ => .inl

theorem leads_handled (hGoes : Goes I2cInput.role input) (hOften : Often (· = .interrupt) input)
    (m : Nat) : LeadsTo r.itStep input start (fun s => r.Owed m s ∧ s.handler = none)
      fun s => r.Finished s ∨ r.Returned s ∧ s.device.left r.len.toNat < m := by
  -- an invocation has begun that handles the flag
  let Handling : I2cItState → Prop := fun s => r.Returned s ∧ ∃ p, s.resume p = s ∧
    (i2cDevice r.bus.words r.ahead).Achieves (fun i device => device.Sound r.len.toNat r.ahead i) p
      (fun handle device => r.Done handle device ∨ device.left r.len.toNat < m) s.device
  have hHandling : ∀ s, r.Owed m s → s.handler = none → Handling (r.itStep .interrupt s) := by
    intro s hOwed hIdle
    refine ⟨hOwed.1.step hMany _, s.handle.evIrqHandling r.bus.memory, ?_⟩
    rw [itStep_interrupt hIdle, I2cItState.resume_resume, I2cItState.resume_device]
    exact ⟨rfl, hOwed.achieves hMany hIdle⟩
  refine .trans (Q := Handling) (.ensures hOften ?_ ?_) ?_
  · rintro i s ⟨hOwed, hIdle⟩
    cases i with
    | change e => exact .inl ⟨hOwed.step hMany _, hIdle⟩
    | interrupt => exact .inr (hHandling s hOwed hIdle)
    | access w =>
      refine .inl ⟨hOwed.step hMany _, ?_⟩
      rw [itStep, I2cItState.step, hIdle]
  · rintro i s rfl ⟨hOwed, hIdle⟩
    exact hHandling s hOwed hIdle
  · rintro n ⟨hReturned, p, hResume, hAchieves⟩
    obtain ⟨k, hk, handle, device, ⟨rfl, hEnd⟩, hPost⟩ := hosts.ends hGoes ⟨rfl, hResume⟩ hAchieves
    have hThen := after_kept (I := r.Returned) (fun i s h => h.step hMany i) hk hReturned
    refine ⟨k, hk, hPost.imp (fun hDone => ?_) fun hLt => ⟨hThen, hLt⟩⟩
    rw [← hEnd]
    exact ⟨rfl, hDone⟩

theorem leads_owed (hGoes : Goes I2cInput.role input) {m : Nat} (hPos : 0 < m) :
    LeadsTo r.itStep input start
      (fun s => r.Returned s ∧ s.device.stage ≠ .idle ∧ s.device.left r.len.toNat = m)
      (r.Owed m) := by
  have hFlag : ∀ s, r.Returned s → s.device.left r.len.toNat = m →
      r.Owed m s ∨ ∀ f, s.device.shows f = false := by
    intro s hReturned hLeft
    by_cases hSome : ∃ f, s.device.shows f = true
    · obtain ⟨f, hf⟩ := hSome
      exact .inl ⟨hReturned, .inr ⟨hLeft, f, by cases f <;> simp, hf⟩⟩
    · exact .inr fun f => Bool.eq_false_iff.mpr fun hf => hSome ⟨f, hf⟩
  rintro n ⟨hReturned, hIdle, hLeft⟩
  obtain hOwed | hNone := hFlag _ hReturned hLeft
  · exact ⟨n, Nat.le_refl n, hOwed⟩
  -- until then, the stage is the one it is now
  generalize hStage : (after r.itStep input start n).device.stage = stage at hIdle
  refine LeadsTo.ensures (P := fun s => r.Returned s ∧ s.device.left r.len.toNat = m ∧
    s.device.stage = stage ∧ ∀ f, s.device.shows f = false) (hGoes.occur stage.wakes) ?_ ?_ n
    ⟨hReturned, hLeft, hStage, hNone⟩
  · rintro i s ⟨hReturned, hLeft, rfl, hNone⟩
    have hNext := hReturned.step hMany i
    obtain hLt | ⟨hSame, hStage, _⟩ := hReturned.1.advances i
    · exact .inr ⟨hNext, .inl (hLeft ▸ hLt)⟩
    · obtain hOwed | hNone := hFlag _ hNext (hSame.trans hLeft)
      · exact .inr hOwed
      · exact .inl ⟨hNext, hSame.trans hLeft, hStage, hNone⟩
  · rintro i s hRole ⟨hReturned, hLeft, rfl, hNone⟩
    have hNext := hReturned.step hMany i
    cases i with
    | change e =>
      obtain rfl := Role.occur.inj hRole
      refine ⟨hNext, .inl ?_⟩
      have hLess := left_wakes hReturned.1.serving hNone hIdle (hLeft ▸ hPos)
      rwa [hLeft] at hLess
    | interrupt => cases hRole
    | access w => cases hRole

theorem leads_finished (hGoes : Goes I2cInput.role input)
    (hOften : Often (· = .interrupt) input) :
    LeadsTo r.itStep input start r.Returned r.Finished := by
  refine .of_measure (fun s => s.device.left r.len.toNat) fun m => ?_
  have hOwed : LeadsTo r.itStep input start (r.Owed m)
      fun s => r.Finished s ∨ r.Returned s ∧ s.device.left r.len.toNat < m :=
    .trans (leads_idle hGoes (fun i s h => h.step hMany i) fun _ h => h.1.1)
      (leads_handled hMany hGoes hOften m)
  have hIdle : LeadsTo r.itStep input start
      (fun s => r.Returned s ∧ s.device.left r.len.toNat ≤ m)
      fun s => (r.Returned s ∧ s.device.left r.len.toNat ≤ m) ∧ s.handler = none :=
    leads_idle hGoes
      (fun i s h => ⟨h.1.step hMany i, (h.1.1.advances i).left_le.trans h.2⟩) fun _ h => h.1.1
  refine .trans (.trans (.of_imp fun s h => ⟨h.1, h.2.le⟩) hIdle) ?_
  rintro n ⟨⟨hReturned, hLe⟩, hNone⟩
  obtain hLt | hEq := Nat.lt_or_eq_of_le hLe
  · exact ⟨n, Nat.le_refl n, .inr ⟨hReturned, hLt⟩⟩
  · obtain hFinished | ⟨hStage, hPos⟩ := hReturned.idle_cases hNone
    · exact ⟨n, Nat.le_refl n, .inl hFinished⟩
    · exact (leads_owed hMany hGoes (hEq ▸ hPos)).trans hOwed n ⟨hReturned, hStage, hEq⟩

end Fair

end I2cReception

end KoRTOS.Hal
