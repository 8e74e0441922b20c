import KoRTOS.Hal.I2cPolling

/-!
# Reception by interrupt

One invocation of `I2C_EV_IRQ_handling` while more than one byte is to be received. It finds
the transfer as an earlier one left it, and leaves it so, or done. If the interrupts are
enabled and a flag is set when it is entered, it brings the end nearer.
-/

namespace KoRTOS.Hal

open RegisterBits Accesses I2cDevice I2cProg

namespace I2cDevice

variable {len ahead m : Nat} {fs : List I2cFlag} {device next : I2cDevice}

/-- Less than `m` is left, or just `m` and one of the flags is set. -/
def Owes (len m : Nat) (fs : List I2cFlag) (device : I2cDevice) : Prop :=
  device.left len < m ∨ device.left len = m ∧ ∃ f ∈ fs, device.shows f = true

theorem Owes.left_le (h : device.Owes len m fs) : device.left len ≤ m :=
  h.elim Nat.le_of_lt fun h => h.1.le

theorem Owes.advances (h : device.Owes len m fs) (hNext : Advances len device next) :
    next.Owes len m fs := by
  obtain hLt | ⟨hLeft, _, hShows⟩ := hNext
  · exact .inl (hLt.trans_le h.left_le)
  · obtain hLt | ⟨hEq, f, hf, hNow⟩ := h
    · exact .inl (hLeft ▸ hLt)
    · exact .inr ⟨hLeft.trans hEq, f, hf, hShows f hNow⟩

theorem Owes.of_lt {gs : List I2cFlag} (h : device.Owes len m fs)
    (hLt : next.left len < device.left len) : next.Owes len m gs :=
  .inl (hLt.trans_le h.left_le)

theorem Owes.of_not_shows {f : I2cFlag} (h : device.Owes len m (f :: fs))
    (hNot : device.shows f = false) : device.Owes len m fs := by
  obtain hLt | ⟨hEq, g, hg, hNow⟩ := h
  · exact .inl hLt
  · obtain rfl | hIn := List.mem_cons.mp hg
    · rw [hNot] at hNow
      cases hNow
    · exact .inr ⟨hEq, g, hIn, hNow⟩

/-- Until the start condition is requested, `CR1` holds what it held. -/
def Held (before : Option U32) (device : I2cDevice) : Prop :=
  match before with
  | some cr1 => device.stage = .idle ∧ device.cr1 = cr1
  | none => device.stage ≠ .idle

theorem Held.of_stage {before : Option U32} (h : device.Held before)
    (hIdle : device.stage = .idle → next.stage = .idle ∧ next.cr1 = device.cr1)
    (hNot : device.stage ≠ .idle → next.stage ≠ .idle) : next.Held before := by
  cases before with
  | some cr1 =>
    obtain ⟨hStage, hCr1⟩ := hIdle h.1
    exact ⟨hStage, hCr1.trans h.2⟩
  | none => exact hNot h

theorem Changes.held {before : Option U32} (h : Changes ahead device next)
    (hHeld : device.Held before) : next.Held before := by
  refine hHeld.of_stage (fun hIdle => ?_) fun hNot => ?_
  · have hStarting : device.stage ≠ .starting := by
      rw [hIdle]
      decide
    exact ⟨(h.stage hStarting (by rw [hIdle]; decide)).trans hIdle, h.cr1 hStarting⟩
  · cases h with
    | sb _ => exact I2cStage.noConfusion
    | addr _ => exact I2cStage.noConfusion
    | _ => exact hNot

end I2cDevice

def I2cEnabled (cr2 : U32) : Prop :=
  cr2.getLsbD i2cCr2Itbufen = true ∧ cr2.getLsbD i2cCr2Itevten = true

namespace I2cReception

variable (r : I2cReception)

def received (k : Nat) : I2cHandle := r.handle.received r.bus.words r.pRxBuffer k

structure Holds (k : Nat) (handle : I2cHandle) : Prop where
  busy : handle.txRxState = .busyRx
  size : handle.rxSize = r.len
  remaining : handle.rxLen.toNat + k = r.len.toNat
  next : handle.pRxBuffer = r.pRxBuffer + k
  stores : handle.stores = (r.received k).stores
  ackEnabled : handle.ackControl = i2cAckEnable

structure Resting (c : U32) (before : Option U32) (m : Nat) (fs : List I2cFlag)
    (handle : I2cHandle) (device : I2cDevice) : Prop where
  serving : device.Serving r.len.toNat r.ahead
  cr2 : device.cr2 = c
  held : device.Held before
  unfinished : device.taken < r.len.toNat
  holds : r.Holds device.taken handle
  owes : I2cEnabled c → device.Owes r.len.toNat m fs

structure Done (handle : I2cHandle) (device : I2cDevice) : Prop where
  served : device.Served r.len.toNat r.ahead
  ready : handle.txRxState = .ready
  stores : handle.stores = (r.received r.len.toNat).stores

variable {r} {c : U32} {before : Option U32} {m : Nat} {fs gs : List I2cFlag}
  {handle : I2cHandle} {device next : I2cDevice}

theorem Holds.callback {k : Nat} (h : r.Holds k handle) (event : I2cEvent) :
    r.Holds k (handle.eventCallback event) := { h with }

namespace Resting

variable (h : r.Resting c before m fs handle device)

include h

theorem of_advances (hServing : next.Serving r.len.toNat r.ahead) (hCr2 : next.cr2 = device.cr2)
    (hHeld : next.Held before) (hTaken : next.taken = device.taken)
    (hAdvances : Advances r.len.toNat device next) : r.Resting c before m fs handle next where
  serving := hServing
  cr2 := hCr2.trans h.cr2
  held := hHeld
  unfinished := hTaken ▸ h.unfinished
  holds := hTaken ▸ h.holds
  owes hEnabled := (h.owes hEnabled).advances hAdvances

theorem changes (hChanges : Changes r.ahead device next) :
    r.Resting c before m fs handle next :=
  h.of_advances (hChanges.serving h.serving) hChanges.cr2 (hChanges.held h.held) hChanges.taken
    hChanges.advances

theorem readSr1 : r.Resting c before m fs handle { device with sr1Read := true } :=
  h.of_advances (h.serving.of_eq rfl rfl rfl rfl) rfl (by cases before <;> exact h.held) rfl
    (.of_eq rfl rfl rfl)

theorem owes_of (hOwes : I2cEnabled c → device.Owes r.len.toNat m gs) :
    r.Resting c before m gs handle device := { h with owes := hOwes }

theorem not_enabled (hNot : ¬ I2cEnabled c) : r.Resting c before m gs handle device :=
  h.owes_of fun hEnabled => absurd hEnabled hNot

theorem callback (event : I2cEvent) :
    r.Resting c before m fs (handle.eventCallback event) device :=
  { h with holds := h.holds.callback event }

omit h in
theorem permitted (hMany : r.len ≠ 1) : device.Permitted r.len.toNat .readSr2 :=
  fun hOne => absurd (BitVec.eq_of_toNat_eq hOne) hMany

theorem readSr2 (hMany : r.len ≠ 1) {w : U32} :
    r.Resting c before m fs handle (device.respond r.bus.words .readSr2 w).2 := by
  refine h.of_advances (h.serving.readSr2 (permitted hMany)) rfl (h.held.of_stage ?_ ?_) rfl
    (Sound.advances ⟨h.serving, permitted hMany, id⟩)
  · intro hIdle
    exact ⟨(if_neg (by simp [hIdle])).trans hIdle, rfl⟩
  · intro hNot
    rw [respond]
    split
    · exact I2cStage.noConfusion
    · exact hNot

theorem clearAddr (hMany : r.len ≠ 1) (hShows : device.shows .addr = true)
    (hRead : device.sr1Read = true) {w : U32} :
    r.Resting c before m gs handle (device.respond r.bus.words .readSr2 w).2 :=
  (h.readSr2 hMany).owes_of fun hEnabled =>
    (h.owes hEnabled).of_lt (left_readSr2 (of_decide_eq_true hShows) hRead)

theorem writeDr (hShows : device.shows .sb = true) {value : U32} :
    r.Resting c before m gs handle (device.respond r.bus.words (.writeDr value) 0).2 := by
  have hStage : device.stage = .sb := of_decide_eq_true hShows
  have hNext : r.Resting c before m fs handle (device.respond r.bus.words (.writeDr value) 0).2 := by
    refine h.of_advances h.serving.writeDr rfl (h.held.of_stage ?_ ?_) rfl
      (.inl (left_writeDr hStage))
    · intro hIdle
      cases hStage.symm.trans hIdle
    · intro _
      exact ne_of_eq_of_ne (if_pos hStage) I2cStage.noConfusion
  exact hNext.owes_of fun hEnabled => (h.owes hEnabled).of_lt (left_writeDr hStage)

end Resting
end I2cReception

namespace I2cHandle

/-- What reading the status keeps, while nothing is sent. -/
structure Calm (words : Nat → U32) (len ahead : Nat) (A : I2cHandle → I2cDevice → Prop) : Prop where
  changes : ∀ {handle device next}, A handle device → Changes ahead device next → A handle next
  serving : ∀ {handle device}, A handle device → device.Serving len ahead
  notSending : ∀ {handle device}, A handle device → handle.txRxState ≠ .busyTx
  permitted : ∀ {handle device}, A handle device → device.Permitted len .readSr2
  readSr1 : ∀ {handle device}, A handle device → A handle { device with sr1Read := true }
  readSr2 : ∀ {handle device w}, A handle device →
    A handle (device.respond words .readSr2 w).2
  callback : ∀ {handle device event}, A handle device → A (handle.eventCallback event) device

namespace Calm

variable {words : Nat → U32} {len ahead : Nat} {A : I2cHandle → I2cDevice → Prop}
  {handle : I2cHandle} {temp1 temp2 : Bool} (h : Calm words len ahead A)

include h

theorem stable : I2cStable ahead (A handle) := fun _ _ hNow => h.changes hNow changes_occur

theorem triple_pure : I2cTriple words len ahead (A handle) (.pure handle) A :=
  I2cProg.triple_pure h.stable fun _ => id

theorem triple_callback {event : I2cEvent} :
    I2cTriple words len ahead (A handle) (.pure (handle.eventCallback event)) A :=
  I2cProg.triple_pure h.stable fun _ => h.callback

theorem triple_readSr1 {α : Type} {next : U32 → I2cProg α} {Q : α → I2cDevice → Prop}
    (hNext : ∀ sr1, sr1.getLsbD i2cSr1Stopf = false →
      I2cTriple words len ahead (A handle) (next sr1) Q) :
    I2cTriple words len ahead (A handle) (perform .readSr1 >>= next) Q := by
  refine I2cProg.triple_readSr1 h.stable (fun _ => h.serving)
    (C := fun sr1 device => sr1.getLsbD i2cSr1Stopf = false ∧ A handle device)
    (fun device w hNow => ⟨sr1_stopf, h.readSr1 hNow⟩) fun sr1 => ?_
  exact .assuming (fun _ hNow => hNow.1) fun hStopf =>
    (hNext sr1 hStopf).consequence (fun _ hNow => hNow.2) fun _ _ => id

theorem triple_readSr2 {α : Type} {next : U32 → I2cProg α} {Q : α → I2cDevice → Prop}
    (hNext : ∀ sr2, I2cTriple words len ahead (A handle) (next sr2) Q) :
    I2cTriple words len ahead (A handle) (perform .readSr2 >>= next) Q :=
  I2cProg.triple_readSr2 h.stable (fun _ => h.serving) (fun _ => h.permitted)
    (fun _ _ => h.readSr2) hNext

theorem triple_checkBtf : I2cTriple words len ahead (A handle) (checkBtf temp2 handle) A := by
  refine h.triple_readSr1 fun sr1 _ => ?_
  split
  · refine .assuming (fun _ => h.notSending) fun hState => ?_
    rw [if_neg hState]
    exact h.triple_pure
  · exact h.triple_pure

theorem triple_checkStopf : I2cTriple words len ahead (A handle) (checkStopf temp2 handle) A := by
  refine h.triple_readSr1 fun sr1 hStopf => ?_
  rw [hStopf, Bool.and_false, if_neg Bool.false_ne_true]
  exact h.triple_pure

theorem triple_checkTxe {memory : Nat → U8} :
    I2cTriple words len ahead (A handle) (checkTxe memory temp1 temp2 handle) A := by
  refine h.triple_readSr1 fun sr1 _ => ?_
  split
  · refine h.triple_readSr2 fun sr2 => ?_
    split
    · refine .assuming (fun _ => h.notSending) fun hState => ?_
      rw [if_neg hState]
      exact h.triple_pure
    · refine h.triple_readSr2 fun sr2 => ?_
      split
      · exact h.triple_callback
      · exact h.triple_pure
  · exact h.triple_pure

end Calm

end I2cHandle

namespace I2cReception

open I2cHandle

variable {r : I2cReception} {c : U32} {before : Option U32} {m : Nat} {fs : List I2cFlag}
  {handle : I2cHandle}

theorem Resting.calm (hMany : r.len ≠ 1) :
    Calm r.bus.words r.len.toNat r.ahead (r.Resting c before m fs) where
  changes := Resting.changes
  serving h := h.serving
  notSending h hState := by cases hState.symm.trans h.holds.busy
  permitted _ := Resting.permitted hMany
  readSr1 := Resting.readSr1
  readSr2 h := h.readSr2 hMany
  callback h := h.callback _

theorem Done.calm : Calm r.bus.words r.len.toNat r.ahead r.Done where
  changes h hChanges := { h with served := h.served.changes hChanges }
  serving h := h.served.serving
  notSending h hState := by cases hState.symm.trans h.ready
  permitted h _ hAddr := by cases hAddr.symm.trans h.served.stage
  readSr1 h := { h with served := { h.served.readSr1 with acking := h.served.acking } }
  readSr2 h := { h with served := { h.served.readSr2 with acking := h.served.acking } }
  callback h := { h with }

theorem stable_flag {f : I2cFlag} : I2cStable r.ahead fun device =>
    r.Resting c before m (f :: fs) handle device ∧ device.shows f = true ∧
      device.sr1Read = true := by
  rintro e device ⟨h, hShows, hRead⟩
  exact ⟨h.changes changes_occur, changes_occur.shows hShows, changes_occur.sr1Read.trans hRead⟩

section Flags

variable (hMany : r.len ≠ 1)

include hMany

theorem triple_check {f : I2cFlag} {temp : Bool} {p : I2cProg I2cHandle}
    {Q : I2cHandle → I2cDevice → Prop} (hTemp : I2cEnabled c → temp = true)
    (hPure : I2cTriple r.bus.words r.len.toNat r.ahead (r.Resting c before m fs handle)
      (.pure handle) Q)
    (hHandle : I2cTriple r.bus.words r.len.toNat r.ahead
      (fun device => r.Resting c before m (f :: fs) handle device ∧ device.shows f = true ∧
        device.sr1Read = true) p Q) :
    I2cTriple r.bus.words r.len.toNat r.ahead (r.Resting c before m (f :: fs) handle)
      (perform .readSr1 >>= fun sr1 => if temp && sr1.getLsbD f.bit then p else pure handle) Q := by
  refine triple_readSr1 (Resting.calm hMany).stable (fun _ h => h.serving)
    (C := fun sr1 device => r.Resting c before m (f :: fs) handle device ∧
      sr1.getLsbD f.bit = device.shows f ∧ device.sr1Read = true)
    (fun device w h => ⟨h.readSr1, sr1_bit, rfl⟩) fun sr1 => ?_
  cases hBit : sr1.getLsbD f.bit with
  | true =>
    cases temp with
    | true => exact hHandle.consequence (fun _ h => ⟨h.1, h.2.1.symm, h.2.2⟩) fun _ _ => id
    | false =>
      refine hPure.consequence (fun device h => ?_) fun _ _ => id
      exact h.1.not_enabled fun hNow => Bool.false_ne_true (hTemp hNow)
  | false =>
    rw [Bool.and_false, if_neg Bool.false_ne_true]
    refine hPure.consequence (fun device h => ?_) fun _ _ => id
    exact h.1.owes_of fun hEnabled => (h.1.owes hEnabled).of_not_shows h.2.1.symm

theorem triple_checkSb {temp2 : Bool} (hTemp : I2cEnabled c → temp2 = true) :
    I2cTriple r.bus.words r.len.toNat r.ahead (r.Resting c before m (.sb :: fs) handle)
      (checkSb temp2 handle) (r.Resting c before m fs) := by
  have hCalm : Calm r.bus.words r.len.toNat r.ahead (r.Resting c before m fs) :=
    Resting.calm hMany
  refine triple_check hMany (f := .sb) hTemp hCalm.triple_pure ?_
  refine .assuming (fun _ h => h.1.holds.busy) fun hBusy => ?_
  rw [if_pos hBusy]
  refine .bind (Q := fun _ => r.Resting c before m fs handle) ?_ fun _ => hCalm.triple_pure
  exact triple_writeDr stable_flag (fun _ h => h.1.serving) hCalm.stable fun _ h => h.1.writeDr h.2.1

theorem triple_checkAddr {temp2 : Bool} (hTemp : I2cEnabled c → temp2 = true) :
    I2cTriple r.bus.words r.len.toNat r.ahead (r.Resting c before m (.addr :: fs) handle)
      (checkAddr temp2 handle) (r.Resting c before m fs) := by
  have hCalm : Calm r.bus.words r.len.toNat r.ahead (r.Resting c before m fs) :=
    Resting.calm hMany
  refine triple_check hMany (f := .addr) hTemp hCalm.triple_pure ?_
  refine triple_readSr2 stable_flag (fun _ h => h.1.serving) (fun _ _ => Resting.permitted hMany)
    (C := fun sr2 device => sr2.getLsbD i2cSr2Msl = true ∧ r.Resting c before m fs handle device)
    ?_ fun sr2 => ?_
  · rintro device w ⟨h, hShows, hRead⟩
    have hStage : device.stage = .addr := of_decide_eq_true hShows
    exact ⟨sr2_msl (by rw [hStage]; decide) (by rw [hStage]; decide),
      h.clearAddr hMany hShows hRead⟩
  · -- reading `SR2` to test MSL has cleared the flag already
    refine .assuming (fun _ h => And.intro h.1 (And.intro h.2.holds.busy h.2.holds.size))
      fun hFacts => ?_
    obtain ⟨hMsl, hBusy, hSize⟩ := hFacts
    rw [if_pos hMsl, if_pos hBusy, if_neg (hSize ▸ hMany)]
    exact hCalm.triple_pure.consequence (fun _ h => h.2) fun _ _ => id

end Flags

def Framed (r : I2cReception) (c : U32) (m k : Nat) (device : I2cDevice) : Prop :=
  device.cr2 = c ∧ (I2cEnabled c → device.left r.len.toNat + device.taken ≤ m + k)

theorem stable_framed {k : Nat} : I2cStable r.ahead (r.Framed c m k) := by
  rintro e device ⟨hCr2, hLeft⟩
  have hChanges : Changes r.ahead device (device.occur r.ahead e) := changes_occur
  have hLe : (device.occur r.ahead e).left r.len.toNat ≤ device.left r.len.toNat :=
    hChanges.advances.left_le
  refine ⟨hChanges.cr2.trans hCr2, fun hEnabled => ?_⟩
  rw [hChanges.taken]
  exact (Nat.add_le_add_right hLe _).trans (hLeft hEnabled)

theorem Framed.respond {k : Nat} {i : I2cAccess} {w : U32} {device : I2cDevice}
    (h : r.Framed c m k device) (hKind : ∀ value, i ≠ .writeCr2 value)
    (hSound : device.Sound r.len.toNat r.ahead i) :
    r.Framed c m k (device.respond r.bus.words i w).2 := by
  have hCr2 : (device.respond r.bus.words i w).2.cr2 = device.cr2 := by
    cases i with
    | writeCr2 value => exact absurd rfl (hKind value)
    | readDr =>
      rw [I2cDevice.respond]
      split <;> rfl
    | _ => rfl
  exact ⟨hCr2.trans h.1, fun hEnabled => hSound.left_add_taken_le.trans (h.2 hEnabled)⟩

theorem Holds.next_byte {k : Nat} (h : r.Holds k handle) (hLt : k < r.len.toNat) :
    r.Holds (k + 1) { handle.store handle.pRxBuffer (r.bus.words k) with
      rxLen := handle.rxLen - 1
      pRxBuffer := handle.pRxBuffer + 1 } where
  busy := h.busy
  size := h.size
  remaining := by
    have hRemaining := h.remaining
    have hOne : (handle.rxLen - 1).toNat = handle.rxLen.toNat - 1 :=
      BitVec.toNat_sub_of_le (BitVec.le_def.mpr (show 1 ≤ handle.rxLen.toNat by omega))
    change (handle.rxLen - 1).toNat + (k + 1) = r.len.toNat
    omega
  next := congrArg (· + 1) h.next
  stores := by
    change handle.stores ++ [(handle.pRxBuffer, (r.bus.words k).setWidth 8)] = _
    rw [h.stores, h.next, received, received, ← store_received]
    rfl
  ackEnabled := h.ackEnabled

theorem triple_receiveNext {k : Nat} (hMore : 1 < r.len) (hLt : k < r.len.toNat)
    (hHolds : r.Holds k handle) :
    I2cTriple r.bus.words r.len.toNat r.ahead
      (fun device => (device.Clocking r.len.toNat r.ahead k ∧ device.shows .rxne = true) ∧
        r.Framed c m k device) (receiveNext handle)
      fun next device => (r.Holds (k + 1) next ∧ device.Clocking r.len.toNat r.ahead (k + 1)) ∧
        r.Framed c m k device := by
  refine .frame (fun i => ∀ value, i ≠ .writeCr2 value) ?_ stable_framed
    (fun i w device hKind hSound h => h.respond hKind hSound) ?_
  · rw [receiveNext, if_pos (hHolds.size ▸ hMore)]
    refine .bind (Q := fun _ => Ready r.len.toNat r.ahead k) ?_ fun _ => ?_
    · have hRemaining := hHolds.remaining
      split
      · rename_i hTwo
        rw [hTwo] at hRemaining
        exact triple_disableAcking (hRemaining.symm.trans (Nat.add_comm 2 k)).le
      · rename_i hNotTwo
        refine triple_pure stable_ready fun device h => ?_
        refine { h.1 with there := h.2, refusing := fun hLast => ?_ }
        exact absurd (BitVec.eq_of_toNat_eq (show handle.rxLen.toNat = 2 by omega)) hNotTwo
    · refine triple_readByte hLt (triple_pure ?_ fun device h => ⟨hHolds.next_byte hLt, h⟩)
      exact fun e device h => ⟨h.1, stable_clocking e device h.2⟩
  · rw [receiveNext, if_pos (hHolds.size ▸ hMore)]
    refine .bind ?_ fun _ => ⟨nofun, fun _ => trivial⟩
    split
    · exact ⟨nofun, fun _ => ⟨nofun, fun _ => trivial⟩⟩
    · trivial

theorem triple_closeReceive (hAck : handle.ackControl = i2cAckEnable) :
    I2cTriple r.bus.words r.len.toNat r.ahead (Clocking r.len.toNat r.ahead r.len.toNat)
      (closeReceive handle) fun next device =>
        (next.txRxState = .ready ∧ next.stores = handle.stores) ∧
          device.Served r.len.toNat r.ahead := by
  have hClear : ∀ i, I2cTriple r.bus.words r.len.toNat r.ahead
      (Clocking r.len.toNat r.ahead r.len.toNat) (clearCr2 i)
      fun _ => Clocking r.len.toNat r.ahead r.len.toNat := by
    intro i
    refine triple_modifyCr2 (f := fun cr2 => cr2 &&& ~~~bit i) stable_clocking
      (fun _ h => h.serving) stable_clocking fun device h => ?_
    exact ⟨h.serving.of_eq rfl rfl rfl rfl, h.stage, h.taken⟩
  refine .bind (hClear _) fun _ => .bind (hClear _) fun _ => .bind (triple_restoreAcking hAck)
    fun _ => triple_pure ?_ fun device h => ⟨⟨rfl, rfl⟩, h⟩
  exact fun e device h => ⟨h.1, h.2.changes changes_occur⟩

theorem triple_completeReceive (hLast : handle.rxLen = 0)
    (hAck : handle.ackControl = i2cAckEnable)
    (hStores : handle.stores = (r.received r.len.toNat).stores) :
    I2cTriple r.bus.words r.len.toNat r.ahead (Clocking r.len.toNat r.ahead r.len.toNat)
      (completeReceive handle) r.Done := by
  rw [completeReceive, if_pos hLast]
  refine .bind (triple_stopUnlessRepeated stable_clocking (fun _ => id) fun _ h => h.writeStop)
    fun _ => .bind (triple_closeReceive hAck) fun next => triple_pure Done.calm.stable ?_
  rintro device ⟨⟨hReady, hSame⟩, hServed⟩
  exact ⟨hServed, hReady, hSame.trans hStores⟩

/-- What an invocation leaves: the transfer goes on, or it is done. -/
def Left (r : I2cReception) (c : U32) (before : Option U32) (m : Nat) (fs : List I2cFlag)
    (handle : I2cHandle) (device : I2cDevice) : Prop :=
  r.Resting c before m fs handle device ∨ before = none ∧ r.Done handle device

theorem stable_left : I2cStable r.ahead (r.Left c before m fs handle) :=
  fun _ _ h => h.imp (fun h => h.changes changes_occur) fun h =>
    ⟨h.1, Done.calm.changes h.2 changes_occur⟩

theorem triple_masterRxneHandler {k : Nat} (hMore : 1 < r.len) (hLt : k < r.len.toNat)
    (hHolds : r.Holds k handle) :
    I2cTriple r.bus.words r.len.toNat r.ahead
      (fun device => (device.Clocking r.len.toNat r.ahead k ∧ device.shows .rxne = true) ∧
        r.Framed c m k device) (masterRxneHandler handle) (r.Left c none m fs) := by
  have hNotOne : ¬ handle.rxSize = 1 := by
    rw [hHolds.size]
    exact fun hOne => absurd hMore (by rw [hOne]; decide)
  rw [masterRxneHandler, receiveOnly, if_neg hNotOne, Prog.pure_bind]
  refine .bind (triple_receiveNext hMore hLt hHolds) fun next => ?_
  refine .assuming (fun _ h => h.1.1) fun hNext => ?_
  have hRemaining := hNext.remaining
  by_cases hLast : next.rxLen = 0
  · rw [hLast] at hRemaining
    have hAll : k + 1 = r.len.toNat := (Nat.zero_add _).symm.trans hRemaining
    have hComplete : I2cTriple r.bus.words r.len.toNat r.ahead
        (Clocking r.len.toNat r.ahead r.len.toNat) (completeReceive next) r.Done :=
      triple_completeReceive hLast hNext.ackEnabled (hAll ▸ hNext.stores)
    exact hComplete.consequence (fun _ h => hAll ▸ h.1.2) fun _ _ h => .inr ⟨rfl, h⟩
  · have hPos : next.rxLen.toNat ≠ 0 := fun hZero => hLast (BitVec.eq_of_toNat_eq hZero)
    rw [completeReceive, if_neg hLast]
    refine triple_pure stable_left ?_
    · rintro device ⟨⟨_, hClocking⟩, hCr2, hLeft⟩
      have hTaken := hClocking.taken
      refine .inl ⟨hClocking.serving, hCr2, ?_, by omega, hTaken.symm ▸ hNext, ?_⟩
      · exact ne_of_eq_of_ne hClocking.stage I2cStage.noConfusion
      · intro hEnabled
        have hLess := hLeft hEnabled
        exact .inl (by omega)

theorem one_lt_len (hMany : r.len ≠ 1) : 1 < r.len := by
  have hSome : r.len.toNat ≠ 0 := fun hZero => r.len_ne_zero (BitVec.eq_of_toNat_eq hZero)
  have hNotOne : r.len.toNat ≠ 1 := fun hOne => hMany (BitVec.eq_of_toNat_eq hOne)
  refine BitVec.lt_def.mpr ?_
  change 1 < r.len.toNat
  omega

theorem triple_checkRxne {temp1 temp2 : Bool} (hMany : r.len ≠ 1)
    (hTemp : I2cEnabled c → (temp1 && temp2) = true) :
    I2cTriple r.bus.words r.len.toNat r.ahead (r.Resting c before m (.rxne :: fs) handle)
      (checkRxne temp1 temp2 handle) (r.Left c before m fs) := by
  refine triple_check hMany (f := .rxne) hTemp (triple_pure stable_left fun _ => .inl) ?_
  refine triple_readSr2 stable_flag (fun _ h => h.1.serving) (fun _ _ => Resting.permitted hMany)
    (C := fun sr2 device => sr2.getLsbD i2cSr2Msl = true ∧
      r.Resting c before m (.rxne :: fs) handle device ∧ device.shows .rxne = true) ?_ fun sr2 => ?_
  · rintro device w ⟨h, hShows, _⟩
    have hStage := h.serving.clocking_of_shows hShows
    exact ⟨sr2_msl (by rw [hStage]; decide) (by rw [hStage]; decide), h.readSr2 hMany, hShows⟩
  · refine .assuming (fun _ h => And.intro h.1 h.2.1.holds.busy) fun hFacts => ?_
    rw [if_pos hFacts.1, if_pos hFacts.2]
    rintro device ⟨_, h, hShows⟩
    have hStage := h.serving.clocking_of_shows hShows
    have hHeld := h.held
    cases before with
    | some cr1 => cases hStage.symm.trans hHeld.1
    | none =>
      refine triple_masterRxneHandler (one_lt_len hMany) h.unfinished h.holds device
        ⟨⟨⟨h.serving, hStage, rfl⟩, hShows⟩, h.cr2, fun hEnabled => ?_⟩
      exact Nat.add_le_add_right (h.owes hEnabled).left_le _

theorem triple_evIrqHandling {memory : Nat → U8} (hMany : r.len ≠ 1) :
    I2cTriple r.bus.words r.len.toNat r.ahead
      (r.Resting c before m [.sb, .addr, .rxne] handle) (evIrqHandling memory handle)
      (r.Left c before m []) := by
  refine triple_readCr2 (Resting.calm hMany).stable (fun _ h => h.serving)
    (C := fun cr2 => cr2 = c) (fun _ h => h.cr2) fun cr2 hFirst => ?_
  refine triple_readCr2 (Resting.calm hMany).stable (fun _ h => h.serving)
    (C := fun cr2 => cr2 = c) (fun _ h => h.cr2) fun cr2' hSecond => ?_
  rw [hFirst, hSecond]
  refine .bind (triple_checkSb hMany fun h => h.2) fun _ => ?_
  refine .bind (triple_checkAddr hMany fun h => h.2) fun _ => ?_
  refine .bind (Resting.calm hMany).triple_checkBtf fun _ => ?_
  refine .bind (Resting.calm hMany).triple_checkStopf fun _ => ?_
  refine .bind (Resting.calm hMany).triple_checkTxe fun _ => ?_
  exact triple_checkRxne hMany fun h => by rw [h.1, h.2, Bool.and_self]

theorem Done.triple_checkSb {temp2 : Bool} : I2cTriple r.bus.words r.len.toNat r.ahead
    (r.Done handle) (checkSb temp2 handle) r.Done := by
  refine Done.calm.triple_readSr1 fun sr1 _ => .assuming (fun _ h => h.ready) fun hReady => ?_
  split
  · rw [hReady, if_neg I2cState.noConfusion, if_neg I2cState.noConfusion]
    exact Done.calm.triple_pure
  · exact Done.calm.triple_pure

theorem Done.triple_checkAddr {temp2 : Bool} : I2cTriple r.bus.words r.len.toNat r.ahead
    (r.Done handle) (checkAddr temp2 handle) r.Done := by
  refine triple_readSr1 Done.calm.stable (fun _ h => h.served.serving)
    (C := fun sr1 device => sr1.getLsbD i2cSr1Addr = false ∧ r.Done handle device) ?_ fun sr1 => ?_
  · intro device w h
    refine ⟨sr1_addr.trans (decide_eq_false ?_), Done.calm.readSr1 h⟩
    rw [h.served.stage]
    decide
  · refine .assuming (fun _ => And.left) fun hClear => ?_
    rw [hClear, Bool.and_false, if_neg Bool.false_ne_true]
    exact Done.calm.triple_pure.consequence (fun _ => And.right) fun _ _ => id

theorem Done.triple_checkRxne {temp1 temp2 : Bool} : I2cTriple r.bus.words r.len.toNat r.ahead
    (r.Done handle) (checkRxne temp1 temp2 handle) r.Done := by
  refine Done.calm.triple_readSr1 fun sr1 _ => .assuming (fun _ h => h.ready) fun hReady => ?_
  split
  · refine Done.calm.triple_readSr2 fun sr2 => ?_
    split
    · rw [hReady, if_neg I2cState.noConfusion]
      exact Done.calm.triple_pure
    · refine Done.calm.triple_readSr2 fun sr2 => ?_
      split
      · exact Done.calm.triple_callback
      · exact Done.calm.triple_pure
  · exact Done.calm.triple_pure

theorem Done.triple_evIrqHandling {memory : Nat → U8} : I2cTriple r.bus.words r.len.toNat r.ahead
    (r.Done handle) (evIrqHandling memory handle) r.Done := by
  have hStable : I2cStable r.ahead (r.Done handle) := Done.calm.stable
  refine triple_readCr2 hStable (fun _ h => h.served.serving) (C := fun _ => True)
    (fun _ _ => trivial) fun _ _ => ?_
  refine triple_readCr2 hStable (fun _ h => h.served.serving) (C := fun _ => True)
    (fun _ _ => trivial) fun _ _ => ?_
  refine .bind Done.triple_checkSb fun _ => .bind Done.triple_checkAddr fun _ => ?_
  refine .bind Done.calm.triple_checkBtf fun _ => .bind Done.calm.triple_checkStopf fun _ => ?_
  exact .bind Done.calm.triple_checkTxe fun _ => Done.triple_checkRxne

end I2cReception

end KoRTOS.Hal
