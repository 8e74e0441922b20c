import KoRTOS.Hal.I2cTransmitting

/-!
# Transmission by polling

The parts of `I2C_master_send` in turn, and what the slave gets: one start condition, the
address, every byte once and in order, and a stop condition after the last bit of the last
byte. No byte is written over one that waits.
-/

namespace KoRTOS.Hal

open RegisterBits Accesses Rounds I2cProg

namespace I2cTransmitter

/-- What has gone to the peripheral so far is on the line or on its way, in order. -/
structure Sending (starts : Nat) (address sent : List U8) (device : I2cTransmitter) : Prop where
  starts : device.starts = starts
  stops : device.stops = 0
  address : device.address = address
  bytes : device.line ++ device.shift.toList ++ device.dr.toList = sent
  order : device.shift = none → device.dr = none
  noStart : device.stage ≠ .starting → device.cr1.getLsbD i2cCr1Start = false
  noStop : device.cr1.getLsbD i2cCr1Stop = false

/-- What the driver may do: it requests one start condition, and the stop condition when all is on
the line, and a byte is written only where none waits. -/
def Permits : I2cAccess → I2cTransmitter → Prop
  | .writeCr1 value, device =>
    (value.getLsbD i2cCr1Start = true → device.stage = .idle) ∧
      (value.getLsbD i2cCr1Stop = true → device.btf = true)
  | .writeDr _, device => device.stage = .sb ∨ device.txe = true
  | _, _ => True

variable {starts : Nat} {address sent : List U8} {device : I2cTransmitter} {e : I2cChange}

theorem Sending.occur (h : device.Sending starts address sent) :
    (device.occur e).Sending starts address sent := by
  cases e with
  | sb =>
    simp only [I2cTransmitter.occur]
    split
    · refine { h with noStart := fun _ => getLsbD_and_not_bit_self (by decide), noStop := ?_ }
      rw [getLsbD_and_not_bit_of_ne (by decide) (by decide)]
      exact h.noStop
    · exact h
  | addr =>
    simp only [I2cTransmitter.occur]
    split
    · rename_i hStage
      exact { h with noStart := fun _ => h.noStart (by rw [hStage]; decide) }
    · exact h
  | byte =>
    simp only [I2cTransmitter.occur]
    split
    · exact h
    · rename_i value hShift
      have hBytes := h.bytes
      rw [hShift] at hBytes
      exact { h with bytes := by simpa using hBytes, order := fun _ => rfl }

structure At (stages : List I2cStage) (starts : Nat) (address sent : List U8)
    (device : I2cTransmitter) : Prop
    extends Sending starts address sent device where
  stage : device.stage ∈ stages

/-- The peripheral does not leave these stages by itself. -/
def Closed (stages : List I2cStage) : Prop :=
  (.starting ∈ stages → .sb ∈ stages) ∧ (.addressing ∈ stages → .addr ∈ stages)

instance {stages : List I2cStage} : Decidable (Closed stages) := by
  unfold Closed
  infer_instance

variable {stages : List I2cStage} {A B : I2cTransmitter → Prop}

theorem occur_stage (hClosed : Closed stages) (h : device.stage ∈ stages) :
    (device.occur e).stage ∈ stages := by
  cases e with
  | sb =>
    simp only [I2cTransmitter.occur]
    split
    · rename_i hStage
      exact hClosed.1 (hStage ▸ h)
    · exact h
  | addr =>
    simp only [I2cTransmitter.occur]
    split
    · rename_i hStage
      exact hClosed.2 (hStage ▸ h)
    · exact h
  | byte =>
    simp only [I2cTransmitter.occur]
    split <;> exact h

theorem stable_at (hClosed : Closed stages) :
    i2cTransmitter.Stable (At stages starts address sent) :=
  fun _ _ h => ⟨h.toSending.occur, occur_stage hClosed h.stage⟩

theorem At.readSr1 (h : device.At stages starts address sent) :
    At stages starts address sent { device with sr1Read := true } :=
  ⟨{ h.toSending with }, h.stage⟩

theorem At.singleton {stage : I2cStage} (h : device.At [stage] starts address sent) :
    device.stage = stage := List.mem_singleton.mp h.stage

variable {w : U32}

theorem sr1_sb : (device.sr1 w).getLsbD i2cSr1Sb = decide (device.stage = .sb) :=
  getLsbD_withBit_self (by decide)

theorem sr1_addr : (device.sr1 w).getLsbD i2cSr1Addr = decide (device.stage = .addr) := by
  rw [sr1, getLsbD_withBit_of_ne (by decide) (by decide), getLsbD_withBit_self (by decide)]

theorem sr1_txe : (device.sr1 w).getLsbD i2cSr1Txe = device.txe := by
  rw [sr1, getLsbD_withBit_of_ne (by decide) (by decide),
    getLsbD_withBit_of_ne (by decide) (by decide), getLsbD_withBit_self (by decide)]

theorem sr1_btf : (device.sr1 w).getLsbD i2cSr1Btf = device.btf := by
  rw [sr1, getLsbD_withBit_of_ne (by decide) (by decide),
    getLsbD_withBit_of_ne (by decide) (by decide), getLsbD_withBit_of_ne (by decide) (by decide),
    getLsbD_withBit_self (by decide)]

theorem txe_iff : device.txe = true ↔ device.stage = .clocking ∧ device.dr = none := by
  rw [txe, Bool.and_eq_true, decide_eq_true_eq, Option.isNone_iff_eq_none]

theorem btf_iff : device.btf = true ↔
    device.txe = true ∧ device.shift = none ∧ device.line ≠ [] := by
  rw [btf, Bool.and_eq_true, Bool.and_eq_true, Option.isNone_iff_eq_none, and_assoc,
    Bool.not_eq_true', List.isEmpty_eq_false_iff]

theorem txe_occur (h : device.txe = true) : (device.occur e).txe = true := by
  obtain ⟨hStage, hDr⟩ := txe_iff.mp h
  refine txe_iff.mpr ⟨?_, ?_⟩
  · have hMem : device.stage ∈ [.clocking] := List.mem_singleton.mpr hStage
    exact List.mem_singleton.mp (occur_stage (by decide) hMem)
  · cases e with
    | byte =>
      simp only [I2cTransmitter.occur]
      split
      · exact hDr
      · rfl
    | _ =>
      simp only [I2cTransmitter.occur]
      split <;> exact hDr

theorem btf_occur (h : device.btf = true) : (device.occur e).btf = true := by
  obtain ⟨hTxe, hShift, hLine⟩ := btf_iff.mp h
  refine btf_iff.mpr ⟨txe_occur hTxe, ?_⟩
  cases e with
  | byte =>
    simp only [I2cTransmitter.occur, hShift]
    exact ⟨trivial, hLine⟩
  | _ =>
    simp only [I2cTransmitter.occur]
    split <;> exact ⟨hShift, hLine⟩

abbrev SendTriple {α : Type} (A : I2cTransmitter → Prop) (p : I2cProg α)
    (Q : α → I2cTransmitter → Prop) : Prop :=
  i2cTransmitter.Triple Permits A p Q

theorem triple_setCr1 {i : Nat} (hA : i2cTransmitter.Stable A) (hB : i2cTransmitter.Stable B)
    (hHeld : ∀ device, A device → device.stage ≠ .starting)
    (hPermits : ∀ device, A device → device.Permits (.writeCr1 (device.cr1 ||| bit i)))
    (hWrite : ∀ device, A device → B (device.control (device.cr1 ||| bit i))) :
    SendTriple A (setCr1 i) fun _ => B := by
  refine .access hA (C := fun cr1 device => A device ∧ device.cr1 = cr1) (fun _ _ => trivial)
    (fun _ _ h => ⟨h, rfl⟩) fun cr1 => ?_
  refine .access (C := fun _ => B) ?_ ?_ ?_ fun _ => .pure hB fun _ => id
  · rintro e device ⟨h, rfl⟩
    refine ⟨hA e device h, ?_⟩
    change (device.occur e).cr1 = device.cr1
    cases e with
    | sb => rw [I2cTransmitter.occur, if_neg (hHeld device h)]
    | _ =>
      simp only [I2cTransmitter.occur]
      split <;> rfl
  · rintro device ⟨h, rfl⟩
    exact hPermits device h
  · rintro device w ⟨h, rfl⟩
    exact hWrite device h

theorem triple_awaitFlag {flag : Nat} {shows : I2cTransmitter → Bool} (e : I2cChange)
    (hBit : ∀ device w, (sr1 w device).getLsbD flag = shows device)
    (hA : i2cTransmitter.Stable A)
    (hShown : i2cTransmitter.Stable fun device => A device ∧ shows device = true)
    (hRead : ∀ device, A device → A { device with sr1Read := true })
    (hSame : ∀ device, shows { device with sr1Read := true } = shows device)
    (hOccur : ∀ device, A device → shows (device.occur e) = true) :
    SendTriple A (awaitFlag flag) fun _ device => A device ∧ shows device = true := by
  refine .await e hA (fun _ _ => trivial) ?_ hOccur hShown ?_ ?_ (.pure hShown fun _ => id)
  · exact fun device _ h _ => hRead device h
  · exact fun device w _ hShows => (hBit device w).trans hShows
  · exact fun device w h hReady =>
      ⟨hRead device h, (hSame device).trans ((hBit device w).symm.trans hReady)⟩

theorem triple_generateStart :
    SendTriple (At [.idle] 0 [] []) generateStart fun _ => At [.starting, .sb] 1 [] [] := by
  have hStopped : ∀ {device : I2cTransmitter}, device.At [.idle] 0 [] [] →
      (device.cr1 ||| bit i2cCr1Start).getLsbD i2cCr1Stop = false := by
    intro device h
    rw [getLsbD_or_bit_of_ne (by decide) (by decide)]
    exact h.noStop
  refine triple_setCr1 (stable_at (by decide)) (stable_at (by decide)) ?_ ?_ ?_
  · intro device h
    rw [h.singleton]
    decide
  · refine fun device h => ⟨fun _ => h.singleton, fun hStop => ?_⟩
    rw [hStopped h] at hStop
    cases hStop
  · intro device h
    have hStart := h.noStart (by rw [h.singleton]; decide)
    rw [control, getLsbD_or_bit_self (by decide), hStart,
      if_pos (show (true && !false) = true from rfl)]
    refine ⟨{ h.toSending with starts := ?_, noStart := ?_, noStop := hStopped h }, ?_⟩
    · exact congrArg (· + 1) h.starts
    · exact absurd rfl
    · exact List.mem_cons_self

theorem triple_awaitStage {flag : Nat} {before stage : I2cStage} (e : I2cChange)
    (hBit : ∀ device w, (sr1 w device).getLsbD flag = decide (device.stage = stage))
    (hBefore : Closed [before, stage]) (hStage : Closed [stage])
    (hOccur : ∀ device, device.stage = before ∨ device.stage = stage →
      (occur e device).stage = stage) :
    SendTriple (At [before, stage] starts address sent) (awaitFlag flag)
      fun _ => At [stage] starts address sent := by
  refine (triple_awaitFlag e hBit (stable_at hBefore) ?_ (fun _ h => h.readSr1) (fun _ => rfl)
    ?_).consequence (fun _ => id) ?_
  · rintro e device ⟨h, hThere⟩
    refine ⟨stable_at hBefore e device h, decide_eq_true ?_⟩
    exact List.mem_singleton.mp (occur_stage hStage
      (List.mem_singleton.mpr (of_decide_eq_true hThere)))
  · intro device h
    have hMem := h.stage
    rw [List.mem_cons, List.mem_singleton] at hMem
    exact decide_eq_true (hOccur device hMem)
  · exact fun _ device h => ⟨h.1.toSending, List.mem_singleton.mpr (of_decide_eq_true h.2)⟩

theorem triple_awaitSb : SendTriple (At [.starting, .sb] starts address sent)
    (awaitFlag i2cSr1Sb) fun _ => At [.sb] starts address sent := by
  refine triple_awaitStage .sb (fun _ _ => sr1_sb) (by decide) (by decide) ?_
  intro device h
  rw [occur]
  split
  · rfl
  · rename_i hNot
    exact h.resolve_left hNot

theorem triple_awaitAddr : SendTriple (At [.addressing, .addr] starts address sent)
    (awaitFlag i2cSr1Addr) fun _ => At [.addr] starts address sent := by
  refine triple_awaitStage .addr (fun _ _ => sr1_addr) (by decide) (by decide) ?_
  intro device h
  rw [occur]
  split
  · rfl
  · rename_i hNot
    exact h.resolve_left hNot

def writeAddress (slaveAddr : U8) : U8 := slaveAddr <<< 1 &&& ~~~1

theorem triple_executeAddrPhase {slaveAddr : U8} : SendTriple (At [.sb] 1 [] [])
    (executeAddrPhase slaveAddr WRITE)
    fun _ => At [.addressing, .addr] 1 [writeAddress slaveAddr] [] := by
  refine .access (stable_at (by decide)) (fun device h => .inl h.singleton)
    (C := fun _ => At [.addressing, .addr] 1 [writeAddress slaveAddr] []) ?_
    fun _ => .pure (stable_at (by decide)) fun _ => id
  intro device w h
  change At _ _ _ _ (device.write _)
  rw [write, h.singleton]
  have hNoStart := h.noStart (by rw [h.singleton]; decide)
  refine ⟨{ h.toSending with address := ?_, noStart := fun _ => hNoStart }, List.mem_cons_self⟩
  dsimp only
  rw [h.address, List.nil_append, BitVec.setWidth_setWidth_of_le _ (by decide), BitVec.setWidth_eq]
  rfl

theorem sr1Read_occur : (device.occur e).sr1Read = device.sr1Read := by
  cases e <;> simp only [I2cTransmitter.occur] <;> split <;> rfl

theorem triple_clearAddrFlag : SendTriple (At [.addr] 1 address []) clearAddrFlag
    fun _ => At [.clocking] 1 address [] := by
  refine .access (stable_at (by decide)) (fun _ _ => trivial)
    (C := fun _ device => device.At [.addr] 1 address [] ∧ device.sr1Read = true)
    (fun _ _ h => ⟨h.readSr1, rfl⟩) fun _ => ?_
  refine .access (C := fun _ => At [.clocking] 1 address []) ?_ (fun _ _ => trivial) ?_
    fun _ => .pure (stable_at (by decide)) fun _ => id
  · exact fun e device h => ⟨stable_at (by decide) e device h.1, sr1Read_occur.trans h.2⟩
  · rintro device w ⟨h, hRead⟩
    have hNoStart := h.noStart (by rw [h.singleton]; decide)
    refine ⟨{ h.toSending with noStart := fun _ => hNoStart }, ?_⟩
    exact List.mem_singleton.mpr (if_pos ⟨h.singleton, hRead⟩)

theorem stable_txe : i2cTransmitter.Stable fun device =>
    device.At [.clocking] starts address sent ∧ device.txe = true :=
  fun e device h => ⟨stable_at (by decide) e device h.1, txe_occur h.2⟩

theorem At.occur_byte (h : device.At [.clocking] starts address sent) :
    (device.occur .byte).txe = true := by
  rw [txe_iff]
  simp only [I2cTransmitter.occur]
  split
  · rename_i hShift
    exact ⟨h.singleton, h.order hShift⟩
  · exact ⟨h.singleton, rfl⟩

theorem triple_awaitTxe : SendTriple (At [.clocking] starts address sent) (awaitFlag i2cSr1Txe)
    fun _ device => device.At [.clocking] starts address sent ∧ device.txe = true :=
  triple_awaitFlag .byte (fun _ _ => sr1_txe) (stable_at (by decide)) stable_txe
    (fun _ h => h.readSr1) (fun _ => rfl) fun _ h => h.occur_byte

theorem At.write {value : U8} (h : device.At [.clocking] starts address sent)
    (hTxe : device.txe = true) :
    (device.write value).At [.clocking] starts address (sent ++ [value]) := by
  obtain ⟨hStage, hDr⟩ := txe_iff.mp hTxe
  have hBytes := h.bytes
  have hNoStart := h.noStart (by rw [hStage]; decide)
  rw [hDr, Option.toList_none, List.append_nil] at hBytes
  rw [I2cTransmitter.write, hStage]
  dsimp only
  split
  · rename_i hShift
    rw [hShift, Option.toList_none, List.append_nil] at hBytes
    refine ⟨{ h.toSending with bytes := ?_, order := ?_, noStart := fun _ => hNoStart }, ?_⟩
    · simp [hDr, hBytes]
    · rintro ⟨⟩
    · exact List.mem_singleton_self _
  · rename_i other hShift
    refine ⟨{ h.toSending with bytes := ?_, order := ?_, noStart := fun _ => hNoStart }, ?_⟩
    · simp [hBytes]
    · intro hNone
      cases hShift.symm.trans hNone
    · exact List.mem_singleton_self _

def bufferBytes (memory : Nat → U8) (p len : Nat) : List U8 :=
  (List.range len).map fun i => memory (p + i)

theorem bufferBytes_succ {memory : Nat → U8} {p len : Nat} :
    bufferBytes memory p (len + 1) = memory p :: bufferBytes memory (p + 1) len := by
  rw [bufferBytes, List.range_succ_eq_map, List.map_cons, List.map_map]
  refine congrArg (memory p :: ·) (List.map_congr_left fun i _ => congrArg memory ?_)
  omega

theorem triple_sendBytes {memory : Nat → U8} {p len : Nat} :
    SendTriple (At [.clocking] starts address sent) (sendBytes memory len p)
      fun _ => At [.clocking] starts address (sent ++ bufferBytes memory p len) := by
  induction len generalizing p sent with
  | zero =>
    refine .pure (stable_at (by decide)) fun device h => ?_
    rwa [bufferBytes, List.range_zero, List.map_nil, List.append_nil]
  | succ len ih =>
    refine triple_awaitTxe.bind fun _ => ?_
    refine .access stable_txe (fun _ h => .inr h.2)
      (C := fun _ => At [.clocking] starts address (sent ++ [memory p])) ?_ fun _ => ?_
    · intro device w h
      have hWrite : (device.write (memory p)).At [.clocking] starts address (sent ++ [memory p]) :=
        h.1.write h.2
      change At _ _ _ _ (device.write _)
      rwa [BitVec.setWidth_setWidth_of_le _ (by decide), BitVec.setWidth_eq]
    · have hRest : SendTriple (At [.clocking] starts address (sent ++ [memory p]))
          (sendBytes memory len (p + 1)) fun _ => At [.clocking] starts address
            (sent ++ [memory p] ++ bufferBytes memory (p + 1) len) := ih
      rwa [List.append_assoc, List.singleton_append, ← bufferBytes_succ] at hRest

structure Drained (starts : Nat) (address sent : List U8) (device : I2cTransmitter) : Prop
    extends At [.clocking] starts address sent device where
  btf : device.btf = true

theorem triple_awaitBtf (hSome : sent ≠ []) :
    SendTriple (fun device => device.At [.clocking] starts address sent ∧ device.txe = true)
      (awaitFlag i2cSr1Btf) fun _ => Drained starts address sent := by
  refine (triple_awaitFlag .byte (fun _ _ => sr1_btf) stable_txe ?_
    (fun _ h => ⟨h.1.readSr1, h.2⟩) (fun _ => rfl) ?_).consequence (fun _ => id)
    fun _ _ h => ⟨h.1.1, h.2⟩
  · exact fun e device h => ⟨stable_txe e device h.1, btf_occur h.2⟩
  · rintro device ⟨h, hTxe⟩
    have hDr := (txe_iff.mp hTxe).2
    have hBytes := h.bytes
    refine btf_iff.mpr ⟨txe_occur hTxe, ?_⟩
    rw [hDr, Option.toList_none, List.append_nil] at hBytes
    simp only [I2cTransmitter.occur]
    split
    · rename_i hShift
      rw [hShift, Option.toList_none, List.append_nil] at hBytes
      exact ⟨hShift, hBytes ▸ hSome⟩
    · exact ⟨hDr, by simp⟩

/-- The slave got the address and the bytes, between a start and, unless another start condition
is to follow, a stop condition. -/
structure Sent (rsEnable : U8) (address sent : List U8) (device : I2cTransmitter) : Prop where
  address : device.address = address
  line : device.line = sent
  starts : device.starts = 1
  stops : device.stops = if rsEnable = i2cRsDisable then 1 else 0
  nothingLeft : device.shift = none ∧ device.dr = none

theorem Drained.nothingLeft (h : device.Drained 1 address sent) :
    device.line = sent ∧ device.shift = none ∧ device.dr = none := by
  obtain ⟨hTxe, hShift, -⟩ := btf_iff.mp h.btf
  have hDr := (txe_iff.mp hTxe).2
  have hBytes := h.bytes
  rw [hShift, hDr, Option.toList_none, List.append_nil, List.append_nil] at hBytes
  exact ⟨hBytes, hShift, hDr⟩

theorem stable_sent {rsEnable : U8} : i2cTransmitter.Stable (Sent rsEnable address sent) := by
  intro e device h
  have hSame : (device.occur e).address = device.address ∧ (device.occur e).line = device.line ∧
      (device.occur e).starts = device.starts ∧ (device.occur e).stops = device.stops ∧
      (device.occur e).shift = device.shift ∧ (device.occur e).dr = device.dr := by
    cases e with
    | byte =>
      have hNothing : device.occur .byte = device := by
        rw [I2cTransmitter.occur, h.nothingLeft.1]
      rw [hNothing]
      exact ⟨rfl, rfl, rfl, rfl, rfl, rfl⟩
    | _ =>
      simp only [I2cTransmitter.occur]
      split <;> exact ⟨rfl, rfl, rfl, rfl, rfl, rfl⟩
  obtain ⟨hAddress, hLine, hStarts, hStops, hShift, hDr⟩ := hSame
  exact ⟨hAddress.trans h.address, hLine.trans h.line, hStarts.trans h.starts,
    hStops.trans h.stops, hShift.trans h.nothingLeft.1, hDr.trans h.nothingLeft.2⟩

theorem triple_stopUnlessRepeated {rsEnable : U8} : SendTriple (Drained 1 address sent)
    (I2cHandle.stopUnlessRepeated rsEnable) fun _ => Sent rsEnable address sent := by
  have hStable : i2cTransmitter.Stable (Drained 1 address sent) :=
    fun e device h => ⟨stable_at (by decide) e device h.toAt, btf_occur h.btf⟩
  rw [I2cHandle.stopUnlessRepeated]
  split
  · rename_i hStop
    refine triple_setCr1 hStable stable_sent ?_ ?_ ?_
    · intro device h
      rw [h.singleton]
      decide
    · refine fun device h => ⟨fun hStart => ?_, fun _ => h.btf⟩
      rw [getLsbD_or_bit_of_ne (by decide) (by decide),
        h.noStart (by rw [h.singleton]; decide)] at hStart
      cases hStart
    · intro device h
      have hStart := h.noStart (by rw [h.singleton]; decide)
      obtain ⟨hLine, hShift, hDr⟩ := h.nothingLeft
      rw [control, getLsbD_or_bit_of_ne (by decide) (by decide), hStart,
        if_neg (show ¬ (false && !false) = true by decide), getLsbD_or_bit_self (by decide),
        h.noStop, if_pos (show (true && !false) = true from rfl)]
      refine ⟨h.address, hLine, h.starts, ?_, hShift, hDr⟩
      rw [if_pos hStop]
      exact congrArg (· + 1) h.stops
  · rename_i hRepeated
    refine .pure stable_sent fun device h => ?_
    obtain ⟨hLine, hShift, hDr⟩ := h.nothingLeft
    exact ⟨h.address, hLine, h.starts, by rw [if_neg hRepeated, h.stops], hShift, hDr⟩

theorem triple_masterSend {memory : Nat → U8} {p : Nat} {len : U32} {slaveAddr rsEnable : U8}
    (hSome : len ≠ 0) : SendTriple (At [.idle] 0 [] []) (masterSend memory p len slaveAddr rsEnable)
      fun _ => Sent rsEnable [writeAddress slaveAddr] (bufferBytes memory p len.toNat) := by
  have hBytes : bufferBytes memory p len.toNat ≠ [] := by
    intro hNil
    refine hSome (BitVec.eq_of_toNat_eq ?_)
    simpa [bufferBytes] using hNil
  refine triple_generateStart.bind fun _ => triple_awaitSb.bind fun _ =>
    triple_executeAddrPhase.bind fun _ => triple_awaitAddr.bind fun _ =>
      triple_clearAddrFlag.bind fun _ => triple_sendBytes.bind fun _ => ?_
  exact triple_awaitTxe.bind fun _ => (triple_awaitBtf hBytes).bind fun _ =>
    triple_stopUnlessRepeated

end I2cTransmitter

open I2cTransmitter

/-- Whatever the order of the accesses and of what the peripheral does, `I2C_master_send` makes
only accesses that it may make, and if it is not starved, it ends when the slave got the address
and every byte once and in order. -/
theorem i2c_master_send (memory : Nat → U8) (p : Nat) (len : U32) (slaveAddr rsEnable : U8)
    (hSome : len ≠ 0) (device : I2cTransmitter) (hIdle : device.At [.idle] 0 [] [])
    (input : Nat → Role U32 I2cChange) :
    let run := after i2cTransmitter.runStep input
      (masterSend memory p len slaveAddr rsEnable, device)
    (∀ n i, (run n).1.next? = some i → (run n).2.Permits i) ∧
    (Goes id input → ∃ n device', run n = (.pure (), device') ∧
      device'.Sent rsEnable [slaveAddr <<< 1 &&& ~~~1]
        ((List.range len.toNat).map fun i => memory (p + i))) := by
  intro run
  have hTriple : SendTriple (At [.idle] 0 [] []) (masterSend memory p len slaveAddr rsEnable)
      fun _ => I2cTransmitter.Sent rsEnable [writeAddress slaveAddr]
        (bufferBytes memory p len.toNat) :=
    triple_masterSend hSome
  obtain ⟨hPermits, hEnds⟩ := hTriple.run hIdle input
  refine ⟨hPermits, fun hGoes => ?_⟩
  obtain ⟨n, _, device', hEnd, hSent⟩ := hEnds hGoes
  exact ⟨n, device', hEnd, hSent⟩

def turns (n : Nat) : Role U32 I2cChange :=
  if n % 4 = 0 then .access 0
  else if n % 4 = 1 then .occur .sb
  else if n % 4 = 2 then .occur .addr
  else .occur .byte

theorem i2c_master_send_two : ∃ n device',
    after i2cTransmitter.runStep turns (masterSend (fun p => BitVec.ofNat 8 p) 7 2 0x50 0,
      ⟨0, .idle, false, none, none, [], [], 0, 0⟩) n = (.pure (), device') ∧
    device'.Sent 0 [0xA0] [7, 8] := by
  have hIdle : I2cTransmitter.At [.idle] 0 [] [] ⟨0, .idle, false, none, none, [], [], 0, 0⟩ :=
    ⟨⟨rfl, rfl, rfl, rfl, fun _ => rfl, fun _ => rfl, rfl⟩, List.mem_cons_self⟩
  refine (i2c_master_send (fun p => BitVec.ofNat 8 p) 7 2 0x50 0 (by decide) _ hIdle turns).2 ?_
  constructor
  · intro e n
    cases e with
    | sb => exact ⟨4 * n + 1, by omega, by simp [turns, Nat.add_mod]⟩
    | addr => exact ⟨4 * n + 2, by omega, by simp [turns, Nat.add_mod]⟩
    | byte => exact ⟨4 * n + 3, by omega, by simp [turns, Nat.add_mod]⟩
  · exact fun n => ⟨4 * n, by omega, 0, by simp [turns]⟩

end KoRTOS.Hal
