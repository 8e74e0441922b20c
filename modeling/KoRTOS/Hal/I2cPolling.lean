import KoRTOS.Hal.I2cServing

/-!
# Reception by polling

The parts of `I2C_master_receive` in turn. What each of them leaves is what the next one needs,
whatever the peripheral does in between.
-/

namespace KoRTOS.Hal

open RegisterBits Accesses I2cDevice I2cProg

namespace I2cDevice

structure Clocking (len ahead k : Nat) (device : I2cDevice) : Prop where
  serving : device.Serving len ahead
  stage : device.stage = .clocking
  taken : device.taken = k

structure Ready (len ahead k : Nat) (device : I2cDevice) : Prop
    extends Clocking len ahead k device where
  there : device.shows .rxne = true
  refusing : k + 2 = len → device.acking = false

structure Served (len ahead : Nat) (device : I2cDevice) : Prop
    extends Clocking len ahead len device where
  acking : device.acking = true

variable {words : Nat → U32} {len ahead k : Nat} {device next : I2cDevice} {e : I2cChange}

theorem Clocking.changes (h : Changes ahead device next) (hClocking : device.Clocking len ahead k) :
    next.Clocking len ahead k where
  serving := h.serving hClocking.serving
  stage := (h.stage (by rw [hClocking.stage]; decide) (by rw [hClocking.stage]; decide)).trans
    hClocking.stage
  taken := h.taken.trans hClocking.taken

theorem Ready.changes (h : Changes ahead device next) (hReady : device.Ready len ahead k) :
    next.Ready len ahead k where
  toClocking := hReady.toClocking.changes h
  there := h.shows hReady.there
  refusing hLast := h.acking.trans (hReady.refusing hLast)

theorem Served.changes (h : Changes ahead device next) (hServed : device.Served len ahead) :
    next.Served len ahead where
  toClocking := hServed.toClocking.changes h
  acking := h.acking.trans hServed.acking

theorem Clocking.occur_byte (h : device.Clocking len ahead k) (hAhead : 0 < ahead)
    (hLt : k < len) : (device.occur ahead .byte).shows .rxne = true := by
  by_cases hThere : device.shows .rxne = true
  · exact changes_occur.shows hThere
  · have hLe := Nat.not_lt.mp fun hLt => hThere (shows_rxne.mpr hLt)
    have hTaken := h.taken
    have hAll : device.answers.all id = true := by
      refine List.all_eq_true.mpr fun answer hAnswer => ?_
      obtain ⟨i, hi, rfl⟩ := List.getElem_of_mem hAnswer
      have hTrue := h.serving.acked i (by omega) hi
      rw [List.getElem?_eq_getElem hi] at hTrue
      exact Option.some.inj hTrue
    rw [occur, if_pos ⟨h.stage, hAll, by omega⟩, shows_rxne, List.length_append]
    exact Nat.lt_succ_of_le h.serving.taken_le

theorem Clocking.writeCr1 {value : U32} (h : device.Clocking len ahead k)
    (hStart : value.getLsbD i2cCr1Start = false)
    (hKept : k + 2 < len → value.getLsbD i2cCr1Ack = true)
    (hDue : value.getLsbD i2cCr1Ack = false → len ≤ device.answers.length + 1)
    (hBefore : value.getLsbD i2cCr1Ack = true → k < len → k + 2 ≤ len) :
    (device.respond words (.writeCr1 value) 0).2.Clocking len ahead k where
  serving := by
    obtain rfl := h.taken
    refine h.serving.writeCr1 ?_ hKept hDue fun _ => hBefore
    intro hSet
    rw [hStart] at hSet
    cases hSet
  stage := (if_neg (by rw [hStart]; decide)).trans h.stage
  taken := h.taken

theorem Clocking.started (h : device.Clocking len ahead k) :
    device.cr1.getLsbD i2cCr1Start = false :=
  h.serving.started (by rw [h.stage]; decide) (by rw [h.stage]; decide)

theorem Clocking.writeStop (h : device.Clocking len ahead k) :
    (device.respond words (.writeCr1 (device.cr1 ||| bit i2cCr1Stop)) 0).2.Clocking len ahead k := by
  have hAck : (device.cr1 ||| bit i2cCr1Stop).getLsbD i2cCr1Ack = device.acking :=
    getLsbD_or_bit_of_ne (by decide) (by decide)
  obtain rfl := h.taken
  refine h.writeCr1 ?_ ?_ ?_ ?_
  · rw [getLsbD_or_bit_of_ne (by decide) (by decide)]
    exact h.started
  · exact fun hLt => hAck.trans (h.serving.kept hLt)
  · exact fun hNot => h.serving.due (hAck.symm.trans hNot)
  · exact fun hNow => h.serving.before h.stage (hAck.symm.trans hNow)

theorem Clocking.clearAck (h : device.Clocking len ahead k) (hLast : len ≤ k + 2)
    (hThere : device.shows .rxne = true) :
    (device.respond words (.writeCr1 (device.cr1 &&& ~~~bit i2cCr1Ack)) 0).2.Ready len ahead k := by
  have hAck : (device.cr1 &&& ~~~bit i2cCr1Ack).getLsbD i2cCr1Ack = false :=
    getLsbD_and_not_bit_self (by decide)
  have hTaken := h.taken
  have hAnswers := shows_rxne.mp hThere
  have hClocking : (device.respond words (.writeCr1 (device.cr1 &&& ~~~bit i2cCr1Ack)) 0).2.Clocking
      len ahead k := by
    refine h.writeCr1 ?_ ?_ ?_ ?_
    · rw [getLsbD_and_not_bit_of_ne (by decide) (by decide)]
      exact h.started
    · omega
    · omega
    · intro hSet
      rw [hAck] at hSet
      cases hSet
  exact { hClocking with there := hThere, refusing := fun _ => hAck }

theorem Ready.writeStop (h : device.Ready len ahead k) :
    (device.respond words (.writeCr1 (device.cr1 ||| bit i2cCr1Stop)) 0).2.Ready len ahead k := by
  have hAck : (device.cr1 ||| bit i2cCr1Stop).getLsbD i2cCr1Ack = device.acking :=
    getLsbD_or_bit_of_ne (by decide) (by decide)
  exact
    { h.toClocking.writeStop with
      there := h.there
      refusing := fun hLast => hAck.trans (h.refusing hLast) }

theorem Clocking.setAck (h : device.Clocking len ahead len) :
    (device.respond words (.writeCr1 (device.cr1 ||| bit i2cCr1Ack)) 0).2.Served len ahead := by
  have hAck : (device.cr1 ||| bit i2cCr1Ack).getLsbD i2cCr1Ack = true :=
    getLsbD_or_bit_self (by decide)
  have hClocking : (device.respond words (.writeCr1 (device.cr1 ||| bit i2cCr1Ack)) 0).2.Clocking
      len ahead len := by
    refine h.writeCr1 ?_ (fun _ => hAck) ?_ (fun _ hLt => absurd hLt (Nat.lt_irrefl len))
    · rw [getLsbD_or_bit_of_ne (by decide) (by decide)]
      exact h.started
    · intro hClear
      rw [hAck] at hClear
      cases hClear
  exact { hClocking with acking := hAck }

theorem Ready.permitted (h : device.Ready len ahead k) (hLt : k < len) :
    device.Permitted len .readDr := by
  obtain rfl := h.taken
  exact ⟨shows_rxne.mp h.there, hLt, h.refusing⟩

theorem Ready.readDr (h : device.Ready len ahead k) (hLt : k < len) :
    Clocking len ahead (k + 1) { device with taken := device.taken + 1 } := by
  have hServing : (device.respond (fun _ => 0) .readDr 0).2.Serving len ahead :=
    h.serving.readDr (h.permitted hLt)
  rw [respond, if_pos h.there] at hServing
  exact ⟨hServing, h.stage, congrArg (· + 1) h.taken⟩

theorem Clocking.readSr1 (h : device.Clocking len ahead k) :
    Clocking len ahead k { device with sr1Read := true } :=
  ⟨h.serving.of_eq rfl rfl rfl rfl, h.stage, h.taken⟩

theorem Clocking.readSr2 {w : U32} (h : device.Clocking len ahead k) :
    (device.respond words .readSr2 w).2.Clocking len ahead k := by
  have hNot : device.stage ≠ .addr := by
    rw [h.stage]
    decide
  exact ⟨h.serving.readSr2 fun _ hAddr => absurd hAddr hNot,
    (if_neg fun hAddr => hNot hAddr.1).trans h.stage, h.taken⟩

end I2cDevice

namespace I2cProg

variable {words : Nat → U32} {len ahead k : Nat}

theorem stable_clocking : I2cStable ahead (Clocking len ahead k) :=
  fun _ _ h => h.changes changes_occur

theorem stable_ready : I2cStable ahead (Ready len ahead k) := fun _ _ h => h.changes changes_occur

theorem stable_served : I2cStable ahead (Served len ahead) := fun _ _ h => h.changes changes_occur

theorem triple_generateStart : I2cTriple words len ahead
    (fun device => device.Serving len ahead ∧ device.stage = .idle) generateStart
    fun _ device => device.Serving len ahead ∧
      (device.stage = .starting ∨ device.stage = .sb) := by
  refine triple_modifyCr1 (f := fun cr1 => cr1 ||| bit i2cCr1Start) ?_ (fun _ h => h.1) ?_ ?_
    (fun _ h _ => h.2) ?_
  · rintro e device ⟨hServing, hStage⟩
    refine ⟨changes_occur.serving hServing, ?_⟩
    rw [changes_occur.stage (by rw [hStage]; decide) (by rw [hStage]; decide), hStage]
  · rintro e device ⟨hServing, hStage⟩
    exact ⟨changes_occur.serving hServing, changes_occur.starting hStage⟩
  · rintro device ⟨_, hStage⟩
    rw [hStage]
    decide
  · rintro device ⟨hServing, hStage⟩
    exact ⟨hServing.writeStart hStage, .inl (if_pos (getLsbD_or_bit_self (by decide)))⟩

theorem triple_executeAddrPhase {slaveAddr readOrWrite : U8} : I2cTriple words len ahead
    (fun device => device.Serving len ahead ∧ device.shows .sb = true)
    (executeAddrPhase slaveAddr readOrWrite)
    fun _ device => device.Serving len ahead ∧
      (device.stage = .addressing ∨ device.stage = .addr) := by
  refine triple_writeDr ?_ (fun _ h => h.1) ?_ ?_
  · rintro e device ⟨hServing, hShows⟩
    exact ⟨changes_occur.serving hServing, changes_occur.shows hShows⟩
  · rintro e device ⟨hServing, hStage⟩
    exact ⟨changes_occur.serving hServing, changes_occur.addressing hStage⟩
  · rintro device ⟨hServing, hShows⟩
    exact ⟨hServing.writeDr, .inl (if_pos (of_decide_eq_true hShows))⟩

theorem triple_clearAddrFlag : I2cTriple words len ahead
    (fun device => device.Serving len ahead ∧ device.shows .addr = true ∧
      (len = 1 → device.acking = false)) clearAddrFlag fun _ => Clocking len ahead 0 := by
  have hStable : I2cStable ahead fun device => device.Serving len ahead ∧
      device.shows .addr = true ∧ (len = 1 → device.acking = false) := by
    rintro e device ⟨hServing, hShows, hRefusing⟩
    exact ⟨changes_occur.serving hServing, changes_occur.shows hShows,
      fun hOne => changes_occur.acking.trans (hRefusing hOne)⟩
  refine triple_readSr1 hStable (fun _ h => h.1) (C := fun _ device =>
    (device.Serving len ahead ∧ device.shows .addr = true ∧ (len = 1 → device.acking = false)) ∧
      device.sr1Read = true) ?_ fun _ => ?_
  · rintro device w ⟨hServing, hRest⟩
    exact ⟨⟨hServing.of_eq rfl rfl rfl rfl, hRest⟩, rfl⟩
  refine triple_readSr2 ?_ (fun _ h => h.1.1) (C := fun _ => Clocking len ahead 0) ?_ ?_
    fun _ => triple_pure stable_clocking fun _ => id
  · rintro e device ⟨h, hRead⟩
    exact ⟨hStable e device h, changes_occur.sr1Read.trans hRead⟩
  · rintro device ⟨⟨_, _, hRefusing⟩, _⟩ hOne _ _
    exact hRefusing hOne
  · rintro device w ⟨⟨hServing, hShows, hRefusing⟩, hRead⟩
    have hStage : device.stage = .addr := of_decide_eq_true hShows
    refine ⟨hServing.readSr2 fun hOne _ _ => hRefusing hOne, if_pos ⟨hStage, hRead⟩, ?_⟩
    exact (hServing.fresh (by rw [hStage]; decide)).1

theorem triple_awaitByte (hAhead : 0 < ahead) (hLt : k < len) :
    I2cTriple words len ahead (Clocking len ahead k) (awaitFlag i2cSr1Rxne)
      fun _ device => device.Clocking len ahead k ∧ device.shows .rxne = true :=
  triple_awaitFlag (f := .rxne) stable_clocking (fun _ h => h.serving) .byte
    (fun _ h => h.readSr1) fun _ h => h.occur_byte hAhead hLt

theorem triple_disableAcking (hLast : len ≤ k + 2) : I2cTriple words len ahead
    (fun device => device.Clocking len ahead k ∧ device.shows .rxne = true)
    (manageAcking DISABLE) fun _ => Ready len ahead k := by
  refine triple_modifyCr1 (f := fun cr1 => cr1 &&& ~~~bit i2cCr1Ack) ?_ (fun _ h => h.1.serving)
    stable_ready ?_ ?_ ?_
  · exact fun e device h => ⟨h.1.changes changes_occur, changes_occur.shows h.2⟩
  · intro device h
    rw [h.1.stage]
    decide
  · intro device h hSet
    rw [getLsbD_and_not_bit_of_ne (by decide) (by decide), h.1.started] at hSet
    cases hSet
  · exact fun device h => h.1.clearAck hLast h.2

theorem triple_stopUnlessRepeated {A : I2cDevice → Prop} {rsEnable : U8}
    (hStable : I2cStable ahead A) (hClocking : ∀ device, A device → device.Clocking len ahead k)
    (hWrite : ∀ device, A device →
      A (device.respond words (.writeCr1 (device.cr1 ||| bit i2cCr1Stop)) 0).2) :
    I2cTriple words len ahead A (I2cHandle.stopUnlessRepeated rsEnable) fun _ => A := by
  rw [I2cHandle.stopUnlessRepeated]
  split
  · refine triple_modifyCr1 (f := fun cr1 => cr1 ||| bit i2cCr1Stop) hStable
      (fun device h => (hClocking device h).serving) hStable ?_ ?_ hWrite
    · intro device h
      rw [(hClocking device h).stage]
      decide
    · intro device h hSet
      rw [getLsbD_or_bit_of_ne (by decide) (by decide), (hClocking device h).started] at hSet
      cases hSet
  · exact triple_pure hStable fun _ => id

theorem triple_stopReady {rsEnable : U8} : I2cTriple words len ahead (Ready len ahead k)
    (I2cHandle.stopUnlessRepeated rsEnable) fun _ => Ready len ahead k :=
  triple_stopUnlessRepeated stable_ready (fun _ h => h.toClocking) fun _ h => h.writeStop

theorem triple_readByte {α : Type} {next : U32 → I2cProg α} {Q : α → I2cDevice → Prop}
    (hLt : k < len)
    (hNext : I2cTriple words len ahead (Clocking len ahead (k + 1)) (next (words k)) Q) :
    I2cTriple words len ahead (Ready len ahead k) (perform .readDr >>= next) Q := by
  refine triple_readDr stable_ready (fun _ h => h.serving) (fun _ h => h.permitted hLt)
    (C := fun dr device => dr = words k ∧ device.Clocking len ahead (k + 1)) ?_ ?_
  · exact fun device h => ⟨congrArg words h.taken, h.readDr hLt⟩
  · rintro dr device ⟨rfl, h⟩
    exact hNext device h

end I2cProg

namespace I2cHandle

open I2cProg

variable {words : Nat → U32} {len ahead k p : Nat} {handle : I2cHandle}

def received (words : Nat → U32) (p k : Nat) (handle : I2cHandle) : I2cHandle :=
  { handle with
    stores := handle.stores ++ (List.range k).map fun i => (p + i, (words i).setWidth 8) }

theorem received_zero : handle.received words p 0 = handle := by
  simp [received]

theorem store_received : (handle.received words p k).store (p + k) (words k) =
    handle.received words p (k + 1) := by
  simp [received, store, List.range_succ]

def Received (words : Nat → U32) (len ahead p : Nat) (handle next : I2cHandle)
    (device : I2cDevice) : Prop :=
  next = handle.received words p len ∧ device.Served len ahead

theorem triple_refuseLast {rsEnable : U8} (hLast : len ≤ k + 2) : I2cTriple words len ahead
    (fun device => device.Clocking len ahead k ∧ device.shows .rxne = true)
    (refuseLast rsEnable) fun _ => Ready len ahead k :=
  .bind (triple_disableAcking hLast) fun _ => triple_stopReady

theorem triple_receiveBytes {rsEnable : U8} {n : Nat} (hAhead : 0 < ahead) (hLen : k + n = len) :
    I2cTriple words len ahead (Clocking len ahead k)
      (receiveBytes rsEnable n (p + k) (handle.received words p k))
      fun next device => next = handle.received words p len ∧ device.Clocking len ahead len := by
  induction n generalizing k with
  | zero =>
    obtain rfl := hLen
    exact triple_pure (fun e device h => ⟨h.1, stable_clocking e device h.2⟩) fun _ h => ⟨rfl, h⟩
  | succ n ih =>
    have hLt : k < len := by omega
    refine .bind (triple_awaitByte hAhead hLt) fun _ => .bind (Q := fun _ => Ready len ahead k) ?_
      fun _ => triple_readByte hLt ?_
    · split
      · exact triple_refuseLast (by omega)
      · refine triple_pure stable_ready fun device h => ?_
        exact { h.1 with there := h.2, refusing := by omega }
    · rw [store_received, Nat.add_assoc]
      exact ih (by omega)

theorem triple_restoreAcking (hAck : handle.ackControl = i2cAckEnable) :
    I2cTriple words len ahead (Clocking len ahead len) (restoreAcking handle)
      fun _ => Served len ahead := by
  rw [restoreAcking, if_pos hAck]
  refine triple_modifyCr1 (f := fun cr1 => cr1 ||| bit i2cCr1Ack) stable_clocking
    (fun _ h => h.serving) stable_served ?_ ?_ fun _ h => h.setAck
  · intro device h
    rw [h.stage]
    decide
  · intro device h hSet
    rw [getLsbD_or_bit_of_ne (by decide) (by decide), h.started] at hSet
    cases hSet

theorem triple_receiveMany {rsEnable : U8} {len : U32} (hAhead : 0 < ahead) (hMany : len ≠ 1) :
    I2cTriple words len.toNat ahead
      (fun device => device.Serving len.toNat ahead ∧ device.shows .addr = true)
      (receiveMany rsEnable len p handle)
      fun next device => next = handle.received words p len.toNat ∧
        device.Clocking len.toNat ahead len.toNat := by
  have hNot : len.toNat ≠ 1 := fun hOne => hMany (BitVec.eq_of_toNat_eq hOne)
  refine .bind (triple_clearAddrFlag.consequence ?_ fun _ _ => id) fun _ => ?_
  · exact fun device h => ⟨h.1, h.2, fun hOne => absurd hOne hNot⟩
  · have hLoop : I2cTriple words len.toNat ahead (Clocking len.toNat ahead 0)
        (receiveBytes rsEnable len.toNat (p + 0) (handle.received words p 0))
        fun next device => next = handle.received words p len.toNat ∧
          device.Clocking len.toNat ahead len.toNat :=
      triple_receiveBytes hAhead (Nat.zero_add len.toNat)
    rwa [received_zero] at hLoop

theorem triple_receiveOne {rsEnable : U8} (hAhead : 0 < ahead) : I2cTriple words 1 ahead
    (fun device => device.Serving 1 ahead ∧ device.shows .addr = true)
    (receiveOne rsEnable p handle)
    fun next device => next = handle.received words p 1 ∧ device.Clocking 1 ahead 1 := by
  have hStable : I2cStable ahead fun device =>
      device.Serving 1 ahead ∧ device.shows .addr = true ∧ device.acking = false :=
    fun e device h => ⟨changes_occur.serving h.1, changes_occur.shows h.2.1,
      changes_occur.acking.trans h.2.2⟩
  refine .bind (Q := fun _ device => device.Serving 1 ahead ∧ device.shows .addr = true ∧
    device.acking = false) ?_ fun _ => ?_
  · refine triple_modifyCr1 (f := fun cr1 => cr1 &&& ~~~bit i2cCr1Ack) ?_ (fun _ h => h.1) hStable
      ?_ ?_ ?_
    · exact fun e device h => ⟨changes_occur.serving h.1, changes_occur.shows h.2⟩
    · rintro device ⟨_, hShows⟩
      rw [show device.stage = .addr from of_decide_eq_true hShows]
      decide
    · rintro device ⟨hServing, hShows⟩ hSet
      have hStage : device.stage = .addr := of_decide_eq_true hShows
      have hStart := hServing.started (by rw [hStage]; decide) (by rw [hStage]; decide)
      rw [getLsbD_and_not_bit_of_ne (by decide) (by decide), hStart] at hSet
      cases hSet
    · rintro device ⟨hServing, hShows⟩
      have hStage : device.stage = .addr := of_decide_eq_true hShows
      have hStart := hServing.started (by rw [hStage]; decide) (by rw [hStage]; decide)
      have hStop : (device.cr1 &&& ~~~bit i2cCr1Ack).getLsbD i2cCr1Start = false := by
        rw [getLsbD_and_not_bit_of_ne (by decide) (by decide), hStart]
      have hSame : (device.respond words (.writeCr1 (device.cr1 &&& ~~~bit i2cCr1Ack)) 0).2.stage =
          device.stage := if_neg (by rw [hStop]; decide)
      refine ⟨hServing.writeCr1 ?_ (by omega) (by omega) ?_, ?_, ?_⟩
      · intro hSet
        rw [hStop] at hSet
        cases hSet
      · intro hClocking
        cases hStage.symm.trans hClocking
      · exact decide_eq_true (hSame.trans hStage)
      · exact getLsbD_and_not_bit_self (by decide)
  · refine .bind (triple_clearAddrFlag.consequence ?_ fun _ _ => id) fun _ => ?_
    · exact fun device h => ⟨h.1, h.2.1, fun _ => h.2.2⟩
    · refine .bind (triple_awaitByte hAhead Nat.zero_lt_one) fun _ => ?_
      refine .bind ((triple_stopReady (k := 0)).consequence ?_ fun _ _ => id) fun _ => ?_
      · exact fun device h => { h.1 with there := h.2, refusing := nofun }
      · refine triple_readByte Nat.zero_lt_one (triple_pure ?_ fun device h => ⟨?_, h⟩)
        · exact fun e device h => ⟨h.1, stable_clocking e device h.2⟩
        · rw [← store_received, received_zero, Nat.add_zero]

theorem triple_masterReceive {len : U32} {slaveAddr rsEnable : U8} (hAhead : 0 < ahead)
    (hAck : handle.ackControl = i2cAckEnable) : I2cTriple words len.toNat ahead
      (fun device => device.Serving len.toNat ahead ∧ device.stage = .idle)
      (masterReceive handle p len slaveAddr rsEnable)
      (Received words len.toNat ahead p handle) := by
  refine .bind triple_generateStart fun _ => ?_
  refine .bind (triple_awaitFlag (f := .sb) ?_ (fun _ h => h.1) .sb ?_ ?_) fun _ => ?_
  · exact fun e device h => ⟨changes_occur.serving h.1, changes_occur.starting h.2⟩
  · exact fun device h => ⟨h.1.of_eq rfl rfl rfl rfl, h.2⟩
  · rintro device ⟨_, hStage | hStage⟩
    · rw [occur, if_pos hStage]
      rfl
    · exact changes_occur.shows (decide_eq_true hStage)
  refine .bind (triple_executeAddrPhase.consequence ?_ fun _ _ => id) fun _ => ?_
  · exact fun device h => ⟨h.1.1, h.2⟩
  refine .bind (triple_awaitFlag (f := .addr) ?_ (fun _ h => h.1) .addr ?_ ?_) fun _ => ?_
  · exact fun e device h => ⟨changes_occur.serving h.1, changes_occur.addressing h.2⟩
  · exact fun device h => ⟨h.1.of_eq rfl rfl rfl rfl, h.2⟩
  · rintro device ⟨_, hStage | hStage⟩
    · rw [occur, if_pos hStage]
      rfl
    · exact changes_occur.shows (decide_eq_true hStage)
  refine .bind (Q := fun next device => next = handle.received words p len.toNat ∧
    device.Clocking len.toNat ahead len.toNat) ?_ fun next => ?_
  · refine Device.Triple.consequence (A := fun device =>
      device.Serving len.toNat ahead ∧ device.shows .addr = true) ?_ (fun device h => ⟨h.1.1, h.2⟩)
      fun _ _ => id
    split
    · rename_i hOne
      obtain rfl := hOne
      exact triple_receiveOne hAhead
    · rename_i hMany
      exact triple_receiveMany hAhead hMany
  · rintro device ⟨rfl, h⟩
    refine Device.Triple.bind (triple_restoreAcking ?_) (fun _ => ?_) device h
    · exact hAck
    · exact triple_pure (fun e device h => ⟨h.1, stable_served e device h.2⟩) fun device h => ⟨rfl, h⟩

end I2cHandle

end KoRTOS.Hal
