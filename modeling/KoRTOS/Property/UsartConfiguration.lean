import KoRTOS.Hal.UsartInit

/-!
# What USART_init leaves of earlier configurations

The mode and the flow control are only ever set, and the parity selection is left
as it is when parity is disabled: what an earlier call, or whoever used the
peripheral before, set there stays. The codes of 1.5 and 2 stop bits are
exchanged.
-/

namespace KoRTOS.Hal

open RegisterBits

namespace UsartInitConfig

/-- Every field has one of the values of the header. -/
structure Valid (config : UsartInitConfig) : Prop where
  mode : config.mode = usartModeOnlyTx ∨ config.mode = usartModeOnlyRx ∨
    config.mode = usartModeTxrx
  numStopBits : config.numStopBits = usartStopBits1 ∨ config.numStopBits = usartStopBits05 ∨
    config.numStopBits = usartStopBits2 ∨ config.numStopBits = usartStopBits15
  wordLen : config.wordLen = usartWordLen8Bits ∨ config.wordLen = usartWordLen9Bits
  parity : config.parity = usartParityDisable ∨ config.parity = usartParityEnEven ∨
    config.parity = usartParityEnOdd
  hwFlowCtrl : config.hwFlowCtrl = usartHwFlowCtrlNone ∨
    config.hwFlowCtrl = usartHwFlowCtrlCts ∨ config.hwFlowCtrl = usartHwFlowCtrlRts ∨
    config.hwFlowCtrl = usartHwFlowCtrlCtsRts

def transmits (config : UsartInitConfig) : Bool := config.mode != usartModeOnlyRx

def receives (config : UsartInitConfig) : Bool := config.mode != usartModeOnlyTx

def usesCts (config : UsartInitConfig) : Bool :=
  config.hwFlowCtrl == usartHwFlowCtrlCts || config.hwFlowCtrl == usartHwFlowCtrlCtsRts

def usesRts (config : UsartInitConfig) : Bool :=
  config.hwFlowCtrl == usartHwFlowCtrlRts || config.hwFlowCtrl == usartHwFlowCtrlCtsRts

/-- 00 is 1 stop bit, 01 is 0.5, 10 is 2 and 11 is 1.5: the order of the header. -/
def stopField (config : UsartInitConfig) : BitVec 2 := config.numStopBits.setWidth 2

def cr1Fields : List Nat := [usartCr1Re, usartCr1Te, usartCr1Ps, usartCr1Pce, usartCr1M]

/-- The registers encode the configuration, and nothing else was changed in them. -/
structure Encodes (config : UsartInitConfig) (before after : UsartInitReg) : Prop where
  te : after.cr1.getLsbD usartCr1Te = config.transmits
  re : after.cr1.getLsbD usartCr1Re = config.receives
  m : after.cr1.getLsbD usartCr1M = (config.wordLen == usartWordLen9Bits)
  pce : after.cr1.getLsbD usartCr1Pce = (config.parity != usartParityDisable)
  ps : after.cr1.getLsbD usartCr1Ps = (config.parity == usartParityEnOdd)
  stop : after.cr2.extractLsb' usartCr2Stop 2 = config.stopField
  ctse : after.cr3.getLsbD usartCr3Ctse = config.usesCts
  rtse : after.cr3.getLsbD usartCr3Rtse = config.usesRts
  cr1 : ∀ i < 32, i ∉ cr1Fields → after.cr1.getLsbD i = before.cr1.getLsbD i
  cr2 : ∀ i < 32, i < usartCr2Stop ∨ usartCr2Stop + 2 ≤ i →
    after.cr2.getLsbD i = before.cr2.getLsbD i
  cr3 : ∀ i < 32, i ≠ usartCr3Ctse → i ≠ usartCr3Rtse →
    after.cr3.getLsbD i = before.cr3.getLsbD i

/-- Nothing is set that the configuration does not ask for and the call does not clear, and the
number of stop bits is none of those that are exchanged. -/
structure NothingStale (config : UsartInitConfig) (before : UsartInitReg) : Prop where
  te : before.cr1.getLsbD usartCr1Te = true → config.transmits = true
  re : before.cr1.getLsbD usartCr1Re = true → config.receives = true
  ps : before.cr1.getLsbD usartCr1Ps = true → config.parity ≠ usartParityDisable
  stop : config.numStopBits = usartStopBits1 ∨ config.numStopBits = usartStopBits05
  ctse : before.cr3.getLsbD usartCr3Ctse = true → config.usesCts = true
  rtse : before.cr3.getLsbD usartCr3Rtse = true → config.usesRts = true

variable {config : UsartInitConfig} {x : U32} {j : Nat}

theorem getLsbD_setMode (h : config.Valid) (hj : j < 32) : (config.setMode x).getLsbD j =
    (x.getLsbD j || (decide (j = usartCr1Re) && config.receives ||
      decide (j = usartCr1Te) && config.transmits)) := by
  unfold setMode transmits receives
  obtain hMode | hMode | hMode := h.mode
  · rw [hMode, if_neg (by decide), if_pos rfl, getLsbD_or_bit hj]
    simp [usartModeOnlyTx, usartModeOnlyRx]
  · rw [hMode, if_pos rfl, getLsbD_or_bit hj]
    simp [usartModeOnlyTx, usartModeOnlyRx]
  · rw [hMode, if_neg (by decide), if_neg (by decide), if_pos rfl, ← BitVec.or_assoc,
      getLsbD_or_bit hj, getLsbD_or_bit hj]
    simp [usartModeOnlyTx, usartModeOnlyRx, usartModeTxrx, Bool.or_assoc]

theorem getLsbD_setWordLen (h : config.Valid) (hj : j < 32) : (config.setWordLen x).getLsbD j =
    if j = usartCr1M then config.wordLen == usartWordLen9Bits else x.getLsbD j := by
  unfold setWordLen
  obtain hLen | hLen := h.wordLen
  · rw [hLen, if_pos rfl, getLsbD_and_not_bit hj]
    split_ifs with hEq <;> simp [hEq, usartWordLen8Bits, usartWordLen9Bits]
  · rw [hLen, if_neg (by decide), if_pos rfl, getLsbD_or_bit hj]
    split_ifs with hEq <;> simp [hEq]

theorem getLsbD_setParity (h : config.Valid) (hj : j < 32) : (config.setParity x).getLsbD j =
    if j = usartCr1Pce then config.parity != usartParityDisable
    else if j = usartCr1Ps then
      if config.parity = usartParityDisable then x.getLsbD j
      else config.parity == usartParityEnOdd
    else x.getLsbD j := by
  unfold setParity
  obtain hParity | hParity | hParity := h.parity
  · rw [hParity, if_pos rfl, if_pos rfl, ite_self, getLsbD_and_not_bit hj]
    split_ifs with hPce <;> simp [hPce]
  · rw [hParity, if_neg (by decide), if_pos rfl, getLsbD_and_not_bit hj, getLsbD_or_bit hj]
    split_ifs with hPce hPs <;>
      simp_all [usartParityDisable, usartParityEnEven, usartParityEnOdd, usartCr1Pce, usartCr1Ps]
  · rw [hParity, if_neg (by decide), if_neg (by decide), if_pos rfl, getLsbD_or_bit hj,
      getLsbD_or_bit hj]
    split_ifs with hPce hPs <;> simp_all [usartParityDisable, usartParityEnOdd]

theorem getLsbD_configureCr3 (h : config.Valid) (hj : j < 32) : (config.configureCr3 x).getLsbD j =
    (x.getLsbD j || (decide (j = usartCr3Rtse) && config.usesRts ||
      decide (j = usartCr3Ctse) && config.usesCts)) := by
  unfold configureCr3 usesRts usesCts
  obtain hFlow | hFlow | hFlow | hFlow := h.hwFlowCtrl
  · rw [hFlow, if_neg (by decide), if_neg (by decide), if_neg (by decide)]
    simp [usartHwFlowCtrlNone, usartHwFlowCtrlCts, usartHwFlowCtrlRts, usartHwFlowCtrlCtsRts]
  · rw [hFlow, if_pos rfl, getLsbD_or_bit hj]
    simp [usartHwFlowCtrlCts, usartHwFlowCtrlRts, usartHwFlowCtrlCtsRts]
  · rw [hFlow, if_neg (by decide), if_pos rfl, getLsbD_or_bit hj]
    simp [usartHwFlowCtrlCts, usartHwFlowCtrlRts, usartHwFlowCtrlCtsRts]
  · rw [hFlow, if_neg (by decide), if_neg (by decide), if_pos rfl, ← BitVec.or_assoc,
      getLsbD_or_bit hj, getLsbD_or_bit hj]
    simp [usartHwFlowCtrlCts, usartHwFlowCtrlRts, usartHwFlowCtrlCtsRts, Bool.or_assoc]

def stopCode (config : UsartInitConfig) : U32 :=
  if config.numStopBits = usartStopBits1 then 0#32
  else if config.numStopBits = usartStopBits05 then 1#32
  else if config.numStopBits = usartStopBits15 then 2#32
  else 3#32

theorem stopCode_lt : config.stopCode.toNat < 2 ^ 2 := by
  unfold stopCode
  split_ifs <;> decide

theorem configureCr2_eq (h : config.Valid) :
    config.configureCr2 x = replace 0x3#32 usartCr2Stop config.stopCode x := by
  unfold configureCr2 stopCode replace
  obtain hStop | hStop | hStop | hStop := h.numStopBits
  · have hClear : ~~~(0x3#32 <<< usartCr2Stop) &&& ~~~bit usartCr2Stop =
        ~~~(0x3#32 <<< usartCr2Stop) := by decide
    have hZero : 0#32 <<< usartCr2Stop = 0#32 := by decide
    rw [hStop, if_pos rfl, if_pos rfl, BitVec.and_assoc, hClear, hZero, BitVec.or_zero]
  · rw [hStop, if_neg (by decide), if_pos rfl, if_neg (by decide), if_pos rfl]
  · rw [hStop, if_neg (by decide), if_neg (by decide), if_neg (by decide), if_pos rfl,
      if_neg (by decide), if_neg (by decide), if_neg (by decide)]
  · rw [hStop, if_neg (by decide), if_neg (by decide), if_pos rfl, if_neg (by decide),
      if_neg (by decide), if_pos rfl]

theorem stopCode_eq_iff (h : config.Valid) : config.stopCode.setWidth 2 = config.stopField ↔
    config.numStopBits = usartStopBits1 ∨ config.numStopBits = usartStopBits05 := by
  unfold stopCode stopField
  obtain hStop | hStop | hStop | hStop := h.numStopBits <;> rw [hStop] <;> decide

theorem extract_configureCr2 (h : config.Valid) :
    (config.configureCr2 x).extractLsb' usartCr2Stop 2 = config.stopCode.setWidth 2 := by
  rw [configureCr2_eq h]
  exact extract_replace rfl (by decide)

theorem getLsbD_configureCr2 (h : config.Valid) (hj : j < 32)
    (hOther : j < usartCr2Stop ∨ usartCr2Stop + 2 ≤ j) :
    (config.configureCr2 x).getLsbD j = x.getLsbD j := by
  rw [configureCr2_eq h]
  exact getLsbD_replace_of_outside rfl stopCode_lt hj hOther

theorem getLsbD_configureCr1 (h : config.Valid) (hj : j < 32) :
    (config.configureCr1 x).getLsbD j =
      if j = usartCr1Pce then config.parity != usartParityDisable
      else if j = usartCr1Ps then
        if config.parity = usartParityDisable then x.getLsbD usartCr1Ps
        else config.parity == usartParityEnOdd
      else if j = usartCr1M then config.wordLen == usartWordLen9Bits
      else x.getLsbD j || (decide (j = usartCr1Re) && config.receives ||
        decide (j = usartCr1Te) && config.transmits) := by
  have hPs : usartCr1Ps ≠ usartCr1M := by decide
  have hRe : usartCr1Ps ≠ usartCr1Re := by decide
  have hTe : usartCr1Ps ≠ usartCr1Te := by decide
  rw [configureCr1, getLsbD_setParity h hj, getLsbD_setWordLen h hj, getLsbD_setMode h hj]
  split_ifs with hPce hIsPs hDisable hM hM
  · rfl
  · exact absurd (hIsPs.symm.trans hM) hPs
  · subst hIsPs
    simp [hRe, hTe]
  · rfl
  · rfl
  · rfl

theorem te_configureCr1 (h : config.Valid) :
    (config.configureCr1 x).getLsbD usartCr1Te = (x.getLsbD usartCr1Te || config.transmits) := by
  rw [getLsbD_configureCr1 h (by decide), if_neg (by decide), if_neg (by decide),
    if_neg (by decide), decide_eq_false (by decide), decide_eq_true rfl, Bool.false_and,
    Bool.false_or, Bool.true_and]

theorem re_configureCr1 (h : config.Valid) :
    (config.configureCr1 x).getLsbD usartCr1Re = (x.getLsbD usartCr1Re || config.receives) := by
  rw [getLsbD_configureCr1 h (by decide), if_neg (by decide), if_neg (by decide),
    if_neg (by decide), decide_eq_true rfl, decide_eq_false (by decide), Bool.true_and,
    Bool.false_and, Bool.or_false]

theorem ps_configureCr1 (h : config.Valid) : (config.configureCr1 x).getLsbD usartCr1Ps =
    if config.parity = usartParityDisable then x.getLsbD usartCr1Ps
    else config.parity == usartParityEnOdd := by
  rw [getLsbD_configureCr1 h (by decide), if_neg (by decide), if_pos rfl]

theorem ctse_configureCr3 (h : config.Valid) :
    (config.configureCr3 x).getLsbD usartCr3Ctse = (x.getLsbD usartCr3Ctse || config.usesCts) := by
  rw [getLsbD_configureCr3 h (by decide), decide_eq_false (by decide), decide_eq_true rfl,
    Bool.false_and, Bool.false_or, Bool.true_and]

theorem rtse_configureCr3 (h : config.Valid) :
    (config.configureCr3 x).getLsbD usartCr3Rtse = (x.getLsbD usartCr3Rtse || config.usesRts) := by
  rw [getLsbD_configureCr3 h (by decide), decide_eq_true rfl, decide_eq_false (by decide),
    Bool.true_and, Bool.false_and, Bool.or_false]

theorem or_eq_iff {old wanted : Bool} :
    (old || wanted) = wanted ↔ (old = true → wanted = true) := by
  cases old <;> cases wanted <;> decide

theorem encodes_iff (usartx : UsartPeripheral) (reg : UsartInitReg) (h : config.Valid) :
    config.Encodes reg (usartInit usartx config reg) ↔ config.NothingStale reg := by
  constructor
  · intro hEncodes
    constructor
    · exact or_eq_iff.mp ((te_configureCr1 h).symm.trans hEncodes.te)
    · exact or_eq_iff.mp ((re_configureCr1 h).symm.trans hEncodes.re)
    · intro hSet hDisable
      have hPs := (ps_configureCr1 h).symm.trans hEncodes.ps
      rw [if_pos hDisable, hSet, hDisable] at hPs
      exact absurd hPs (by decide)
    · exact (stopCode_eq_iff h).mp ((extract_configureCr2 h).symm.trans hEncodes.stop)
    · exact or_eq_iff.mp ((ctse_configureCr3 h).symm.trans hEncodes.ctse)
    · exact or_eq_iff.mp ((rtse_configureCr3 h).symm.trans hEncodes.rtse)
  · intro hStale
    constructor
    · exact (te_configureCr1 h).trans (or_eq_iff.mpr hStale.te)
    · exact (re_configureCr1 h).trans (or_eq_iff.mpr hStale.re)
    · exact (getLsbD_configureCr1 h (by decide)).trans
        (by rw [if_neg (by decide), if_neg (by decide), if_pos rfl])
    · exact (getLsbD_configureCr1 h (by decide)).trans (if_pos rfl)
    · refine (ps_configureCr1 h).trans ?_
      split_ifs with hDisable
      · rw [Bool.eq_false_iff.mpr fun hSet => hStale.ps hSet hDisable, hDisable]
        rfl
      · rfl
    · exact (extract_configureCr2 h).trans ((stopCode_eq_iff h).mpr hStale.stop)
    · exact (ctse_configureCr3 h).trans (or_eq_iff.mpr hStale.ctse)
    · exact (rtse_configureCr3 h).trans (or_eq_iff.mpr hStale.rtse)
    · intro i hi hOther
      simp only [cr1Fields, List.mem_cons, List.not_mem_nil, not_or] at hOther
      obtain ⟨hRe, hTe, hPs, hPce, hM, _⟩ := hOther
      refine (getLsbD_configureCr1 h hi).trans ?_
      rw [if_neg hPce, if_neg hPs, if_neg hM, decide_eq_false hRe, decide_eq_false hTe,
        Bool.false_and, Bool.false_and, Bool.or_false, Bool.or_false]
    · intro i hi hOther
      exact getLsbD_configureCr2 h hi hOther
    · intro i hi hCtse hRtse
      refine (getLsbD_configureCr3 h hi).trans ?_
      rw [decide_eq_false hCtse, decide_eq_false hRtse, Bool.false_and, Bool.false_and,
        Bool.or_false, Bool.or_false]

end UsartInitConfig

def usartInits (usartx : UsartPeripheral) (reg : UsartInitReg) (configs : List UsartInitConfig) :
    UsartInitReg :=
  configs.foldl (fun reg config => usartInit usartx config reg) reg

/-- After each call the last configuration is in effect just if no call finds anything stale. -/
theorem last_configuration_iff (usartx : UsartPeripheral) (reg : UsartInitReg)
    (configs : List UsartInitConfig) (hValid : ∀ config ∈ configs, config.Valid) :
    (∀ before config after, configs = before ++ config :: after →
      config.Encodes (usartInits usartx reg before)
        (usartInits usartx reg (before ++ [config]))) ↔
    ∀ before config after, configs = before ++ config :: after →
      config.NothingStale (usartInits usartx reg before) := by
  refine forall₃_congr fun before config after => forall_congr' fun hEq => ?_
  have hMem : config ∈ configs := by
    rw [hEq]
    exact List.mem_append_right _ List.mem_cons_self
  have hLast : usartInits usartx reg (before ++ [config]) =
      usartInit usartx config (usartInits usartx reg before) := by
    rw [usartInits, List.foldl_append]
    rfl
  rw [hLast]
  exact UsartInitConfig.encodes_iff usartx _ (hValid config hMem)

theorem UsartInitConfig.plain_two_valid : (plain 115200 usartStopBits2).Valid :=
  ⟨by decide, by decide, by decide, by decide, by decide⟩

/-- The driver was in use before: 8 bits and even parity with CTS, at 9600 baud. -/
def UsartInitReg.inUse : UsartInitReg :=
  ⟨bit usartCr1Te ||| bit usartCr1Re ||| bit usartCr1Pce, 2#32 <<< usartCr2Stop, bit usartCr3Ctse,
    0x683#32, 0x1400#32⟩

def UsartInitConfig.odd : UsartInitConfig :=
  ⟨usartModeTxrx, 115200, usartStopBits05, usartWordLen9Bits, usartParityEnOdd, usartHwFlowCtrlCts⟩

def UsartInitConfig.even : UsartInitConfig :=
  ⟨usartModeTxrx, 9600, usartStopBits1, usartWordLen8Bits, usartParityEnEven,
    usartHwFlowCtrlCtsRts⟩

theorem last_configuration_reconfigured :
    UsartInitConfig.odd.Encodes .inUse (usartInits .usart2 .inUse [.odd]) ∧
      UsartInitConfig.even.Encodes (usartInits .usart2 .inUse [.odd])
        (usartInits .usart2 .inUse [.odd, .even]) := by
  have hEncodes := (last_configuration_iff .usart2 .inUse [.odd, .even] (by
    intro config hMem
    obtain rfl | hMem := List.mem_cons.mp hMem
    · exact ⟨by decide, by decide, by decide, by decide, by decide⟩
    · rw [List.mem_singleton.mp hMem]
      exact ⟨by decide, by decide, by decide, by decide, by decide⟩)).mpr (by
    rintro (_ | ⟨first, _ | ⟨second, before⟩⟩) config after hEq
    · cases hEq
      exact ⟨by decide, by decide, by decide, by decide, by decide, by decide⟩
    · cases hEq
      exact ⟨by decide, by decide, by decide, by decide, by decide, by decide⟩
    · simp at hEq)
  exact ⟨hEncodes [] _ _ rfl, hEncodes [.odd] _ [] rfl⟩

/-- Two stop bits are asked for, and the code of 1.5 is written. -/
theorem last_configuration_not_encoded : ¬ ∀ (usartx : UsartPeripheral) (reg : UsartInitReg)
    (configs : List UsartInitConfig), (∀ config ∈ configs, config.Valid) →
    ∀ before config after, configs = before ++ config :: after →
      config.Encodes (usartInits usartx reg before)
        (usartInits usartx reg (before ++ [config])) := by
  intro h
  have hEncodes := h .usart2 .reset [.plain 115200 usartStopBits2] (by
    intro config hMem
    rw [List.mem_singleton.mp hMem]
    exact UsartInitConfig.plain_two_valid) [] (.plain 115200 usartStopBits2) [] rfl
  have hStop := hEncodes.stop
  revert hStop
  decide

end KoRTOS.Hal
