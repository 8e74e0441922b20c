import KoRTOS.Hal.CanFilter

/-!
# Filter banks keep their last configuration

After any calls the filter registers say of each bank what its last valid call said, whatever
the calls for other banks did in between, and the initialization mode is left again.
-/

namespace KoRTOS.Hal

open RegisterBits

namespace CanFilterReg

variable {config : CanFilterConfig} {reg : CanFilterReg} {n : Nat}

theorem configure_eq : reg.configure config =
    { fmr := (reg.fmr ||| bit 0) &&& ~~~bit 0
      fm1r := withBit config.bankNum.toNat (decide (config.filterMode ≠ filterModeMask)) reg.fm1r
      fs1r := withBit config.bankNum.toNat (decide (config.filterScale ≠ filterScale16bit)) reg.fs1r
      ffa1r := withBit config.bankNum.toNat (decide (config.fifoAssignment ≠ fifo0)) reg.ffa1r
      fa1r := (reg.fa1r &&& ~~~bit config.bankNum.toNat) ||| bit config.bankNum.toNat
      filterBanks := Function.update reg.filterBanks config.bankNum.toNat
        ⟨config.fr1, config.fr2⟩ } := by
  have hFinit : (reg.fmr ||| bit 0).getLsbD 0 = true := getLsbD_or_bit_self (by decide)
  have hTwice : ∀ (banks : Nat → CanFilterBank) (b : Nat),
      Function.update (Function.update banks b ⟨config.fr1, (banks b).fr2⟩) b
        ⟨config.fr1, config.fr2⟩ = Function.update banks b ⟨config.fr1, config.fr2⟩ :=
    fun banks b => Function.update_idem _ _ _
  unfold configure
  by_cases hMode : config.filterMode = filterModeMask <;>
    by_cases hScale : config.filterScale = filterScale16bit <;>
    by_cases hFifo : config.fifoAssignment = fifo0 <;>
    simp only [writeFm1r, writeFs1r, writeFfa1r, writeBank, finit, canFmrFinitMsk, hFinit, withBit,
      hMode, hScale, hFifo, ↓reduceIte, ne_eq, not_true_eq_false, not_false_eq_true, decide_true,
      decide_false, Bool.true_or, Bool.false_eq_true, Function.update_self, hTwice]

theorem bank_configure_of_ne (hn : n < 32) (hOther : n ≠ config.bankNum.toNat) :
    (reg.configure config).bank n = reg.bank n := by
  rw [configure_eq]
  simp only [bank, getLsbD_withBit_of_ne hn hOther, getLsbD_or_bit_of_ne hn hOther,
    getLsbD_and_not_bit_of_ne hn hOther, Function.update_of_ne hOther]

theorem of_checked {value : U8} (h : ¬ 1 < value) : (if value = 0 then 0 else 1) = value := by
  revert value
  decide

theorem bank_configure_self (hValid : config.invalid = false) :
    (reg.configure config).bank config.bankNum.toNat = some config := by
  simp only [CanFilterConfig.invalid, Bool.or_eq_false_iff, decide_eq_false_iff_not] at hValid
  obtain ⟨⟨⟨hBank, hMode⟩, hScale⟩, hFifo⟩ := hValid
  have hn : config.bankNum.toNat < 32 := by
    have hMax : maxCanFilterBanks = 27 := rfl
    omega
  have hModeIs : (if config.filterMode = filterModeMask then filterModeMask else filterModeList) =
      config.filterMode := of_checked hMode
  have hScaleIs : (if config.filterScale = filterScale16bit then filterScale16bit
      else filterScale32bit) = config.filterScale := of_checked hScale
  have hFifoIs : (if config.fifoAssignment = fifo0 then fifo0 else fifo1) =
      config.fifoAssignment := of_checked hFifo
  rw [configure_eq]
  simp only [bank, getLsbD_withBit_self hn, getLsbD_or_bit_self hn, Function.update_self,
    ↓reduceIte, decide_eq_true_eq, ne_eq, ite_not]
  rw [hModeIs, hScaleIs, hFifoIs, BitVec.ofNat_toNat, BitVec.setWidth_eq]

theorem finit_configure : (reg.configure config).finit = false := by
  rw [configure_eq]
  exact getLsbD_and_not_bit_self (by decide)

end CanFilterReg

open CanFilterReg

def configureAll (calls : List (Option CanFilterConfig)) (reg : CanFilterReg) : CanFilterReg :=
  calls.foldl (fun reg call => (canConfigureFilter call reg).1) reg

def acceptsCall : Option CanFilterConfig → Bool
  | none => false
  | some config => !config.invalid

/-- What the calls have said last of each bank. -/
def filterTable : List (Option CanFilterConfig) → (Nat → Option CanFilterConfig) →
    Nat → Option CanFilterConfig
  | [], table => table
  | none :: calls, table => filterTable calls table
  | some config :: calls, table =>
    filterTable calls
      (if config.invalid then table
      else Function.update table config.bankNum.toNat (some config))

theorem bank_configureAll (calls : List (Option CanFilterConfig)) {reg : CanFilterReg}
    {table : Nat → Option CanFilterConfig} (h : ∀ n ≤ maxCanFilterBanks, reg.bank n = table n)
    (n : Nat) (hn : n ≤ maxCanFilterBanks) :
    (configureAll calls reg).bank n = filterTable calls table n := by
  induction calls generalizing reg table with
  | nil => exact h n hn
  | cons call calls ih =>
    cases call with
    | none => exact ih h
    | some config =>
      apply ih
      intro m hm
      have hm' : m < 32 := Nat.lt_of_le_of_lt hm (by decide)
      simp only [canConfigureFilter]
      cases hValid : config.invalid with
      | true => exact h m hm
      | false =>
        simp only [Bool.false_eq_true, ↓reduceIte]
        by_cases hEq : m = config.bankNum.toNat
        · subst hEq
          rw [bank_configure_self hValid, Function.update_self]
        · rw [bank_configure_of_ne hm' hEq, Function.update_of_ne hEq, h m hm]

theorem canConfigureFilter_refused {call : Option CanFilterConfig} {reg : CanFilterReg}
    (h : acceptsCall call = false) : (canConfigureFilter call reg).1 = reg := by
  cases call with
  | none => rfl
  | some config =>
    rw [acceptsCall, Bool.not_eq_false'] at h
    rw [canConfigureFilter, if_pos h]

theorem canConfigureFilter_accepted {call : Option CanFilterConfig} {reg : CanFilterReg}
    (h : acceptsCall call = true) :
    ∃ config, call = some config ∧ (canConfigureFilter call reg).1 = reg.configure config := by
  cases call with
  | none => cases h
  | some config =>
    rw [acceptsCall, Bool.not_eq_true'] at h
    refine ⟨config, rfl, ?_⟩
    rw [canConfigureFilter, if_neg (by simp [h])]

theorem configureAll_filter (calls : List (Option CanFilterConfig)) (reg : CanFilterReg) :
    configureAll calls reg = configureAll (calls.filter acceptsCall) reg := by
  induction calls generalizing reg with
  | nil => rfl
  | cons call calls ih =>
    cases hCall : acceptsCall call with
    | true =>
      rw [List.filter_cons_of_pos hCall]
      exact ih _
    | false =>
      rw [List.filter_cons_of_neg (by simp [hCall]), configureAll, List.foldl_cons,
        canConfigureFilter_refused hCall]
      exact ih reg

theorem finit_configureAll (calls : List (Option CanFilterConfig)) (reg : CanFilterReg) :
    (configureAll calls reg).finit = true ↔
      reg.finit = true ∧ ∀ call ∈ calls, acceptsCall call = false := by
  induction calls generalizing reg with
  | nil => simp [configureAll]
  | cons call calls ih =>
    have hStep : (canConfigureFilter call reg).1.finit = true ↔
        reg.finit = true ∧ acceptsCall call = false := by
      cases hCall : acceptsCall call with
      | false => simp [canConfigureFilter_refused hCall]
      | true =>
        obtain ⟨config, -, hConfigured⟩ := @canConfigureFilter_accepted call reg hCall
        simp [hConfigured, finit_configure]
    rw [configureAll, List.foldl_cons, List.forall_mem_cons, ← and_assoc, ← hStep]
    exact ih _

theorem fmr_configureAll (calls : List (Option CanFilterConfig)) {reg : CanFilterReg} {i : Nat}
    (hi : i < 32) (hOther : i ≠ 0) :
    (configureAll calls reg).fmr.getLsbD i = reg.fmr.getLsbD i := by
  induction calls generalizing reg with
  | nil => rfl
  | cons call calls ih =>
    refine ih.trans ?_
    dsimp only
    cases hCall : acceptsCall call with
    | false => rw [canConfigureFilter_refused hCall]
    | true =>
      obtain ⟨config, -, hConfigured⟩ := @canConfigureFilter_accepted call reg hCall
      rw [hConfigured, configure_eq]
      exact (getLsbD_and_not_bit_of_ne hi hOther).trans (getLsbD_or_bit_of_ne hi hOther)

end KoRTOS.Hal
