import KoRTOS.Hal.Gpio

/-!
# GPIO_init and the fields of its pin

The registers are tables of fields, one for each pin of a port and one for each
EXTI line. A call changes those of its pin. All are cleared before they are set
except that of `EXTICR`, which keeps the port that it held as well.
-/

namespace KoRTOS.Hal

open RegisterBits

/-- The fields of a pin. -/
structure PinFields where
  moder : BitVec 2
  otyper : BitVec 1
  ospeedr : BitVec 2
  pupdr : BitVec 2
  afr : BitVec 4
  deriving DecidableEq, Repr

/-- The fields of an EXTI line. The pins of one number share it. -/
structure LineFields where
  rtsr : Bool
  ftsr : Bool
  imr : Bool
  port : BitVec 4
  deriving DecidableEq, Repr

def GpioReg.pin (reg : GpioReg) (n : Nat) : PinFields where
  moder := reg.moder.extractLsb' (2 * n) 2
  otyper := reg.otyper.extractLsb' (1 * n) 1
  ospeedr := reg.ospeedr.extractLsb' (2 * n) 2
  pupdr := reg.pupdr.extractLsb' (2 * n) 2
  afr := (reg.afr (n / 8)).extractLsb' (4 * (n % 8)) 4

namespace Gpio

def pin (gpio : Gpio) (gpiox : GpioPort) (n : Nat) : PinFields := (gpio.ports gpiox).pin n

def line (gpio : Gpio) (n : Nat) : LineFields where
  rtsr := gpio.rtsr.getLsbD n
  ftsr := gpio.ftsr.getLsbD n
  imr := gpio.imr.getLsbD n
  port := (gpio.exticr (n / 4)).extractLsb' (4 * (n % 4)) 4

end Gpio

namespace GpioPinConfig

/-- The pin exists, and the mode is one of the header's. -/
structure Valid (config : GpioPinConfig) : Prop where
  pinNum : config.pinNum.toNat < 16
  mode : config.mode ≤ gpioModeItRft

def interrupts (config : GpioPinConfig) : Prop := ¬ config.mode ≤ gpioModeAnalog

def drives (config : GpioPinConfig) : Prop :=
  config.mode = gpioModeOut ∨ config.mode = gpioModeAltfunc

instance (config : GpioPinConfig) : Decidable config.interrupts :=
  inferInstanceAs (Decidable (¬ _))

instance (config : GpioPinConfig) : Decidable config.drives :=
  inferInstanceAs (Decidable (_ ∨ _))

def newPin (config : GpioPinConfig) (old : PinFields) : PinFields where
  moder := if config.mode ≤ gpioModeAnalog then config.mode.setWidth 2 else 0
  otyper := if config.drives then config.outType.setWidth 1 else old.otyper
  ospeedr := if config.drives then config.speed.setWidth 2 else old.ospeedr
  pupdr := config.pupd.setWidth 2
  afr := if config.mode = gpioModeAltfunc then config.altFcnMode.setWidth 4 else old.afr

def newLine (config : GpioPinConfig) (gpiox : GpioPort) (old : LineFields) : LineFields where
  rtsr := config.mode != gpioModeItFt
  ftsr := config.mode != gpioModeItRt
  imr := true
  port := old.port ||| gpiox.code.setWidth 4

end GpioPinConfig

/-- The fields of the pin hold what is asked for, and those of the others what they held. -/
structure Programs (handle : GpioHandle) (before after : Gpio) : Prop where
  moder : (after.pin handle.gpiox handle.config.pinNum.toNat).moder.toNat =
    if handle.config.mode ≤ gpioModeAnalog then handle.config.mode.toNat else gpioModeIn.toNat
  pupdr : (after.pin handle.gpiox handle.config.pinNum.toNat).pupdr.toNat =
    handle.config.pupd.toNat
  output : handle.config.drives →
    (after.pin handle.gpiox handle.config.pinNum.toNat).otyper.toNat =
        handle.config.outType.toNat ∧
      (after.pin handle.gpiox handle.config.pinNum.toNat).ospeedr.toNat =
        handle.config.speed.toNat
  afr : handle.config.mode = gpioModeAltfunc →
    (after.pin handle.gpiox handle.config.pinNum.toNat).afr.toNat =
      handle.config.altFcnMode.toNat
  line : handle.config.interrupts → after.line handle.config.pinNum.toNat =
    { rtsr := handle.config.mode != gpioModeItFt
      ftsr := handle.config.mode != gpioModeItRt
      imr := true
      port := handle.gpiox.code.setWidth 4 }
  otherPins : ∀ gpiox, ∀ n < 16, (gpiox, n) ≠ (handle.gpiox, handle.config.pinNum.toNat) →
    after.pin gpiox n = before.pin gpiox n
  otherLines : ∀ n < 16, n ≠ handle.config.pinNum.toNat → after.line n = before.line n

/-- What is asked for fits in its fields, and `EXTICR` holds no bit that is not in the code of
the port. -/
structure Fits (handle : GpioHandle) (before : Gpio) : Prop where
  pupd : handle.config.pupd.toNat < 4
  output : handle.config.drives →
    handle.config.outType.toNat < 2 ∧ handle.config.speed.toNat < 4
  altFcnMode : handle.config.mode = gpioModeAltfunc → handle.config.altFcnMode.toNat < 16
  port : handle.config.interrupts →
    (before.line handle.config.pinNum.toNat).port ||| handle.gpiox.code.setWidth 4 =
      handle.gpiox.code.setWidth 4

theorem toNat_setWidth_lt {v : U8} {k : Nat} (h : v.toNat < k) : (v.setWidth 32).toNat < k := by
  rw [BitVec.toNat_setWidth]
  exact (Nat.mod_le _ _).trans_lt h

theorem setWidth_toNat_eq_iff {v : U8} {k : Nat} :
    (v.setWidth k).toNat = v.toNat ↔ v.toNat < 2 ^ k := by
  rw [BitVec.toNat_setWidth]
  exact Nat.mod_eq_iff_lt (Nat.two_pow_pos k).ne'

namespace GpioPinConfig

def configure (config : GpioPinConfig) (reg : GpioReg) : GpioReg :=
  config.setAltFcn (config.setPupd (config.setOutput (config.setMode reg)))

variable {config : GpioPinConfig} {reg : GpioReg} {n : Nat}

theorem configure_eq : config.configure reg =
    { moder := (config.setMode reg).moder
      otyper := (config.setOutput reg).otyper
      ospeedr := (config.setOutput reg).ospeedr
      pupdr := (config.setPupd reg).pupdr
      afr := (config.setAltFcn reg).afr } := by
  unfold configure setAltFcn setPupd setOutput setMode
  dsimp only
  split_ifs <;> rfl

theorem moder_self (h : config.Valid) :
    (config.setMode reg).moder.extractLsb' (2 * config.pinNum.toNat) 2 =
      if config.mode ≤ gpioModeAnalog then config.mode.setWidth 2 else 0 := by
  have hPin := h.pinNum
  unfold setMode
  dsimp only
  split_ifs
  · rw [extract_replace rfl (by omega)]
    exact BitVec.setWidth_setWidth_of_le _ (by decide)
  · rw [and_not_eq_replace, extract_replace rfl (by omega)]
    rfl

theorem moder_of_ne (hn : n < 16) (hne : n ≠ config.pinNum.toNat) :
    (config.setMode reg).moder.extractLsb' (2 * n) 2 = reg.moder.extractLsb' (2 * n) 2 := by
  unfold setMode
  dsimp only
  split_ifs with hMode
  · have hFits : config.mode.toNat < 2 ^ 2 := Nat.lt_succ_of_le hMode
    exact extract_replace_of_ne rfl (toNat_setWidth_lt hFits) (by omega) hne.symm
  · rw [and_not_eq_replace]
    exact extract_replace_of_ne rfl (by decide) (by omega) hne.symm

theorem setOutput_eq : config.setOutput reg =
    if config.drives then
      { reg with
        otyper := replace 0b1#32 (1 * config.pinNum.toNat) (config.outType.setWidth 32) reg.otyper
        ospeedr := replace 0b11#32 (2 * config.pinNum.toNat) (config.speed.setWidth 32)
          reg.ospeedr }
    else reg := by
  rw [Nat.one_mul]
  rfl

theorem otyper_self (h : config.Valid) :
    (config.setOutput reg).otyper.extractLsb' (1 * config.pinNum.toNat) 1 =
      if config.drives then config.outType.setWidth 1
      else reg.otyper.extractLsb' (1 * config.pinNum.toNat) 1 := by
  have hPin := h.pinNum
  rw [setOutput_eq]
  split_ifs
  · exact (extract_replace rfl (by omega)).trans (BitVec.setWidth_setWidth_of_le _ (by decide))
  · rfl

theorem ospeedr_self (h : config.Valid) :
    (config.setOutput reg).ospeedr.extractLsb' (2 * config.pinNum.toNat) 2 =
      if config.drives then config.speed.setWidth 2
      else reg.ospeedr.extractLsb' (2 * config.pinNum.toNat) 2 := by
  have hPin := h.pinNum
  rw [setOutput_eq]
  split_ifs
  · exact (extract_replace rfl (by omega)).trans (BitVec.setWidth_setWidth_of_le _ (by decide))
  · rfl

theorem output_of_ne (reg : GpioReg)
    (hFits : config.drives → config.outType.toNat < 2 ∧ config.speed.toNat < 4)
    (hn : n < 16) (hne : n ≠ config.pinNum.toNat) :
    (config.setOutput reg).otyper.extractLsb' (1 * n) 1 = reg.otyper.extractLsb' (1 * n) 1 ∧
      (config.setOutput reg).ospeedr.extractLsb' (2 * n) 2 =
        reg.ospeedr.extractLsb' (2 * n) 2 := by
  rw [setOutput_eq]
  split_ifs with hDrives
  · obtain ⟨hType, hSpeed⟩ := hFits hDrives
    constructor
    · exact extract_replace_of_ne rfl (toNat_setWidth_lt hType) (by omega) hne.symm
    · exact extract_replace_of_ne rfl (toNat_setWidth_lt hSpeed) (by omega) hne.symm
  · exact ⟨rfl, rfl⟩

theorem pupdr_self (h : config.Valid) :
    (config.setPupd reg).pupdr.extractLsb' (2 * config.pinNum.toNat) 2 =
      config.pupd.setWidth 2 := by
  have hPin := h.pinNum
  exact (extract_replace rfl (by omega)).trans (BitVec.setWidth_setWidth_of_le _ (by decide))

theorem pupdr_of_ne (hFits : config.pupd.toNat < 4) (hn : n < 16)
    (hne : n ≠ config.pinNum.toNat) :
    (config.setPupd reg).pupdr.extractLsb' (2 * n) 2 = reg.pupdr.extractLsb' (2 * n) 2 :=
  extract_replace_of_ne rfl (toNat_setWidth_lt hFits) (by omega) hne.symm

theorem afr_self : ((config.setAltFcn reg).afr (config.pinNum.toNat / 8)).extractLsb'
      (4 * (config.pinNum.toNat % 8)) 4 =
    if config.mode = gpioModeAltfunc then config.altFcnMode.setWidth 4
    else (reg.afr (config.pinNum.toNat / 8)).extractLsb' (4 * (config.pinNum.toNat % 8)) 4 := by
  unfold setAltFcn
  dsimp only
  split_ifs
  · dsimp only
    rw [Function.update_self, extract_replace rfl (by omega)]
    exact BitVec.setWidth_setWidth_of_le _ (by decide)
  · rfl

theorem afr_of_ne (hFits : config.mode = gpioModeAltfunc → config.altFcnMode.toNat < 16)
    (hne : n ≠ config.pinNum.toNat) :
    ((config.setAltFcn reg).afr (n / 8)).extractLsb' (4 * (n % 8)) 4 =
      (reg.afr (n / 8)).extractLsb' (4 * (n % 8)) 4 := by
  unfold setAltFcn
  dsimp only
  split_ifs with hAlt
  · dsimp only
    rw [Function.update_apply]
    split_ifs with hSame
    · have hPlace : config.pinNum.toNat % 8 ≠ n % 8 := by omega
      rw [extract_replace_of_ne rfl (toNat_setWidth_lt (hFits hAlt)) (by omega) hPlace, hSame]
    · rfl
  · rfl

theorem pin_configure_self (reg : GpioReg) (h : config.Valid) :
    (config.configure reg).pin config.pinNum.toNat =
      config.newPin (reg.pin config.pinNum.toNat) := by
  rw [configure_eq, GpioReg.pin, moder_self h, otyper_self h, ospeedr_self h, pupdr_self h,
    afr_self]
  rfl

theorem pin_configure_of_ne {handle : GpioHandle} {before : Gpio} (hFits : Fits handle before)
    (hn : n < 16) (hne : n ≠ handle.config.pinNum.toNat) :
    (handle.config.configure reg).pin n = reg.pin n := by
  obtain ⟨hOtyper, hOspeedr⟩ := output_of_ne reg hFits.output hn hne
  rw [configure_eq, GpioReg.pin, moder_of_ne hn hne, hOtyper, hOspeedr,
    pupdr_of_ne hFits.pupd hn hne, afr_of_ne hFits.altFcnMode hne]
  rfl

variable {gpio : Gpio} {gpiox : GpioPort}

theorem interrupts_cases (h : config.Valid) (hInterrupts : config.interrupts) :
    config.mode = gpioModeItFt ∨ config.mode = gpioModeItRt ∨ config.mode = gpioModeItRft := by
  have hMax := h.mode
  unfold interrupts at hInterrupts
  simp only [gpioModeAnalog, gpioModeItFt, gpioModeItRt, gpioModeItRft] at *
  bv_omega

theorem line_setTrigger_self (gpio : Gpio) (h : config.Valid) (hInterrupts : config.interrupts) :
    (config.setTrigger gpio).rtsr.getLsbD config.pinNum.toNat = (config.mode != gpioModeItFt) ∧
      (config.setTrigger gpio).ftsr.getLsbD config.pinNum.toNat =
        (config.mode != gpioModeItRt) := by
  have hPin : config.pinNum.toNat < 32 := h.pinNum.trans (by decide)
  unfold setTrigger
  obtain hMode | hMode | hMode := interrupts_cases h hInterrupts
  · rw [hMode, if_pos rfl]
    exact ⟨getLsbD_and_not_bit_self hPin, getLsbD_or_bit_self hPin⟩
  · rw [hMode, if_neg (by decide), if_pos rfl]
    exact ⟨getLsbD_or_bit_self hPin, getLsbD_and_not_bit_self hPin⟩
  · rw [hMode, if_neg (by decide), if_neg (by decide), if_pos rfl]
    exact ⟨getLsbD_or_bit_self hPin, getLsbD_or_bit_self hPin⟩

theorem line_setTrigger_of_ne (gpio : Gpio) (hn : n < 16) (hne : n ≠ config.pinNum.toNat) :
    (config.setTrigger gpio).rtsr.getLsbD n = gpio.rtsr.getLsbD n ∧
      (config.setTrigger gpio).ftsr.getLsbD n = gpio.ftsr.getLsbD n := by
  have hn : n < 32 := hn.trans (by decide)
  unfold setTrigger
  dsimp only
  split_ifs
  · exact ⟨getLsbD_and_not_bit_of_ne hn hne, getLsbD_or_bit_of_ne hn hne⟩
  · exact ⟨getLsbD_or_bit_of_ne hn hne, getLsbD_and_not_bit_of_ne hn hne⟩
  · exact ⟨getLsbD_or_bit_of_ne hn hne, getLsbD_or_bit_of_ne hn hne⟩
  · exact ⟨rfl, rfl⟩

theorem setTrigger_keeps (config : GpioPinConfig) (gpio : Gpio) :
    (config.setTrigger gpio).exticr = gpio.exticr ∧
    (config.setTrigger gpio).imr = gpio.imr ∧ (config.setTrigger gpio).ports = gpio.ports := by
  unfold setTrigger
  dsimp only
  split_ifs <;> exact ⟨rfl, rfl, rfl⟩

theorem line_interrupt_self (h : config.Valid) (hInterrupts : config.interrupts) :
    (config.selectPort gpiox (config.setTrigger gpio)).line config.pinNum.toNat =
      config.newLine gpiox (gpio.line config.pinNum.toNat) := by
  have hPin : config.pinNum.toNat < 32 := h.pinNum.trans (by decide)
  obtain ⟨hRtsr, hFtsr⟩ := line_setTrigger_self gpio h hInterrupts
  obtain ⟨hExticr, _, _⟩ := setTrigger_keeps config gpio
  have hPort : ((config.selectPort gpiox (config.setTrigger gpio)).exticr
        (config.pinNum.toNat / 4)).extractLsb' (4 * (config.pinNum.toNat % 4)) 4 =
      (gpio.line config.pinNum.toNat).port ||| gpiox.code.setWidth 4 := by
    unfold selectPort
    dsimp only
    rw [Function.update_self, extract_or_shiftLeft (by omega), hExticr,
      BitVec.setWidth_setWidth_of_le _ (by decide)]
    rfl
  have hImr : (config.selectPort gpiox (config.setTrigger gpio)).imr.getLsbD
      config.pinNum.toNat = true := getLsbD_or_bit_self hPin
  rw [Gpio.line, hPort, hImr]
  exact congrArg₂ (fun r f => (⟨r, f, true, _⟩ : LineFields)) hRtsr hFtsr

theorem line_interrupt_of_ne (hn : n < 16) (hne : n ≠ config.pinNum.toNat) :
    (config.selectPort gpiox (config.setTrigger gpio)).line n = gpio.line n := by
  obtain ⟨hRtsr, hFtsr⟩ := line_setTrigger_of_ne gpio hn hne
  obtain ⟨hExticr, hImrKept, _⟩ := setTrigger_keeps config gpio
  have hCode : (gpiox.code.setWidth 32 : U32).toNat < 2 ^ 4 := by cases gpiox <;> decide
  have hPort : ((config.selectPort gpiox (config.setTrigger gpio)).exticr (n / 4)).extractLsb'
      (4 * (n % 4)) 4 = (gpio.exticr (n / 4)).extractLsb' (4 * (n % 4)) 4 := by
    unfold selectPort
    dsimp only
    rw [hExticr, Function.update_apply]
    split_ifs with hSame
    · have hPlace : config.pinNum.toNat % 4 ≠ n % 4 := by omega
      rw [extract_or_shiftLeft_of_ne hCode hPlace, hSame]
    · rfl
  have hImr : (config.selectPort gpiox (config.setTrigger gpio)).imr.getLsbD n =
      gpio.imr.getLsbD n := by
    rw [← hImrKept]
    exact getLsbD_or_bit_of_ne (hn.trans (by decide)) hne
  rw [Gpio.line, hPort, hImr]
  exact congrArg₂ (fun r f => (⟨r, f, _, _⟩ : LineFields)) hRtsr hFtsr

end GpioPinConfig

section Call

variable {handle : GpioHandle} {gpio : Gpio}

theorem ports_gpioInit : (gpioInit handle gpio).ports =
    Function.update gpio.ports handle.gpiox
      (handle.config.configure (gpio.ports handle.gpiox)) := by
  have hKept : ∀ gpio, (handle.config.selectPort handle.gpiox
      (handle.config.setTrigger gpio)).ports = gpio.ports :=
    fun gpio => (GpioPinConfig.setTrigger_keeps handle.config gpio).2.2
  unfold gpioInit GpioPinConfig.configure Gpio.atPort
  dsimp only
  split_ifs
  · simp only [Function.update_self, Function.update_idem]
  · simp only [hKept, Function.update_self, Function.update_idem]

theorem line_gpioInit {n : Nat} : (gpioInit handle gpio).line n =
    if handle.config.mode ≤ gpioModeAnalog then gpio.line n
    else (handle.config.selectPort handle.gpiox (handle.config.setTrigger gpio)).line n := by
  unfold gpioInit GpioPinConfig.setTrigger
  dsimp only
  split_ifs <;> rfl

theorem pin_gpioInit {gpiox : GpioPort} {n : Nat} : (gpioInit handle gpio).pin gpiox n =
    if gpiox = handle.gpiox then
      (handle.config.configure (gpio.ports handle.gpiox)).pin n
    else gpio.pin gpiox n := by
  rw [Gpio.pin, ports_gpioInit, Function.update_apply]
  split_ifs <;> rfl

theorem pin_gpioInit_self (gpio : Gpio) (h : handle.config.Valid) :
    (gpioInit handle gpio).pin handle.gpiox handle.config.pinNum.toNat =
      handle.config.newPin (gpio.pin handle.gpiox handle.config.pinNum.toNat) := by
  rw [pin_gpioInit, if_pos rfl]
  exact GpioPinConfig.pin_configure_self _ h

theorem line_gpioInit_self (h : handle.config.Valid) (hInterrupts : handle.config.interrupts) :
    (gpioInit handle gpio).line handle.config.pinNum.toNat =
      handle.config.newLine handle.gpiox (gpio.line handle.config.pinNum.toNat) := by
  rw [line_gpioInit, if_neg hInterrupts]
  exact GpioPinConfig.line_interrupt_self h hInterrupts

theorem fits_of_programs (h : handle.config.Valid)
    (hPrograms : Programs handle gpio (gpioInit handle gpio)) : Fits handle gpio := by
  have hPin := pin_gpioInit_self gpio h
  constructor
  · have hPupdr := hPrograms.pupdr
    rw [hPin] at hPupdr
    exact setWidth_toNat_eq_iff.mp hPupdr
  · intro hDrives
    have hOutput := hPrograms.output hDrives
    rw [hPin, GpioPinConfig.newPin, if_pos hDrives, if_pos hDrives] at hOutput
    exact ⟨setWidth_toNat_eq_iff.mp hOutput.1, setWidth_toNat_eq_iff.mp hOutput.2⟩
  · intro hAlt
    have hAfr := hPrograms.afr hAlt
    rw [hPin, GpioPinConfig.newPin, if_pos hAlt] at hAfr
    exact setWidth_toNat_eq_iff.mp hAfr
  · intro hInterrupts
    have hLine := (line_gpioInit_self h hInterrupts).symm.trans (hPrograms.line hInterrupts)
    exact congrArg LineFields.port hLine

theorem programs_of_fits (h : handle.config.Valid) (hFits : Fits handle gpio) :
    Programs handle gpio (gpioInit handle gpio) := by
  have hPin := pin_gpioInit_self gpio h
  constructor
  · rw [hPin, GpioPinConfig.newPin]
    dsimp only
    split_ifs with hMode
    · exact setWidth_toNat_eq_iff.mpr (Nat.lt_succ_of_le hMode)
    · rfl
  · rw [hPin]
    exact setWidth_toNat_eq_iff.mpr hFits.pupd
  · intro hDrives
    obtain ⟨hType, hSpeed⟩ := hFits.output hDrives
    rw [hPin, GpioPinConfig.newPin, if_pos hDrives, if_pos hDrives]
    exact ⟨setWidth_toNat_eq_iff.mpr hType, setWidth_toNat_eq_iff.mpr hSpeed⟩
  · intro hAlt
    rw [hPin, GpioPinConfig.newPin, if_pos hAlt]
    exact setWidth_toNat_eq_iff.mpr (hFits.altFcnMode hAlt)
  · intro hInterrupts
    rw [line_gpioInit_self h hInterrupts, GpioPinConfig.newLine, hFits.port hInterrupts]
  · intro gpiox n hn hne
    rw [pin_gpioInit]
    split_ifs with hPort
    · have hOther : n ≠ handle.config.pinNum.toNat := fun hEq => hne (by rw [hPort, hEq])
      rw [hPort]
      exact GpioPinConfig.pin_configure_of_ne hFits hn hOther
    · rfl
  · intro n hn hne
    rw [line_gpioInit]
    split_ifs
    · rfl
    · exact GpioPinConfig.line_interrupt_of_ne hn hne

end Call

def gpioInits (gpio : Gpio) (calls : List GpioHandle) : Gpio :=
  calls.foldl (fun gpio handle => gpioInit handle gpio) gpio

/-- Each call programs its pin and no other just if each finds what it needs. -/
theorem programs_iff (gpio : Gpio) (calls : List GpioHandle)
    (hValid : ∀ handle ∈ calls, handle.config.Valid) :
    (∀ before handle after, calls = before ++ handle :: after →
      Programs handle (gpioInits gpio before) (gpioInits gpio (before ++ [handle]))) ↔
    ∀ before handle after, calls = before ++ handle :: after →
      Fits handle (gpioInits gpio before) := by
  refine forall₃_congr fun before handle after => forall_congr' fun hEq => ?_
  have hMem : handle ∈ calls := by
    rw [hEq]
    exact List.mem_append_right _ List.mem_cons_self
  have hLast : gpioInits gpio (before ++ [handle]) = gpioInit handle (gpioInits gpio before) := by
    rw [gpioInits, List.foldl_append]
    rfl
  rw [hLast]
  exact ⟨fits_of_programs (hValid handle hMem), programs_of_fits (hValid handle hMem)⟩

def edgesOnPin3 (gpiox : GpioPort) : GpioHandle := ⟨gpiox, ⟨3, gpioModeItRft, 0, 0, 0, 0⟩⟩

theorem edgesOnPin3_valid (gpiox : GpioPort) : (edgesOnPin3 gpiox).config.Valid :=
  ⟨show (3 : U8).toNat < 16 by decide, show gpioModeItRft ≤ gpioModeItRft by decide⟩

def Gpio.reset : Gpio := ⟨fun _ => ⟨0, 0, 0, 0, fun _ => 0⟩, 0, 0, 0, fun _ => 0, 0, 0⟩

/-- Everything was in use before: an analog pin PB3 with a line of port B. -/
def Gpio.inUse : Gpio :=
  ⟨fun _ => ⟨0xFFFFFFFF#32, 0xFFFF#32, 0xFFFFFFFF#32, 0xAAAAAAAA#32, fun _ => 0xFFFFFFFF#32⟩,
    0xFF#32, 0x0F#32, 0xFF#32, fun _ => 0x1111#32, 0x87#32, 0x4000#32⟩

def outputOnPin3 (gpiox : GpioPort) : GpioHandle := ⟨gpiox, ⟨3, gpioModeOut, 0, 1, 1, 0⟩⟩

theorem outputOnPin3_valid (gpiox : GpioPort) : (outputOnPin3 gpiox).config.Valid :=
  ⟨show (3 : U8).toNat < 16 by decide, show gpioModeOut ≤ gpioModeItRft by decide⟩

/-- PB3 becomes an output, and then a line. -/
theorem programs_again :
    Programs (outputOnPin3 .gpioB) .inUse (gpioInits .inUse [outputOnPin3 .gpioB]) ∧
      Programs (edgesOnPin3 .gpioB) (gpioInits .inUse [outputOnPin3 .gpioB])
        (gpioInits .inUse [outputOnPin3 .gpioB, edgesOnPin3 .gpioB]) := by
  have hPrograms := (programs_iff .inUse [outputOnPin3 .gpioB, edgesOnPin3 .gpioB] (by
    intro handle hMem
    obtain rfl | hMem := List.mem_cons.mp hMem
    · exact outputOnPin3_valid .gpioB
    · rw [List.mem_singleton.mp hMem]
      exact edgesOnPin3_valid .gpioB)).mpr (by
    rintro (_ | ⟨first, _ | ⟨second, before⟩⟩) handle after hEq
    · cases hEq
      exact ⟨by decide, by decide, by decide, by decide⟩
    · cases hEq
      exact ⟨by decide, by decide, by decide, by decide⟩
    · simp at hEq)
  exact ⟨hPrograms [] _ _ rfl, hPrograms [outputOnPin3 .gpioB] _ [] rfl⟩

/-- The line of PB3 is to become that of PA3, and stays at port B. -/
theorem programs_not_port : ¬ ∀ (gpio : Gpio) (calls : List GpioHandle),
    (∀ handle ∈ calls, handle.config.Valid) →
    ∀ before handle after, calls = before ++ handle :: after →
      Programs handle (gpioInits gpio before) (gpioInits gpio (before ++ [handle])) := by
  intro h
  have hPrograms := h .reset [edgesOnPin3 .gpioB, edgesOnPin3 .gpioA] (by
    intro handle hMem
    obtain rfl | hMem := List.mem_cons.mp hMem
    · exact edgesOnPin3_valid .gpioB
    · rw [List.mem_singleton.mp hMem]
      exact edgesOnPin3_valid .gpioA) [edgesOnPin3 .gpioB] (edgesOnPin3 .gpioA) [] rfl
  have hPort := congrArg LineFields.port (hPrograms.line (by decide))
  revert hPort
  decide

end KoRTOS.Hal
