import KoRTOS.Hal.CanTx
import KoRTOS.Library.Polling

/-!
# The CAN driver: initialization

`CAN_init`, cut at its reads of MSR. Between two of these the driver writes its
configuration; what it writes to MCR, IER, BTR and APB1ENR stays there.
-/

namespace KoRTOS.Hal

open RegisterBits Polling

def canModeNormal : U8 := 0
def canModeLoopback : U8 := 1
def canModeSilent : U8 := 2
def canModeSilentLoopback : U8 := 3

def canMcrInrqMsk : U32 := 1#32 <<< 0
def canMcrSleepMsk : U32 := 1#32 <<< 1
def canMcrTtcmMsk : U32 := 1#32 <<< 7
def canMsrInakMsk : U32 := 1#32 <<< 0
def canMsrSlakMsk : U32 := 1#32 <<< 1
def canIerTmeieMsk : U32 := 1#32 <<< 0
def canIerFmpie0Msk : U32 := 1#32 <<< 1
def canIerFmpie1Msk : U32 := 1#32 <<< 4

def canBtrBrpPos : Nat := 0
def canBtrBrpMsk : U32 := 0x3FF#32 <<< canBtrBrpPos
def canBtrTs1Pos : Nat := 16
def canBtrTs1Msk : U32 := 0xF#32 <<< canBtrTs1Pos
def canBtrTs2Pos : Nat := 20
def canBtrTs2Msk : U32 := 0x7#32 <<< canBtrTs2Pos
def canBtrSjwPos : Nat := 24
def canBtrSjwMsk : U32 := 0x3#32 <<< canBtrSjwPos
def canBtrLbkmPos : Nat := 30
def canBtrLbkmMsk : U32 := 1#32 <<< canBtrLbkmPos
def canBtrSilmPos : Nat := 31
def canBtrSilmMsk : U32 := 1#32 <<< canBtrSilmPos

def canBtrBrpMax : U32 := canBtrBrpMsk >>> canBtrBrpPos
def canBtrTs1Max : U32 := canBtrTs1Msk >>> canBtrTs1Pos
def canBtrTs2Max : U32 := canBtrTs2Msk >>> canBtrTs2Pos
def canBtrSjwMax : U32 := canBtrSjwMsk >>> canBtrSjwPos

inductive CanPeripheral where
  | can1
  | can2
  deriving DecidableEq, Repr

structure CanConfig where
  baudRatePrescaler : U32
  ts1 : U8
  ts2 : U8
  sjw : U8
  mode : U8
  ttcm : U8

structure CanHandle where
  canx : Option CanPeripheral
  canConfig : CanConfig

structure CanInitReg where
  mcr : U32
  ier : U32
  btr : U32
  apb1enr : U32

/-- `CAN_clock_control` with `ENABLE`. -/
def canClockEnable (canx : CanPeripheral) (reg : CanInitReg) : CanInitReg :=
  match canx with
  | .can1 => { reg with apb1enr := reg.apb1enr ||| 1#32 <<< 25 }
  | .can2 => { reg with apb1enr := reg.apb1enr ||| 1#32 <<< 26 }

def CanConfig.invalid (config : CanConfig) : Prop :=
  canBtrBrpMax < config.baudRatePrescaler ∨ canBtrTs1Max < config.ts1.setWidth 32 ∨
    canBtrTs2Max < config.ts2.setWidth 32 ∨ canBtrSjwMax < config.sjw.setWidth 32 ∨
    canModeSilentLoopback < config.mode ∨ (config.ttcm ≠ ENABLE ∧ config.ttcm ≠ DISABLE)

instance (config : CanConfig) : Decidable config.invalid := by
  unfold CanConfig.invalid; infer_instance

/-- `lookpack_mode` and `silent_mode`. -/
def canModeBits (mode : U8) : Option (U32 × U32) :=
  if mode = canModeNormal then some (0, 0)
  else if mode = canModeLoopback then some (1, 0)
  else if mode = canModeSilent then some (0, 1)
  else if mode = canModeSilentLoopback then some (1, 1)
  else none

namespace CanInitReg

def requestInit (canx : CanPeripheral) (reg : CanInitReg) : CanInitReg :=
  let reg := canClockEnable canx reg
  { reg with mcr := reg.mcr ||| canMcrInrqMsk }

def exitSleep (reg : CanInitReg) : CanInitReg := { reg with mcr := reg.mcr &&& ~~~canMcrSleepMsk }

def bitTiming (config : CanConfig) (lookpackMode silentMode btr : U32) : U32 :=
  btr &&& ~~~(canBtrBrpMsk ||| canBtrTs1Msk ||| canBtrTs2Msk ||| canBtrSjwMsk |||
      canBtrLbkmMsk ||| canBtrSilmMsk) |||
    (config.baudRatePrescaler <<< canBtrBrpPos ||| config.ts1.setWidth 32 <<< canBtrTs1Pos |||
      config.ts2.setWidth 32 <<< canBtrTs2Pos ||| config.sjw.setWidth 32 <<< canBtrSjwPos |||
      lookpackMode <<< canBtrLbkmPos ||| silentMode <<< canBtrSilmPos)

/-- What is written between the second and the third loop, the last being INRQ. -/
def configure (config : CanConfig) (lookpackMode silentMode : U32) (reg : CanInitReg) :
    CanInitReg :=
  let mcr :=
    if config.ttcm = ENABLE then reg.mcr ||| canMcrTtcmMsk else reg.mcr &&& ~~~canMcrTtcmMsk
  { reg with
    btr := bitTiming config lookpackMode silentMode reg.btr
    ier := reg.ier ||| (canIerTmeieMsk ||| canIerFmpie0Msk ||| canIerFmpie1Msk)
    mcr := mcr &&& ~~~canMcrInrqMsk }

end CanInitReg

/-- The loop that `CAN_init` is in, with its `timeout`. -/
inductive CanInitPhase where
  | enteringInit (timeout : Nat)
  | exitingSleep (timeout : Nat)
  | leavingInit (timeout : Nat)
  | returned (status : KhalStatus)
  deriving DecidableEq, Repr

structure CanInitCall where
  reg : CanInitReg
  phase : CanInitPhase

def inakClear (msr : U32) : Bool := decide (msr &&& canMsrInakMsk = 0)
def slakSet (msr : U32) : Bool := decide (msr &&& canMsrSlakMsk ≠ 0)
def inakSet (msr : U32) : Bool := decide (msr &&& canMsrInakMsk ≠ 0)

namespace CanInitCall

def start (canHandle : Option CanHandle) (reg : CanInitReg) : CanInitCall :=
  match canHandle with
  | some ⟨some canx, config⟩ =>
    if config.invalid then ⟨reg, .returned .errInvalidParam⟩
    else ⟨reg.requestInit canx, .enteringInit canInitTimeout⟩
  | _ => ⟨reg, .returned .errNullPtr⟩

def configure (config : CanConfig) (reg : CanInitReg) : CanInitCall :=
  match canModeBits config.mode with
  | some (lookpackMode, silentMode) =>
    ⟨reg.configure config lookpackMode silentMode, .leavingInit canInitTimeout⟩
  | none => ⟨reg, .returned .errInvalidParam⟩

/-- A read of MSR, and everything up to the next one. -/
def read (config : CanConfig) (msr : U32) (call : CanInitCall) : CanInitCall :=
  let giveUp := { call with phase := .returned .errTimeout }
  match call.phase with
  | .enteringInit timeout =>
    poll (inakClear msr) timeout (fun t => { call with phase := .enteringInit t }) giveUp
      ⟨call.reg.exitSleep, .exitingSleep canInitTimeout⟩
  | .exitingSleep timeout =>
    poll (slakSet msr) timeout (fun t => { call with phase := .exitingSleep t }) giveUp
      (configure config call.reg)
  | .leavingInit timeout =>
    poll (inakSet msr) timeout (fun t => { call with phase := .leavingInit t }) giveUp
      { call with phase := .returned .ok }
  | .returned _ => call

def after (config : CanConfig) (start : CanInitCall) (msr : Nat → U32) : Nat → CanInitCall
  | 0 => start
  | n + 1 => read config (msr n) (after config start msr n)

end CanInitCall

end KoRTOS.Hal
