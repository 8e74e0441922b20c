import KoRTOS.Hal.Can
import KoRTOS.Library.RegisterBits
import Mathlib.Logic.Function.Basic

/-!
# The CAN driver: acceptance filters

`CAN_configure_filter`, with the registers as the hardware protects them: the mode, the
scale and the FIFO of a filter bank can only be written in the initialization mode, its two
identifier registers also while the bank is inactive.
-/

namespace KoRTOS.Hal

open RegisterBits

def maxCanFilterBanks : Nat := 27

def filterModeMask : U8 := 0
def filterModeList : U8 := 1
def filterScale16bit : U8 := 0
def filterScale32bit : U8 := 1
def fifo0 : U8 := 0
def fifo1 : U8 := 1

def canFmrFinitMsk : U32 := bit 0

structure CanFilterConfig where
  bankNum : U8
  filterMode : U8
  filterScale : U8
  fifoAssignment : U8
  fr1 : U32
  fr2 : U32
  deriving DecidableEq, Repr

structure CanFilterBank where
  fr1 : U32
  fr2 : U32

structure CanFilterReg where
  fmr : U32
  fm1r : U32
  fs1r : U32
  ffa1r : U32
  fa1r : U32
  filterBanks : Nat → CanFilterBank

namespace CanFilterReg

def finit (reg : CanFilterReg) : Bool := reg.fmr.getLsbD 0

def writeFm1r (value : U32) (reg : CanFilterReg) : CanFilterReg :=
  if reg.finit then { reg with fm1r := value } else reg

def writeFs1r (value : U32) (reg : CanFilterReg) : CanFilterReg :=
  if reg.finit then { reg with fs1r := value } else reg

def writeFfa1r (value : U32) (reg : CanFilterReg) : CanFilterReg :=
  if reg.finit then { reg with ffa1r := value } else reg

def writeBank (bankNum : Nat) (bank : CanFilterBank → CanFilterBank) (reg : CanFilterReg) :
    CanFilterReg :=
  if reg.finit || !reg.fa1r.getLsbD bankNum then
    { reg with filterBanks :=
      Function.update reg.filterBanks bankNum (bank (reg.filterBanks bankNum)) }
  else reg

end CanFilterReg

def CanFilterConfig.invalid (config : CanFilterConfig) : Bool :=
  maxCanFilterBanks < config.bankNum.toNat || filterModeList < config.filterMode ||
    filterScale32bit < config.filterScale || fifo1 < config.fifoAssignment

def CanFilterReg.configure (config : CanFilterConfig) (reg : CanFilterReg) : CanFilterReg :=
  let bankNum := config.bankNum.toNat
  let reg := { reg with fmr := reg.fmr ||| canFmrFinitMsk }
  let reg := { reg with fa1r := reg.fa1r &&& ~~~bit bankNum }
  let reg :=
    if config.filterMode = filterModeMask then reg.writeFm1r (reg.fm1r &&& ~~~bit bankNum)
    else reg.writeFm1r (reg.fm1r ||| bit bankNum)
  let reg :=
    if config.filterScale = filterScale16bit then reg.writeFs1r (reg.fs1r &&& ~~~bit bankNum)
    else reg.writeFs1r (reg.fs1r ||| bit bankNum)
  let reg :=
    if config.fifoAssignment = fifo0 then reg.writeFfa1r (reg.ffa1r &&& ~~~bit bankNum)
    else reg.writeFfa1r (reg.ffa1r ||| bit bankNum)
  let reg := reg.writeBank bankNum fun bank => { bank with fr1 := config.fr1 }
  let reg := reg.writeBank bankNum fun bank => { bank with fr2 := config.fr2 }
  let reg := { reg with fa1r := reg.fa1r ||| bit bankNum }
  { reg with fmr := reg.fmr &&& ~~~canFmrFinitMsk }

def canConfigureFilter (filterConfig : Option CanFilterConfig) (reg : CanFilterReg) :
    CanFilterReg × KhalStatus :=
  match filterConfig with
  | none => (reg, .errNullPtr)
  | some config =>
    if config.invalid then (reg, .errInvalidParam) else (reg.configure config, .ok)

namespace CanFilterReg

def bank (bankNum : Nat) (reg : CanFilterReg) : Option CanFilterConfig :=
  if reg.fa1r.getLsbD bankNum then
    some {
      bankNum := BitVec.ofNat 8 bankNum
      filterMode := if reg.fm1r.getLsbD bankNum then filterModeList else filterModeMask
      filterScale := if reg.fs1r.getLsbD bankNum then filterScale32bit else filterScale16bit
      fifoAssignment := if reg.ffa1r.getLsbD bankNum then fifo1 else fifo0
      fr1 := (reg.filterBanks bankNum).fr1
      fr2 := (reg.filterBanks bankNum).fr2 }
  else none

end CanFilterReg
end KoRTOS.Hal
