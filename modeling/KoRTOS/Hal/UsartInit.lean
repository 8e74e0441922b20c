import KoRTOS.Hal.Rcc
import KoRTOS.Hal.Usart

/-!
# The USART driver: initialization

`USART_init`, register by register. A division by zero, which only a baud rate
that is 0 or at least 2^28 leads to, gives zero.
-/

namespace KoRTOS.Hal

open RegisterBits

def usartModeOnlyTx : U8 := 0
def usartModeOnlyRx : U8 := 1
def usartModeTxrx : U8 := 2

def usartStdBauds : List U32 :=
  [1200, 2400, 9600, 19200, 38400, 57600, 115200, 230400, 460800, 921600, 2000000, 3000000]

def usartStopBits1 : U8 := 0
def usartStopBits05 : U8 := 1
def usartStopBits2 : U8 := 2
def usartStopBits15 : U8 := 3

def usartWordLen8Bits : U8 := 0

def usartParityEnEven : U8 := 1
def usartParityEnOdd : U8 := 2

def usartHwFlowCtrlNone : U8 := 0
def usartHwFlowCtrlCts : U8 := 1
def usartHwFlowCtrlRts : U8 := 2
def usartHwFlowCtrlCtsRts : U8 := 3

def usartCr1Re : Nat := 2
def usartCr1Te : Nat := 3
def usartCr1Ps : Nat := 9
def usartCr1Pce : Nat := 10
def usartCr1M : Nat := 12
def usartCr1Over8 : Nat := 15

def usartCr2Stop : Nat := 12

def usartCr3Rtse : Nat := 8

inductive UsartPeripheral where
  | usart1
  | usart2
  | usart3
  | uart4
  | uart5
  | usart6
  deriving DecidableEq, Repr

structure UsartInitConfig where
  mode : U8
  baud : U32
  numStopBits : U8
  wordLen : U8
  parity : U8
  hwFlowCtrl : U8

/-- The registers of the peripheral that `USART_init` writes, and `CFGR` of RCC. -/
structure UsartInitReg where
  cr1 : U32
  cr2 : U32
  cr3 : U32
  brr : U32
  cfgr : U32
  deriving DecidableEq, Repr

namespace UsartInitConfig

def setMode (config : UsartInitConfig) (cr1 : U32) : U32 :=
  if config.mode = usartModeOnlyRx then cr1 ||| bit usartCr1Re
  else if config.mode = usartModeOnlyTx then cr1 ||| bit usartCr1Te
  else if config.mode = usartModeTxrx then cr1 ||| (bit usartCr1Re ||| bit usartCr1Te)
  else cr1

def setWordLen (config : UsartInitConfig) (cr1 : U32) : U32 :=
  if config.wordLen = usartWordLen8Bits then cr1 &&& ~~~bit usartCr1M
  else if config.wordLen = usartWordLen9Bits then cr1 ||| bit usartCr1M
  else cr1

def setParity (config : UsartInitConfig) (cr1 : U32) : U32 :=
  if config.parity = usartParityDisable then cr1 &&& ~~~bit usartCr1Pce
  else
    let cr1 := cr1 ||| bit usartCr1Pce
    if config.parity = usartParityEnEven then cr1 &&& ~~~bit usartCr1Ps
    else if config.parity = usartParityEnOdd then cr1 ||| bit usartCr1Ps
    else cr1

def configureCr1 (config : UsartInitConfig) (cr1 : U32) : U32 :=
  config.setParity (config.setWordLen (config.setMode cr1))

/-- The stop bits are cleared first. -/
def configureCr2 (config : UsartInitConfig) (cr2 : U32) : U32 :=
  let cr2 := cr2 &&& ~~~(0x3#32 <<< usartCr2Stop)
  if config.numStopBits = usartStopBits1 then cr2 &&& ~~~bit usartCr2Stop
  else if config.numStopBits = usartStopBits05 then cr2 ||| 1#32 <<< usartCr2Stop
  else if config.numStopBits = usartStopBits15 then cr2 ||| 2#32 <<< usartCr2Stop
  else if config.numStopBits = usartStopBits2 then cr2 ||| 3#32 <<< usartCr2Stop
  else cr2

def configureCr3 (config : UsartInitConfig) (cr3 : U32) : U32 :=
  if config.hwFlowCtrl = usartHwFlowCtrlCts then cr3 ||| bit usartCr3Ctse
  else if config.hwFlowCtrl = usartHwFlowCtrlRts then cr3 ||| bit usartCr3Rtse
  else if config.hwFlowCtrl = usartHwFlowCtrlCtsRts then
    cr3 ||| (bit usartCr3Rtse ||| bit usartCr3Ctse)
  else cr3

end UsartInitConfig

/-- USART1 and USART6 are on APB2. -/
def usartPclk (usartx : UsartPeripheral) (cfgr : U32) : U32 :=
  match usartx with
  | .usart1 | .usart6 => rccGetPclk2 cfgr
  | _ => rccGetPclk1 cfgr

def usartdiv (over8 : Bool) (pclkx baud : U32) : U32 :=
  if over8 then 100 * pclkx / (8 * baud) else 100 * pclkx / (16 * baud)

def brrMantissa (usartdiv : U32) : U32 := usartdiv / 100

def brrFraction (over8 : Bool) (usartdiv : U32) : U32 :=
  let fPart := usartdiv % 100
  if over8 then (fPart * 8 + 50) / 100 &&& 0x07 else (fPart * 16 + 50) / 100 &&& 0x0F

def brrVal (over8 : Bool) (pclkx baud : U32) : U32 :=
  let usartdiv := usartdiv over8 pclkx baud
  brrMantissa usartdiv <<< 4 ||| brrFraction over8 usartdiv

/-- `OVER8` is read after `CR1` is configured. -/
def usartInit (usartx : UsartPeripheral) (config : UsartInitConfig) (reg : UsartInitReg) :
    UsartInitReg :=
  let cr1 := config.configureCr1 reg.cr1
  { reg with
    cr1 := cr1
    cr2 := config.configureCr2 reg.cr2
    cr3 := config.configureCr3 reg.cr3
    brr := brrVal (cr1.getLsbD usartCr1Over8) (usartPclk usartx reg.cfgr) config.baud }

/-- After a reset, with HSI undivided. -/
def UsartInitReg.reset : UsartInitReg := ⟨0, 0, 0, 0, 0⟩

def UsartInitConfig.plain (baud : U32) (numStopBits : U8) : UsartInitConfig :=
  ⟨usartModeTxrx, baud, numStopBits, usartWordLen8Bits, usartParityDisable, usartHwFlowCtrlNone⟩

end KoRTOS.Hal
