import KoRTOS.Hal.DataRegister
import KoRTOS.Hal.Nvic
import KoRTOS.Hal.Rcc

/-!
# The I2C driver: initialization

`I2C_init`, with the registers that it reads and writes. A division by zero,
which only a requested speed of 0 leads to, gives zero.
-/

namespace KoRTOS.Hal

open RegisterBits

def i2cCr2Freq : Nat := 0

def i2cOarAddmode : Nat := 15

def i2cCcrCcr : Nat := 0
def i2cCcrDuty : Nat := 14
def i2cCcrFs : Nat := 15

def i2cClkSpeedSm : U32 := 100000
def i2cClkSpeedFm4k : U32 := 400000

def i2cFmDuty2 : U16 := 0
def i2cFmDuty169 : U16 := 1

inductive I2cPeripheral where
  | i2c1
  | i2c2
  | i2c3
  deriving DecidableEq, Repr

structure I2cConfig where
  clkSpeed : U32
  deviceAddr : U8
  fmDutyCycle : U16

structure I2cInitHandle where
  i2cx : I2cPeripheral
  config : I2cConfig

/-- The registers of the peripheral that `I2C_init` writes, and those of RCC. -/
structure I2cInitReg where
  cr2 : U32
  oar1 : U32
  ccr : U32
  trise : U32
  apb1enr : U32
  cfgr : U32
  deriving DecidableEq, Repr

def i2cClockControl (i2cx : I2cPeripheral) (enable : U8) (apb1enr : U32) : U32 :=
  if enable = ENABLE then
    match i2cx with
    | .i2c1 => apb1enr ||| bit 21
    | .i2c2 => apb1enr ||| bit 22
    | .i2c3 => apb1enr ||| bit 23
  else
    match i2cx with
    | .i2c1 => apb1enr &&& ~~~bit 21
    | .i2c2 => apb1enr &&& ~~~bit 22
    | .i2c3 => apb1enr &&& ~~~bit 23

namespace I2cConfig

def freq (pclk1 cr2 : U32) : U32 := replace 0b11111 i2cCr2Freq (pclk1 / 1000000) cr2

def ownAddress (config : I2cConfig) (oar1 : U32) : U32 :=
  let temp := oar1 &&& ~~~bit i2cOarAddmode
  let temp := replace 0x7F 1 (config.deviceAddr.setWidth 32 &&& 0x7F) temp
  temp ||| bit 14

/-- The mode bits, and the divider that belongs to them. -/
def clockMode (config : I2cConfig) (pclk1 ccr : U32) : U32 × U32 :=
  if config.clkSpeed ≤ i2cClkSpeedSm then
    (ccr &&& ~~~bit i2cCcrFs, pclk1 / (2 * config.clkSpeed))
  else
    let temp := ccr ||| bit i2cCcrFs
    let duty := config.fmDutyCycle.setWidth 8
    if duty ≠ 0 then
      (temp ||| duty.setWidth 32 <<< i2cCcrDuty, pclk1 / (25 * config.clkSpeed))
    else (temp &&& ~~~bit i2cCcrDuty, pclk1 / (3 * config.clkSpeed))

def clockControl (config : I2cConfig) (pclk1 ccr : U32) : U32 :=
  let (temp, divider) := config.clockMode pclk1 ccr
  replace 0xFFF i2cCcrCcr (divider &&& 0xFFF) temp

def riseTime (config : I2cConfig) (pclk1 trise : U32) : U32 :=
  let temp :=
    if config.clkSpeed ≤ i2cClkSpeedSm then replace 0x3F 0 (pclk1 / 1000000 + 1) trise
    else replace 0x3F 0 (pclk1 * 300 / 1000000000 + 1) trise
  temp &&& 0x3F

end I2cConfig

def i2cInit (handle : I2cInitHandle) (reg : I2cInitReg) : I2cInitReg :=
  let pclk1 := rccGetPclk1 reg.cfgr
  { reg with
    apb1enr := i2cClockControl handle.i2cx ENABLE reg.apb1enr
    cr2 := I2cConfig.freq pclk1 reg.cr2
    oar1 := handle.config.ownAddress reg.oar1
    ccr := handle.config.clockControl pclk1 reg.ccr
    trise := handle.config.riseTime pclk1 reg.trise }

end KoRTOS.Hal
