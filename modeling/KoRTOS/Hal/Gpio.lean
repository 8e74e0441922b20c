import KoRTOS.Hal.Nvic

/-!
# The GPIO driver: initialization

`GPIO_init`, with the registers of the ports and those of EXTI, SYSCFG and RCC
that it reads and writes. The registers keep what is written to them.
-/

namespace KoRTOS.Hal

open RegisterBits

def gpioModeIn : U8 := 0
def gpioModeOut : U8 := 1
def gpioModeAltfunc : U8 := 2
def gpioModeAnalog : U8 := 3
def gpioModeItFt : U8 := 4
def gpioModeItRt : U8 := 5
def gpioModeItRft : U8 := 6

inductive GpioPort where
  | gpioA
  | gpioB
  | gpioC
  | gpioD
  | gpioE
  | gpioF
  | gpioG
  | gpioH
  deriving DecidableEq, Repr

/-- `GPIO_BASEADDR_TO_CODE` -/
def GpioPort.code : GpioPort → U8
  | .gpioA => 0
  | .gpioB => 1
  | .gpioC => 2
  | .gpioD => 3
  | .gpioE => 4
  | .gpioF => 5
  | .gpioG => 6
  | .gpioH => 7

structure GpioPinConfig where
  pinNum : U8
  mode : U8
  speed : U8
  pupd : U8
  outType : U8
  altFcnMode : U8
  deriving DecidableEq, Repr

structure GpioHandle where
  gpiox : GpioPort
  config : GpioPinConfig
  deriving DecidableEq, Repr

/-- The registers of a port. `AFR[0]` and `AFR[1]` are those that exist. -/
structure GpioReg where
  moder : U32
  otyper : U32
  ospeedr : U32
  pupdr : U32
  afr : Nat → U32

/-- The ports, and the registers of EXTI, SYSCFG and RCC. `EXTICR[0]` to `EXTICR[3]` are those
that exist. -/
structure Gpio where
  ports : GpioPort → GpioReg
  rtsr : U32
  ftsr : U32
  imr : U32
  exticr : Nat → U32
  ahb1enr : U32
  apb2enr : U32

/-- The new value of `AHB1ENR`. There is no branch for GPIOG. -/
def gpioClockControl (gpiox : GpioPort) (enable : U8) (ahb1enr : U32) : U32 :=
  if enable = ENABLE then
    match gpiox with
    | .gpioA => ahb1enr ||| bit 0
    | .gpioB => ahb1enr ||| bit 1
    | .gpioC => ahb1enr ||| bit 2
    | .gpioD => ahb1enr ||| bit 3
    | .gpioE => ahb1enr ||| bit 4
    | .gpioF => ahb1enr ||| bit 5
    | .gpioG => ahb1enr
    | .gpioH => ahb1enr ||| bit 7
  else
    match gpiox with
    | .gpioA => ahb1enr &&& ~~~bit 0
    | .gpioB => ahb1enr &&& ~~~bit 1
    | .gpioC => ahb1enr &&& ~~~bit 2
    | .gpioD => ahb1enr &&& ~~~bit 3
    | .gpioE => ahb1enr &&& ~~~bit 4
    | .gpioF => ahb1enr &&& ~~~bit 5
    | .gpioG => ahb1enr
    | .gpioH => ahb1enr &&& ~~~bit 7

namespace GpioPinConfig

/-- An interrupt pin is configured as input. -/
def setMode (config : GpioPinConfig) (reg : GpioReg) : GpioReg :=
  let pin := config.pinNum.toNat
  if config.mode ≤ gpioModeAnalog then
    { reg with moder := replace 0b11#32 (2 * pin) (config.mode.setWidth 32) reg.moder }
  else { reg with moder := reg.moder &&& ~~~(0b11#32 <<< (2 * pin)) }

def setTrigger (config : GpioPinConfig) (gpio : Gpio) : Gpio :=
  let pin := config.pinNum.toNat
  if config.mode = gpioModeItFt then
    { gpio with ftsr := gpio.ftsr ||| bit pin, rtsr := gpio.rtsr &&& ~~~bit pin }
  else if config.mode = gpioModeItRt then
    { gpio with rtsr := gpio.rtsr ||| bit pin, ftsr := gpio.ftsr &&& ~~~bit pin }
  else if config.mode = gpioModeItRft then
    { gpio with rtsr := gpio.rtsr ||| bit pin, ftsr := gpio.ftsr ||| bit pin }
  else gpio

def selectPort (config : GpioPinConfig) (gpiox : GpioPort) (gpio : Gpio) : Gpio :=
  let pin := config.pinNum.toNat
  let temp1 := pin / 4
  let temp2 := pin % 4
  { gpio with
    apb2enr := gpio.apb2enr ||| bit 14
    exticr := Function.update gpio.exticr temp1
      (gpio.exticr temp1 ||| gpiox.code.setWidth 32 <<< (4 * temp2))
    imr := gpio.imr ||| bit pin }

def setOutput (config : GpioPinConfig) (reg : GpioReg) : GpioReg :=
  let pin := config.pinNum.toNat
  if config.mode = gpioModeOut ∨ config.mode = gpioModeAltfunc then
    { reg with
      otyper := replace 0b1#32 pin (config.outType.setWidth 32) reg.otyper
      ospeedr := replace 0b11#32 (2 * pin) (config.speed.setWidth 32) reg.ospeedr }
  else reg

def setPupd (config : GpioPinConfig) (reg : GpioReg) : GpioReg :=
  { reg with
    pupdr := replace 0b11#32 (2 * config.pinNum.toNat) (config.pupd.setWidth 32) reg.pupdr }

def setAltFcn (config : GpioPinConfig) (reg : GpioReg) : GpioReg :=
  let temp1 := config.pinNum.toNat / 8
  let temp2 := config.pinNum.toNat % 8
  if config.mode = gpioModeAltfunc then
    { reg with
      afr := Function.update reg.afr temp1
        (replace 0b1111#32 (4 * temp2) (config.altFcnMode.setWidth 32) (reg.afr temp1)) }
  else reg

end GpioPinConfig

def Gpio.atPort (gpio : Gpio) (gpiox : GpioPort) (f : GpioReg → GpioReg) : Gpio :=
  { gpio with ports := Function.update gpio.ports gpiox (f (gpio.ports gpiox)) }

def gpioInit (handle : GpioHandle) (gpio : Gpio) : Gpio :=
  let config := handle.config
  let gpio := { gpio with ahb1enr := gpioClockControl handle.gpiox ENABLE gpio.ahb1enr }
  let gpio := gpio.atPort handle.gpiox config.setMode
  let gpio :=
    if config.mode ≤ gpioModeAnalog then gpio
    else config.selectPort handle.gpiox (config.setTrigger gpio)
  let gpio := gpio.atPort handle.gpiox config.setOutput
  let gpio := gpio.atPort handle.gpiox config.setPupd
  gpio.atPort handle.gpiox config.setAltFcn

end KoRTOS.Hal
