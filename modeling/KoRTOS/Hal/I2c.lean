import KoRTOS.Hal.DataRegister
import KoRTOS.Hal.Nvic

/-!
# The I2C driver: transfers by interrupt

`I2C_master_send_IT` and `I2C_master_receive_IT` with `I2C_EV_IRQ_handling`. The
flags in `SR1` and `SR2` are set and cleared by the hardware: an invocation of
the handler sees one value of each. Which interrupts are enabled is read once,
when the handler is entered.
-/

namespace KoRTOS.Hal

open RegisterBits

def i2cCr1Start : Nat := 8
def i2cCr1Stop : Nat := 9
def i2cCr1Ack : Nat := 10

def i2cCr2Iterren : Nat := 8
def i2cCr2Itevten : Nat := 9
def i2cCr2Itbufen : Nat := 10

def i2cSr1Sb : Nat := 0
def i2cSr1Addr : Nat := 1
def i2cSr1Btf : Nat := 2
def i2cSr1Stopf : Nat := 4
def i2cSr1Rxne : Nat := 6
def i2cSr1Txe : Nat := 7

def i2cSr2Msl : Nat := 0
def i2cSr2Tra : Nat := 2

def i2cRsDisable : U8 := 0
def i2cAckEnable : U8 := 1

def WRITE : U8 := 0
def READ : U8 := 1

inductive I2cState where
  | ready
  | busyTx
  | busyRx
  deriving DecidableEq, Repr

inductive I2cEvent where
  | txCmplt
  | rxCmplt
  | stop
  | dataReq
  | dataRec
  deriving DecidableEq, Repr

/-- The handle and the control registers, with what was done since the transfer started: the data,
the address bytes that were written to `DR`, and the conditions that were requested. -/
structure I2c where
  ackControl : U8
  cr1 : U32
  cr2 : U32
  pTxBuffer : Nat
  pRxBuffer : Nat
  txLen : U32
  rxLen : U32
  txRxState : I2cState
  slaveAddr : U8
  rxSize : U32
  repeatedStart : U8
  sent : Sent
  received : Received
  addressed : List U8
  starts : Nat
  stops : Nat
  events : List I2cEvent

namespace I2c

def generateStart (i2c : I2c) : I2c :=
  { i2c with cr1 := i2c.cr1 ||| bit i2cCr1Start, starts := i2c.starts + 1 }

def generateStop (i2c : I2c) : I2c :=
  { i2c with cr1 := i2c.cr1 ||| bit i2cCr1Stop, stops := i2c.stops + 1 }

def manageAcking (i2c : I2c) (enable : U8) : I2c :=
  if enable = ENABLE then { i2c with cr1 := i2c.cr1 ||| bit i2cCr1Ack }
  else if enable = DISABLE then { i2c with cr1 := i2c.cr1 &&& ~~~bit i2cCr1Ack }
  else i2c

def executeAddrPhase (i2c : I2c) (slaveAddr readOrWrite : U8) : I2c :=
  let slaveAddr := slaveAddr <<< 1
  let slaveAddr :=
    if readOrWrite = WRITE then slaveAddr &&& ~~~1
    else if readOrWrite = READ then slaveAddr ||| 1
    else slaveAddr
  { i2c with addressed := i2c.addressed ++ [slaveAddr] }

def eventCallback (i2c : I2c) (event : I2cEvent) : I2c :=
  { i2c with events := i2c.events ++ [event] }

def masterSendIt (i2c : I2c) (pTxBuffer : Nat) (len : U32) (slaveAddr rsEnable : U8) :
    I2c × I2cState :=
  if i2c.txRxState ≠ .busyRx ∧ i2c.txRxState ≠ .busyTx then
    let next := generateStart { i2c with
      pTxBuffer := pTxBuffer
      txLen := len
      txRxState := .busyTx
      repeatedStart := rsEnable
      slaveAddr := slaveAddr }
    ({ next with
        cr2 := next.cr2 ||| bit i2cCr2Itbufen ||| bit i2cCr2Itevten ||| bit i2cCr2Iterren },
      i2c.txRxState)
  else (i2c, i2c.txRxState)

def masterReceiveIt (i2c : I2c) (pRxBuffer : Nat) (len : U32) (slaveAddr rsEnable : U8) :
    I2c × I2cState :=
  if i2c.txRxState ≠ .busyRx ∧ i2c.txRxState ≠ .busyTx then
    let next := generateStart { i2c with
      pRxBuffer := pRxBuffer
      rxLen := len
      rxSize := len
      txRxState := .busyRx
      repeatedStart := rsEnable
      slaveAddr := slaveAddr }
    ({ next with
        cr2 := next.cr2 ||| bit i2cCr2Itbufen ||| bit i2cCr2Itevten ||| bit i2cCr2Iterren },
      i2c.txRxState)
  else (i2c, i2c.txRxState)

def closeSend (i2c : I2c) : I2c :=
  let next := { i2c with
    cr2 := i2c.cr2 &&& ~~~bit i2cCr2Itbufen &&& ~~~bit i2cCr2Itevten
    txRxState := .ready
    pTxBuffer := NULL
    txLen := 0 }
  if next.ackControl = i2cAckEnable then next.manageAcking ENABLE else next

def closeReceive (i2c : I2c) : I2c :=
  let next := { i2c with
    cr2 := i2c.cr2 &&& ~~~bit i2cCr2Itbufen &&& ~~~bit i2cCr2Itevten
    txRxState := .ready
    pRxBuffer := NULL
    rxLen := 0
    rxSize := 0 }
  if next.ackControl = i2cAckEnable then next.manageAcking ENABLE else next

def masterTxeHandler (bus : Bus) (i2c : I2c) : I2c :=
  if 0 < i2c.txLen then
    { i2c with
      sent := bus.sendByte 0xFF i2c.pTxBuffer i2c.sent
      pTxBuffer := i2c.pTxBuffer + 1
      txLen := i2c.txLen - 1 }
  else i2c

def masterRxneHandler (bus : Bus) (i2c : I2c) : I2c :=
  let i2c :=
    if i2c.rxSize = 1 then
      { i2c with
        received := bus.receiveByte 0xFF i2c.pRxBuffer i2c.received
        rxLen := i2c.rxLen - 1 }
    else i2c
  let i2c :=
    if 1 < i2c.rxSize then
      let i2c := if i2c.rxLen = 2 then i2c.manageAcking DISABLE else i2c
      { i2c with
        received := bus.receiveByte 0xFF i2c.pRxBuffer i2c.received
        rxLen := i2c.rxLen - 1
        pRxBuffer := i2c.pRxBuffer + 1 }
    else i2c
  if i2c.rxLen = 0 then
    let i2c := if i2c.repeatedStart = i2cRsDisable then i2c.generateStop else i2c
    i2c.closeReceive.eventCallback .rxCmplt
  else i2c

def checkSb (temp2 : Bool) (sr1 : U32) (i2c : I2c) : I2c :=
  if temp2 && sr1.getLsbD i2cSr1Sb then
    if i2c.txRxState = .busyRx then i2c.executeAddrPhase i2c.slaveAddr READ
    else if i2c.txRxState = .busyTx then i2c.executeAddrPhase i2c.slaveAddr WRITE
    else i2c
  else i2c

/-- Clearing the flag only reads `SR1` and `SR2`. -/
def checkAddr (temp2 : Bool) (sr1 sr2 : U32) (i2c : I2c) : I2c :=
  if temp2 && sr1.getLsbD i2cSr1Addr then
    if sr2.getLsbD i2cSr2Msl then
      if i2c.txRxState = .busyRx then
        if i2c.rxSize = 1 then { i2c with cr1 := i2c.cr1 &&& ~~~bit i2cCr1Ack } else i2c
      else i2c
    else i2c
  else i2c

def checkBtf (temp2 : Bool) (sr1 : U32) (i2c : I2c) : I2c :=
  if temp2 && sr1.getLsbD i2cSr1Btf then
    if i2c.txRxState = .busyTx then
      if sr1.getLsbD i2cSr1Txe then
        let i2c :=
          if i2c.txLen = 0 ∧ i2c.repeatedStart = i2cRsDisable then i2c.generateStop else i2c
        i2c.closeSend.eventCallback .txCmplt
      else i2c
    else i2c
  else i2c

def checkStopf (temp2 : Bool) (sr1 : U32) (i2c : I2c) : I2c :=
  if temp2 && sr1.getLsbD i2cSr1Stopf then i2c.eventCallback .stop else i2c

def checkTxe (bus : Bus) (temp1 temp2 : Bool) (sr1 sr2 : U32) (i2c : I2c) : I2c :=
  if temp1 && temp2 && sr1.getLsbD i2cSr1Txe then
    if sr2.getLsbD i2cSr2Msl then
      if i2c.txRxState = .busyTx then i2c.masterTxeHandler bus else i2c
    else if sr2.getLsbD i2cSr2Tra then i2c.eventCallback .dataReq
    else i2c
  else i2c

def checkRxne (bus : Bus) (temp1 temp2 : Bool) (sr1 sr2 : U32) (i2c : I2c) : I2c :=
  if temp1 && temp2 && sr1.getLsbD i2cSr1Rxne then
    if sr2.getLsbD i2cSr2Msl then
      if i2c.txRxState = .busyRx then i2c.masterRxneHandler bus else i2c
    else if sr2.getLsbD i2cSr2Tra = false then i2c.eventCallback .dataRec
    else i2c
  else i2c

def evIrqHandling (bus : Bus) (sr1 sr2 : U32) (i2c : I2c) : I2c :=
  let temp1 := i2c.cr2.getLsbD i2cCr2Itbufen
  let temp2 := i2c.cr2.getLsbD i2cCr2Itevten
  let i2c := i2c.checkSb temp2 sr1
  let i2c := i2c.checkAddr temp2 sr1 sr2
  let i2c := i2c.checkBtf temp2 sr1
  let i2c := i2c.checkStopf temp2 sr1
  let i2c := i2c.checkTxe bus temp1 temp2 sr1 sr2
  i2c.checkRxne bus temp1 temp2 sr1 sr2

end I2c

end KoRTOS.Hal
