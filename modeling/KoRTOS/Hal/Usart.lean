import KoRTOS.Hal.DataRegister
import KoRTOS.Library.RegisterBits

/-!
# The USART driver: transfers

`USART_send` and `USART_receive`, which poll the flags, and `USART_send_IT` and
`USART_receive_IT` with `USART_IRQ_handling`. The flags in `SR` are set and
cleared by the hardware: the polling calls read it once a round, and an
invocation of the handler sees one value, of which it tests every flag once. An
access that clears a flag may hit a word that came in meanwhile.
-/

namespace KoRTOS.Hal

open RegisterBits Countdown

def usartWordLen9Bits : U8 := 1
def usartParityDisable : U8 := 0

def usartSrFe : Nat := 1
def usartSrNf : Nat := 2
def usartSrOre : Nat := 3
def usartSrIdle : Nat := 4
def usartSrRxne : Nat := 5
def usartSrTc : Nat := 6
def usartSrTxe : Nat := 7
def usartSrCts : Nat := 9

def usartCr1Idleie : Nat := 4
def usartCr1Rxneie : Nat := 5
def usartCr1Tcie : Nat := 6
def usartCr1Txeie : Nat := 7

def usartCr3Eie : Nat := 0
def usartCr3Ctse : Nat := 9
def usartCr3Ctsie : Nat := 10

inductive UsartState where
  | ready
  | busyTx
  | busyRx
  deriving DecidableEq, Repr

inductive UsartEvent where
  | txCmplt
  | rxCmplt
  | cts
  | idle
  | ore
  | nf
  | fe
  deriving DecidableEq, Repr

def usartGetFlagStatus (sr : U32) (flagBit : Nat) : U8 := (sr >>> flagBit &&& 1).setWidth 8

/-- What the transfers depend on. -/
structure UsartConfig where
  wordLen : U8
  parity : U8

/-- What an invocation of the handler finds: the flags, and whether the accesses that clear the
flag of an event, a write to `SR` or a read of `DR`, take a word that came in meanwhile. -/
structure UsartVisit where
  sr : U32
  takes : UsartEvent → Bool

/-- The handle and the control registers, with what was done since the transfer started. -/
structure Usart where
  config : UsartConfig
  cr1 : U32
  cr3 : U32
  pTxBuffer : Nat
  pRxBuffer : Nat
  txLen : U32
  rxLen : U32
  txState : UsartState
  rxState : UsartState
  sent : Sent
  received : Received
  events : List UsartEvent

section Polling

variable (config : UsartConfig) (bus : Bus)

def usartSendRound (len sr : U32) (cursor : Cursor 32 Sent) : Cursor 32 Sent ⊕ Sent :=
  let ⟨i, pTxBuffer, sent⟩ := cursor
  if i < len then
    if usartGetFlagStatus sr usartSrTxe = 0 then .inl cursor
    else if config.wordLen = usartWordLen9Bits then
      if config.parity = usartParityDisable then
        .inl ⟨i + 1, pTxBuffer + 2, bus.sendHalfword 0x01FF pTxBuffer sent⟩
      else .inl ⟨i + 1, pTxBuffer + 1, bus.sendByte 0xFF pTxBuffer sent⟩
    else if config.parity = usartParityDisable then
      .inl ⟨i + 1, pTxBuffer + 1, bus.sendByte 0xFF pTxBuffer sent⟩
    else .inl ⟨i + 1, pTxBuffer + 1, bus.sendByte 0x7F pTxBuffer sent⟩
  else if usartGetFlagStatus sr usartSrTc = 0 then .inl cursor
  else .inr sent

def usartSend (pTxBuffer : Nat) (len : U32) (sr : Nat → U32) : Nat → Option Sent :=
  Rounds.loop (usartSendRound config bus len) sr ⟨0, pTxBuffer, {}⟩

def usartReceiveRound (len sr : U32) (cursor : Cursor 32 Received) : Cursor 32 Received ⊕ Received :=
  let ⟨i, pRxBuffer, received⟩ := cursor
  if i < len then
    if usartGetFlagStatus sr usartSrRxne = 0 then .inl cursor
    else if config.wordLen = usartWordLen9Bits then
      if config.parity = usartParityDisable then
        .inl ⟨i + 1, pRxBuffer + 2, bus.receiveHalfword 0x01FF pRxBuffer received⟩
      else .inl ⟨i + 1, pRxBuffer + 1, bus.receiveByte 0xFF pRxBuffer received⟩
    else if config.parity = usartParityDisable then
      .inl ⟨i + 1, pRxBuffer + 1, bus.receiveByte 0xFF pRxBuffer received⟩
    else .inl ⟨i + 1, pRxBuffer + 1, bus.receiveByte 0x7F pRxBuffer received⟩
  else .inr received

def usartReceive (pRxBuffer : Nat) (len : U32) (sr : Nat → U32) : Nat → Option Received :=
  Rounds.loop (usartReceiveRound config bus len) sr ⟨0, pRxBuffer, {}⟩

end Polling

namespace Usart

/-- No invocation of the handler begins between the load and the store of a `CR1 |=`. -/
def sendIt (usart : Usart) (pTxBuffer : Nat) (len : U32) : Usart × UsartState :=
  if usart.txState = .ready then
    ({ usart with
        pTxBuffer := pTxBuffer
        txLen := len
        txState := .busyTx
        cr1 := usart.cr1 ||| bit usartCr1Txeie ||| bit usartCr1Tcie }, usart.txState)
  else (usart, usart.txState)

def receiveIt (usart : Usart) (pRxBuffer : Nat) (len : U32) : Usart × UsartState :=
  if usart.rxState = .ready then
    ({ usart with
        pRxBuffer := pRxBuffer
        rxLen := len
        rxState := .busyRx
        cr1 := usart.cr1 ||| bit usartCr1Rxneie }, usart.rxState)
  else (usart, usart.rxState)

def eventCallback (usart : Usart) (event : UsartEvent) : Usart :=
  { usart with events := usart.events ++ [event] }

def closeTransmission (usart : Usart) : Usart :=
  { usart with
    cr1 := usart.cr1 &&& ~~~bit usartCr1Tcie
    txState := .ready
    pTxBuffer := NULL
    txLen := 0 }

/-- A word that is hit is gone. -/
def clearFlag (visit : UsartVisit) (event : UsartEvent) (usart : Usart) : Usart :=
  if visit.takes event then
    { usart with received := { usart.received with taken := usart.received.taken + 1 } }
  else usart

def checkTc (visit : UsartVisit) (usart : Usart) : Usart :=
  if visit.sr.getLsbD usartSrTc && usart.cr1.getLsbD usartCr1Tcie then
    if usart.txState = .busyTx ∧ usart.txLen = 0 then
      (usart.clearFlag visit .txCmplt).closeTransmission.eventCallback .txCmplt
    else usart
  else usart

/-- What the handler does with `Tx_len > 0`. -/
def sendNext (bus : Bus) (usart : Usart) : Usart :=
  if usart.config.wordLen = usartWordLen9Bits then
    if usart.config.parity = usartParityDisable then
      { usart with
        sent := bus.sendHalfword 0x01FF usart.pTxBuffer usart.sent
        pTxBuffer := usart.pTxBuffer + 2
        txLen := usart.txLen - 2 }
    else
      { usart with
        sent := bus.sendByte 0xFF usart.pTxBuffer usart.sent
        pTxBuffer := usart.pTxBuffer + 1
        txLen := usart.txLen - 1 }
  else if usart.config.parity = usartParityDisable then
    { usart with
      sent := bus.sendByte 0xFF usart.pTxBuffer usart.sent
      pTxBuffer := usart.pTxBuffer + 1
      txLen := usart.txLen - 1 }
  else
    { usart with
      sent := bus.sendByte 0x7F usart.pTxBuffer usart.sent
      pTxBuffer := usart.pTxBuffer + 1
      txLen := usart.txLen - 1 }

def disableTxeie (usart : Usart) : Usart :=
  { usart with cr1 := usart.cr1 &&& ~~~bit usartCr1Txeie }

def checkTxe (bus : Bus) (sr : U32) (usart : Usart) : Usart :=
  if sr.getLsbD usartSrTxe && usart.cr1.getLsbD usartCr1Txeie then
    if usart.txState = .busyTx then
      let usart := if 0 < usart.txLen then usart.sendNext bus else usart
      if usart.txLen = 0 then usart.disableTxeie else usart
    else usart
  else usart

def receiveNext (bus : Bus) (usart : Usart) : Usart :=
  if usart.config.wordLen = usartWordLen9Bits then
    if usart.config.parity = usartParityDisable then
      { usart with
        received := bus.receiveHalfword 0x01FF usart.pRxBuffer usart.received
        pRxBuffer := usart.pRxBuffer + 2
        rxLen := usart.rxLen - 2 }
    else
      { usart with
        received := bus.receiveByte 0xFF usart.pRxBuffer usart.received
        pRxBuffer := usart.pRxBuffer + 1
        rxLen := usart.rxLen - 1 }
  else if usart.config.parity = usartParityDisable then
    { usart with
      received := bus.receiveByte 0xFF usart.pRxBuffer usart.received
      pRxBuffer := usart.pRxBuffer + 1
      rxLen := usart.rxLen - 1 }
  else
    { usart with
      received := bus.receiveByte 0x7F usart.pRxBuffer usart.received
      pRxBuffer := usart.pRxBuffer + 1
      rxLen := usart.rxLen - 1 }

def closeReception (usart : Usart) : Usart :=
  { usart with
    cr1 := usart.cr1 &&& ~~~bit usartCr1Rxneie
    rxState := .ready }

def checkRxne (bus : Bus) (sr : U32) (usart : Usart) : Usart :=
  if sr.getLsbD usartSrRxne && usart.cr1.getLsbD usartCr1Rxneie then
    if usart.rxState = .busyRx then
      if 0 < usart.rxLen then
        let usart := usart.receiveNext bus
        if usart.rxLen = 0 then usart.closeReception.eventCallback .rxCmplt else usart
      else usart
    else usart
  else usart

def notifyIf (visit : UsartVisit) (usart : Usart) (condition : Bool) (event : UsartEvent) : Usart :=
  if condition then (usart.clearFlag visit event).eventCallback event else usart

/-- The CTS, IDLE and ORE flags and the errors, which are cleared and reported. -/
def checkErrors (visit : UsartVisit) (usart : Usart) : Usart :=
  let sr := visit.sr
  let usart := notifyIf visit usart (sr.getLsbD usartSrCts && usart.cr3.getLsbD usartCr3Ctse &&
    usart.cr3.getLsbD usartCr3Ctsie) .cts
  let usart := notifyIf visit usart (sr.getLsbD usartSrIdle && usart.cr1.getLsbD usartCr1Idleie)
    .idle
  let usart := notifyIf visit usart (sr.getLsbD usartSrOre && usart.cr1.getLsbD usartCr1Rxneie)
    .ore
  if usart.cr3.getLsbD usartCr3Eie then
    if sr.getLsbD usartSrNf then (usart.clearFlag visit .nf).eventCallback .nf
    else notifyIf visit usart (sr.getLsbD usartSrFe) .fe
  else usart

def irqHandling (bus : Bus) (visit : UsartVisit) (usart : Usart) : Usart :=
  checkErrors visit (checkRxne bus visit.sr (checkTxe bus visit.sr (checkTc visit usart)))

end Usart

end KoRTOS.Hal
