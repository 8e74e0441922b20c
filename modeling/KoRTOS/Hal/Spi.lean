import KoRTOS.Hal.DataRegister
import KoRTOS.Library.RegisterBits

/-!
# The SPI driver: transfers

`SPI_send` and `SPI_receive`, which poll the flags, and `SPI_send_IT` and
`SPI_receive_IT` with `SPI_IRQ_handler`. As for the USART the flags in `SR` are
an input, and a read of `DR` that only clears a flag takes no word.
-/

namespace KoRTOS.Hal

open RegisterBits Countdown

def spiCr1Dff : Nat := 11

def spiCr2Errie : Nat := 5
def spiCr2Rxneie : Nat := 6
def spiCr2Txeie : Nat := 7

def spiSrRxne : Nat := 0
def spiSrTxe : Nat := 1
def spiSrOvr : Nat := 6

inductive SpiState where
  | ready
  | busyInRx
  | busyInTx
  deriving DecidableEq, Repr

inductive SpiEvent where
  | txCmplt
  | rxCmplt
  | ovrErr
  deriving DecidableEq, Repr

/-- The handle and the control registers, with what was done since the transfer started. -/
structure Spi where
  cr1 : U32
  cr2 : U32
  pRxBuffer : Nat
  pTxBuffer : Nat
  txLen : U32
  rxLen : U32
  rxState : SpiState
  txState : SpiState
  sent : Sent
  received : Received
  events : List SpiEvent

def spiGetFlagStatus (sr : U32) (flagBit : Nat) : U8 := (sr &&& bit flagBit).setWidth 8

section Polling

variable (cr1 : U32) (bus : Bus)

/-- One read of `SR` in `SPI_send`. -/
def spiSendRound (sr : U32) (cursor : Cursor 32 Sent) : Cursor 32 Sent ⊕ Sent :=
  let ⟨len, pTxBuffer, sent⟩ := cursor
  if 0 < len then
    if spiGetFlagStatus sr spiSrTxe = 0 then .inl cursor
    else if cr1 &&& bit spiCr1Dff ≠ 0 then
      .inl ⟨len - 2, pTxBuffer + 2, bus.sendHalfword 0xFFFF pTxBuffer sent⟩
    else .inl ⟨len - 1, pTxBuffer + 1, bus.sendByte 0xFF pTxBuffer sent⟩
  else .inr sent

def spiSend (pTxBuffer : Nat) (len : U32) (sr : Nat → U32) : Nat → Option Sent :=
  Rounds.loop (spiSendRound cr1 bus) sr ⟨len, pTxBuffer, {}⟩

def spiReceiveRound (sr : U32) (cursor : Cursor 32 Received) : Cursor 32 Received ⊕ Received :=
  let ⟨len, pRxBuffer, received⟩ := cursor
  if 0 < len then
    if spiGetFlagStatus sr spiSrRxne = 0 then .inl cursor
    else if cr1 &&& bit spiCr1Dff ≠ 0 then
      .inl ⟨len - 2, pRxBuffer + 2, bus.receiveHalfword 0xFFFF pRxBuffer received⟩
    else .inl ⟨len - 1, pRxBuffer + 1, bus.receiveByte 0xFF pRxBuffer received⟩
  else .inr received

def spiReceive (pRxBuffer : Nat) (len : U32) (sr : Nat → U32) : Nat → Option Received :=
  Rounds.loop (spiReceiveRound cr1 bus) sr ⟨len, pRxBuffer, {}⟩

end Polling

namespace Spi

def sendIt (spi : Spi) (pTxBuffer : Nat) (len : U32) : Spi × SpiState :=
  if spi.txState ≠ .busyInTx then
    ({ spi with
        pTxBuffer := pTxBuffer
        txLen := len
        txState := .busyInTx
        cr2 := spi.cr2 ||| bit spiCr2Txeie }, spi.txState)
  else (spi, spi.txState)

def receiveIt (spi : Spi) (pRxBuffer : Nat) (len : U32) : Spi × SpiState :=
  if spi.rxState ≠ .busyInRx then
    ({ spi with
        pRxBuffer := pRxBuffer
        rxLen := len
        rxState := .busyInRx
        cr2 := spi.cr2 ||| bit spiCr2Rxneie }, spi.rxState)
  else (spi, spi.rxState)

def eventCallback (spi : Spi) (event : SpiEvent) : Spi :=
  { spi with events := spi.events ++ [event] }

def closeTransmission (spi : Spi) : Spi :=
  { spi with
    cr2 := spi.cr2 &&& ~~~bit spiCr2Txeie
    pTxBuffer := NULL
    txLen := 0
    txState := .ready }

def closeReception (spi : Spi) : Spi :=
  { spi with
    cr2 := spi.cr2 &&& ~~~bit spiCr2Rxneie
    pRxBuffer := NULL
    rxLen := 0
    rxState := .ready }

def txeieHandle (bus : Bus) (spi : Spi) : Spi :=
  let spi :=
    if spi.cr1 &&& bit spiCr1Dff ≠ 0 then
      { spi with
        sent := bus.sendHalfword 0xFFFF spi.pTxBuffer spi.sent
        txLen := spi.txLen - 2
        pTxBuffer := spi.pTxBuffer + 2 }
    else
      { spi with
        sent := bus.sendByte 0xFF spi.pTxBuffer spi.sent
        txLen := spi.txLen - 1
        pTxBuffer := spi.pTxBuffer + 1 }
  if spi.txLen = 0 then spi.closeTransmission.eventCallback .txCmplt else spi

def rxneieHandle (bus : Bus) (spi : Spi) : Spi :=
  let spi :=
    if spi.cr1 &&& bit spiCr1Dff ≠ 0 then
      { spi with
        received := bus.receiveHalfword 0xFFFF spi.pRxBuffer spi.received
        rxLen := spi.rxLen - 2
        pRxBuffer := spi.pRxBuffer + 2 }
    else
      { spi with
        received := bus.receiveByte 0xFF spi.pRxBuffer spi.received
        rxLen := spi.rxLen - 1
        pRxBuffer := spi.pRxBuffer + 1 }
  if spi.rxLen = 0 then spi.closeReception.eventCallback .rxCmplt else spi

/-- Whether the flag is cleared depends on `Tx_state`, and shows only in later values of `SR`. -/
def ovrHandle (spi : Spi) : Spi := spi.eventCallback .ovrErr

def irqHandler (bus : Bus) (sr : U32) (spi : Spi) : Spi :=
  let spi :=
    if sr.getLsbD spiSrTxe && spi.cr2.getLsbD spiCr2Txeie then spi.txeieHandle bus else spi
  let spi :=
    if sr.getLsbD spiSrRxne && spi.cr2.getLsbD spiCr2Rxneie then spi.rxneieHandle bus else spi
  if sr.getLsbD spiSrOvr && spi.cr2.getLsbD spiCr2Errie then spi.ovrHandle else spi

end Spi

end KoRTOS.Hal
