import KoRTOS.Kernel.Types
import KoRTOS.Library.Countdown

/-!
# Buffers and the data register

What a driver does between a buffer and the data register of its peripheral, one
unit at a time. Addresses are numbers, and `NULL` is 0. Memory is little endian.
-/

namespace KoRTOS.Hal

abbrev U16 := BitVec 16

def NULL : Nat := 0

/-- What a driver finds: the bytes in memory, and the words that came in, in order. -/
structure Bus where
  memory : Nat → U8
  words : Nat → U32

def Bus.numbered : Bus := ⟨fun p => BitVec.ofNat 8 p, fun n => BitVec.ofNat 32 n⟩

/-- The addresses that were read, and the values that were written to `DR`. -/
structure Sent where
  loads : List Nat := []
  written : List U32 := []
  deriving DecidableEq, Repr

/-- The words that were taken from `DR`, and the bytes that were stored. -/
structure Received where
  taken : Nat := 0
  stores : List (Nat × U8) := []
  deriving DecidableEq, Repr

namespace Bus

variable (bus : Bus)

/-- `DR = *p & mask` -/
def sendByte (mask : U8) (p : Nat) (sent : Sent) : Sent :=
  ⟨sent.loads ++ [p], sent.written ++ [(bus.memory p &&& mask).setWidth 32]⟩

/-- `DR = *(uint16_t *)p & mask` -/
def sendHalfword (mask : U16) (p : Nat) (sent : Sent) : Sent :=
  ⟨sent.loads ++ [p, p + 1],
    sent.written ++ [((bus.memory (p + 1) ++ bus.memory p) &&& mask).setWidth 32]⟩

/-- `*p = DR & mask` -/
def receiveByte (mask : U8) (p : Nat) (received : Received) : Received :=
  ⟨received.taken + 1,
    received.stores ++ [(p, (bus.words received.taken).setWidth 8 &&& mask)]⟩

/-- `*(uint16_t *)p = DR & mask` -/
def receiveHalfword (mask : U16) (p : Nat) (received : Received) : Received :=
  let data := (bus.words received.taken).setWidth 16 &&& mask
  ⟨received.taken + 1,
    received.stores ++ [(p, data.setWidth 8), (p + 1, (data >>> 8).setWidth 8)]⟩

variable {bus} {a p : Nat} {sent : Sent} {received : Received}

theorem mem_loads_sendByte {mask : U8} :
    a ∈ (bus.sendByte mask p sent).loads ↔ a ∈ sent.loads ∨ a = p := by
  simp [sendByte]

theorem mem_loads_sendHalfword {mask : U16} :
    a ∈ (bus.sendHalfword mask p sent).loads ↔ a ∈ sent.loads ∨ a = p ∨ a = p + 1 := by
  simp [sendHalfword]

theorem mem_stores_receiveByte {mask : U8} :
    a ∈ (bus.receiveByte mask p received).stores.map Prod.fst ↔
      a ∈ received.stores.map Prod.fst ∨ a = p := by
  simp [receiveByte]

theorem mem_stores_receiveHalfword {mask : U16} :
    a ∈ (bus.receiveHalfword mask p received).stores.map Prod.fst ↔
      a ∈ received.stores.map Prod.fst ∨ a = p ∨ a = p + 1 := by
  simp [receiveHalfword]

end Bus

end KoRTOS.Hal
