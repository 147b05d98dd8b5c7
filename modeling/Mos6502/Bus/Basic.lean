import Mos6502.Word

/-!
# Byte stores

A byte store is whatever answers on the bus: it takes an address and gives or takes a byte. A load
is a state change like a store, because a device may notice that it was read. Words are moved as
two bytes, the low one first, for every store alike.
-/

namespace Mos6502

/-- Something on the bus that can be read and written byte by byte. -/
class ByteStore (σ : Type) where
  loadByte : Address → StateM σ Byte
  storeByte : Address → Byte → StateM σ Unit

namespace ByteStore

variable {σ : Type} [ByteStore σ]

/-- Reads the word at an address, low byte first. -/
def loadWord (address : Address) : StateM σ Word := do
  let low ← loadByte address
  let high ← loadByte (address + 1)
  return Word.ofBytes low high

/-- Writes the word at an address, low byte first. -/
def storeWord (address : Address) (word : Word) : StateM σ Unit := do
  storeByte address (Word.low word)
  storeByte (address + 1) (Word.high word)

end ByteStore

end Mos6502
