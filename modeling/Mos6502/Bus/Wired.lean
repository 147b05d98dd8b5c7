import Mos6502.Bus.Basic

/-!
# Wired stores

Each address is wired to one of some cells. Where two addresses are wired to the same cell, what is
written at one of them is read at the other (`read_write`).
-/

namespace Mos6502

/-- A byte for each of the cells that a wiring of the addresses leads to. -/
structure Wired {Cell : Type} (wiring : Address → Cell) where
  cells : Cell → Byte

namespace Wired

variable {Cell : Type} {wiring : Address → Cell}

/-- The store with every byte zero. -/
def blank (wiring : Address → Cell) : Wired wiring := ⟨fun _ => 0⟩

/-- The byte seen at an address. -/
def read (store : Wired wiring) (address : Address) : Byte := store.cells (wiring address)

variable [DecidableEq Cell]

/-- Replaces the byte seen at an address. -/
def write (store : Wired wiring) (address : Address) (byte : Byte) : Wired wiring :=
  ⟨fun cell => if wiring address = cell then byte else store.cells cell⟩

instance : ByteStore (Wired wiring) where
  loadByte address store := (store.read address, store)
  storeByte address byte store := ((), store.write address byte)

/-- A write is seen at every address with the same cell. -/
theorem read_write (store : Wired wiring) (address other : Address) (byte : Byte) :
    (store.write address byte).read other =
      if wiring address = wiring other then byte else store.read other := rfl

end Wired

end Mos6502
