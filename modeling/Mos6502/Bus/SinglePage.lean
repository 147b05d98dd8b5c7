import Mos6502.Bus.Basic

/-!
# A store of one page

One page of cells answers at every page of the address space, because only the low byte of an
address is decoded. So two addresses may select the same cell (`read_write`).
-/

namespace Mos6502

/-- A page of 256 bytes that is seen again in every page. -/
structure SinglePage where
  cells : Vector Byte 256
  deriving DecidableEq

namespace SinglePage

/-- The page with every byte zero. -/
def blank : SinglePage := ⟨Vector.replicate 256 0⟩

/-- The byte seen at an address. -/
def read (page : SinglePage) (address : Address) : Byte :=
  page.cells[(Word.low address).toFin]

/-- Replaces the byte seen at an address. -/
def write (page : SinglePage) (address : Address) (byte : Byte) : SinglePage :=
  ⟨page.cells.set (Word.low address).toNat byte (Word.low address).toNat_lt⟩

instance : ByteStore SinglePage where
  loadByte address page := (page.read address, page)
  storeByte address byte page := ((), page.write address byte)

/-- A write is seen at every address with the same low byte. -/
theorem read_write (page : SinglePage) (address other : Address) (byte : Byte) :
    (page.write address byte).read other =
      if Word.low address = Word.low other then byte else page.read other := by
  simp [read, write, Vector.getElem_set, ← UInt8.toNat_inj]

end SinglePage

end Mos6502
