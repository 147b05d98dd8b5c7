import Mos6502.Bus.Basic

/-!
# Memory

The memory holds one byte for every address, so that no access can fail. All ways of changing it
come down to single writes, and a memory is determined by what can be read from it (`ext_read`,
`read_write`, `read_blank`).
-/

namespace Mos6502

/-- The number of addresses. -/
abbrev addressSpace : Nat := 65536

/-- One byte for each address. -/
structure Memory where
  cells : Vector Byte addressSpace
  deriving DecidableEq

namespace Memory

/-- The memory with every byte zero. -/
def blank : Memory := ⟨Vector.replicate addressSpace 0⟩

/-- The byte at an address. -/
def read (memory : Memory) (address : Address) : Byte :=
  memory.cells[address.toFin]

/-- Replaces the byte at an address. -/
def write (memory : Memory) (address : Address) (byte : Byte) : Memory :=
  ⟨memory.cells.set address.toNat byte address.toNat_lt⟩

/-- Changes the byte at an address where it stands. -/
def modify (memory : Memory) (address : Address) (change : Byte → Byte) : Memory :=
  ⟨⟨memory.cells.toArray.modify address.toNat change, by simp⟩⟩

/-- A memory is indexed by its addresses, and none of them is out of range. -/
instance : GetElem Memory Address Byte fun _ _ => True where
  getElem memory address _ := memory.cells[address.toFin]

instance : ByteStore Memory where
  loadByte address memory := (memory.read address, memory)
  storeByte address byte memory := ((), memory.write address byte)

/-- The word at an address, low byte first. -/
def readWord (memory : Memory) (address : Address) : Word :=
  ((ByteStore.loadWord address).run memory).1

/-- Replaces the word at an address, low byte first. -/
def writeWord (memory : Memory) (address : Address) (word : Word) : Memory :=
  ((ByteStore.storeWord address word).run memory).2

/-- Writes a run of bytes at rising addresses; after the last address comes the first. -/
def load (memory : Memory) (address : Address) : List Byte → Memory
  | [] => memory
  | byte :: rest => (memory.write address byte).load (address + 1) rest

/-- The bytes from one index up to and without another. -/
def slice (memory : Memory) (start stop : Nat) : List Byte :=
  (List.range' start (stop - start)).map fun index => memory.read (.ofNat index)

/-- Writes one byte everywhere from one index up to and without another. -/
def fill (memory : Memory) (start stop : Nat) (byte : Byte) : Memory :=
  (List.range' start (stop - start)).foldl (fun memory index => memory.write (.ofNat index) byte)
    memory

/-- Every byte, by rising address. -/
def toArray (memory : Memory) : Array Byte := memory.cells.toArray

@[simp]
theorem read_blank (address : Address) : blank.read address = 0 := by
  simp [blank, read]

theorem read_write (memory : Memory) (address other : Address) (byte : Byte) :
    (memory.write address byte).read other =
      if address = other then byte else memory.read other := by
  simp [read, write, Vector.getElem_set, ← UInt16.toNat_inj]

@[simp]
theorem read_write_self (memory : Memory) (address : Address) (byte : Byte) :
    (memory.write address byte).read address = byte := by
  simp [read_write]

theorem read_write_of_ne (memory : Memory) {address other : Address} (byte : Byte)
    (distinct : address ≠ other) : (memory.write address byte).read other = memory.read other := by
  simp [read_write, distinct]

/-- A memory is what is read from it. -/
@[ext]
theorem ext_read {left right : Memory} (same : ∀ address, left.read address = right.read address) :
    left = right := by
  obtain ⟨leftCells⟩ := left
  obtain ⟨rightCells⟩ := right
  congr 1
  apply Vector.ext
  intro index bound
  have agree := same (UInt16.ofNatLT index bound)
  simpa only [read, Fin.getElem_fin, UInt16.toFin_ofNatLT] using agree

theorem readWord_eq (memory : Memory) (address : Address) :
    memory.readWord address =
      Word.ofBytes (memory.read address) (memory.read (address + 1)) := rfl

theorem writeWord_eq (memory : Memory) (address : Address) (word : Word) :
    memory.writeWord address word =
      (memory.write address (Word.low word)).write (address + 1) (Word.high word) := rfl

@[simp]
theorem read_writeWord_low (memory : Memory) (address : Address) (word : Word) :
    (memory.writeWord address word).read address = Word.low word := by
  have distinct : address + 1 ≠ address := by simp
  rw [writeWord_eq, read_write_of_ne _ _ distinct, read_write_self]

@[simp]
theorem read_writeWord_high (memory : Memory) (address : Address) (word : Word) :
    (memory.writeWord address word).read (address + 1) = Word.high word := by
  rw [writeWord_eq, read_write_self]

theorem read_writeWord_of_ne (memory : Memory) {address other : Address} (word : Word)
    (notLow : other ≠ address) (notHigh : other ≠ address + 1) :
    (memory.writeWord address word).read other = memory.read other := by
  rw [writeWord_eq, read_write_of_ne _ _ notHigh.symm, read_write_of_ne _ _ notLow.symm]

@[simp]
theorem writeWord_writeWord (memory : Memory) (address : Address) (first second : Word) :
    (memory.writeWord address first).writeWord address second =
      memory.writeWord address second := by
  apply ext_read
  intro other
  by_cases low : other = address
  · subst low
    rw [read_writeWord_low, read_writeWord_low]
  · by_cases high : other = address + 1
    · subst high
      rw [read_writeWord_high, read_writeWord_high]
    · rw [read_writeWord_of_ne _ _ low high, read_writeWord_of_ne _ _ low high,
        read_writeWord_of_ne _ _ low high]

@[simp]
theorem load_nil (memory : Memory) (address : Address) : memory.load address [] = memory := rfl

@[simp]
theorem load_cons (memory : Memory) (address : Address) (byte : Byte) (rest : List Byte) :
    memory.load address (byte :: rest) = (memory.write address byte).load (address + 1) rest := rfl

theorem load_append (memory : Memory) (address : Address) (first second : List Byte) :
    memory.load address (first ++ second) =
      (memory.load address first).load (address + .ofNat first.length) second := by
  induction first generalizing memory address with
  | nil => simp
  | cons byte rest ih => simp [ih, UInt16.ofNat_add, UInt16.add_assoc, UInt16.add_comm 1]

end Memory

end Mos6502
