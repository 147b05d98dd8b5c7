import Mos6502.Memory.Basic

/-!
# Program images

An image is a list of segments: runs of bytes, each with the address of its first byte. They are
loaded in order, so a later segment wins where two of them overlap.
-/

namespace Mos6502

/-- A run of bytes and where it goes. -/
structure Segment where
  address : Address
  bytes : List Byte
  deriving DecidableEq, Repr

/-- What is put into memory before a run. -/
structure Image where
  segments : List Segment
  deriving DecidableEq, Repr

/-- Writes the bytes of a segment into memory. -/
def Segment.loadInto (segment : Segment) (memory : Memory) : Memory :=
  memory.load segment.address segment.bytes

namespace Image

/-- Writes every segment into memory, in order. -/
def loadInto (image : Image) (memory : Memory) : Memory :=
  image.segments.foldl (fun memory segment => segment.loadInto memory) memory

instance : Append Image := ⟨fun first second => ⟨first.segments ++ second.segments⟩⟩

@[simp]
theorem segments_append (first second : Image) :
    (first ++ second).segments = first.segments ++ second.segments := rfl

/-- An image in two parts is loaded part by part. -/
theorem loadInto_append (first second : Image) (memory : Memory) :
    (first ++ second).loadInto memory = second.loadInto (first.loadInto memory) := by
  simp [loadInto, List.foldl_append]

end Image

end Mos6502
