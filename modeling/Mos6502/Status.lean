import Mos6502.Word

/-!
# The processor status

Seven flags describe the processor. They share a byte, in which bit 5 belongs to no flag: a status
is read from any byte by leaving that bit out, and its own byte never has it (`ofByte_toByte`,
`toByte_ofByte`). Sets of flags combine flag by flag.
-/

namespace Mos6502

/-- The flags, from the lowest bit of the status byte to the highest. -/
inductive Flag where
  | carry
  | zero
  | interruptDisable
  | decimalMode
  | breakCommand
  | overflow
  | negative
  deriving DecidableEq, Repr

namespace Flag

/-- Every flag, by rising bit. -/
def all : List Flag :=
  [carry, zero, interruptDisable, decimalMode, breakCommand, overflow, negative]

/-- The bit of the status byte that holds the flag. -/
def mask : Flag → Byte
  | carry => 0x01
  | zero => 0x02
  | interruptDisable => 0x04
  | decimalMode => 0x08
  | breakCommand => 0x10
  | overflow => 0x40
  | negative => 0x80

/-- The name of the flag in a listing. -/
def name : Flag → String
  | carry => "CARRY"
  | zero => "ZERO"
  | interruptDisable => "IRQ"
  | decimalMode => "DECIMAL"
  | breakCommand => "BREAK"
  | overflow => "OVERFLOW"
  | negative => "NEGATIVE"

/-- The letter that shows the flag in its column. -/
def letter : Flag → Char
  | carry => 'C'
  | zero => 'Z'
  | interruptDisable => 'I'
  | decimalMode => 'D'
  | breakCommand => 'B'
  | overflow => 'V'
  | negative => 'N'

end Flag

/-- The value of each flag. -/
structure Status where
  carry : Bool
  zero : Bool
  interruptDisable : Bool
  decimalMode : Bool
  breakCommand : Bool
  overflow : Bool
  negative : Bool
  deriving DecidableEq, Repr

namespace Status

/-- The status with the given value of each flag. -/
def ofFlags (value : Flag → Bool) : Status where
  carry := value .carry
  zero := value .zero
  interruptDisable := value .interruptDisable
  decimalMode := value .decimalMode
  breakCommand := value .breakCommand
  overflow := value .overflow
  negative := value .negative

/-- The value of one flag. -/
def get (status : Status) : Flag → Bool
  | .carry => status.carry
  | .zero => status.zero
  | .interruptDisable => status.interruptDisable
  | .decimalMode => status.decimalMode
  | .breakCommand => status.breakCommand
  | .overflow => status.overflow
  | .negative => status.negative

/-- No flag set. -/
def none : Status := ofFlags fun _ => false

/-- Every flag set. -/
def all : Status := ofFlags fun _ => true

/-- One flag set. -/
def single (flag : Flag) : Status := ofFlags fun other => other = flag

/-- The flags set in either status. -/
def union (left right : Status) : Status := ofFlags fun flag => left.get flag || right.get flag

/-- The flags set in both. -/
def inter (left right : Status) : Status := ofFlags fun flag => left.get flag && right.get flag

/-- The flags set in exactly one of the two. -/
def symmDiff (left right : Status) : Status := ofFlags fun flag => left.get flag ^^ right.get flag

/-- The flags set in the first and not in the second. -/
def diff (left right : Status) : Status := ofFlags fun flag => left.get flag && !right.get flag

/-- The flags that are clear. -/
def complement (status : Status) : Status := ofFlags fun flag => !status.get flag

/-- The status after giving every flag of `chosen` one value. -/
def assign (status chosen : Status) (value : Bool) : Status :=
  if value then status.union chosen else status.diff chosen

/-- Whether every flag of `chosen` is set. -/
def contains (status chosen : Status) : Bool :=
  Flag.all.all fun flag => !chosen.get flag || status.get flag

/-- Whether some flag is set in both. -/
def intersects (left right : Status) : Bool :=
  Flag.all.any fun flag => left.get flag && right.get flag

/-- The flags that are set, by rising bit. -/
def toList (status : Status) : List Flag := Flag.all.filter status.get

/-- The status byte; bit 5 is clear. -/
def toByte (status : Status) : Byte := status.toList.foldl (fun byte flag => byte ||| flag.mask) 0

/-- The flags of a status byte, whatever its bit 5 holds. -/
def ofByte (byte : Byte) : Status := ofFlags fun flag => byte &&& flag.mask ≠ 0

/-- The flags of a status byte that has no bit outside them. -/
def ofByte? (byte : Byte) : Option Status :=
  if (ofByte byte).toByte = byte then some (ofByte byte) else Option.none

/-- The columns of a status, from the highest bit to the lowest; one belongs to no flag. -/
def columns : List (Option Flag) :=
  [some .negative, some .overflow, Option.none, some .breakCommand, some .decimalMode,
    some .interruptDisable, some .zero, some .carry]

/-- The character in one column: the letter of a set flag, else a dash. -/
def columnChar (status : Status) : Option Flag → Char
  | some flag => if status.get flag then flag.letter else '-'
  | Option.none => '-'

/-- The eight columns as text. -/
def display (status : Status) : String := String.ofList (columns.map status.columnChar)

/-- The names of the set flags. -/
def listing (status : Status) : String :=
  if status.toList.isEmpty then "(empty)" else " | ".intercalate (status.toList.map Flag.name)

@[ext]
theorem ext_get {left right : Status} (same : ∀ flag, left.get flag = right.get flag) :
    left = right := by
  cases left
  cases right
  simp only [mk.injEq]
  exact ⟨same .carry, same .zero, same .interruptDisable, same .decimalMode, same .breakCommand,
    same .overflow, same .negative⟩

@[simp]
theorem get_ofFlags (value : Flag → Bool) (flag : Flag) :
    (ofFlags value).get flag = value flag := by
  cases flag <;> rfl

/-- A status is what its byte says. -/
@[simp]
theorem ofByte_toByte (status : Status) : ofByte status.toByte = status := by
  obtain ⟨carry, zero, interruptDisable, decimalMode, breakCommand, overflow, negative⟩ := status
  revert carry zero interruptDisable decimalMode breakCommand overflow negative
  decide +kernel

/-- Reading a byte loses bit 5 and nothing else. -/
theorem toByte_ofByte (byte : Byte) : (ofByte byte).toByte = byte &&& 0xDF := by
  have checked : ∀ value : Fin 256, (ofByte (UInt8.ofNat value)).toByte =
      UInt8.ofNat value &&& 0xDF := by
    decide +kernel
  simpa using checked ⟨byte.toNat, byte.toNat_lt⟩

/-- No status has the bit that belongs to no flag. -/
theorem toByte_and_unused (status : Status) : status.toByte &&& 0x20 = 0 := by
  have restored := toByte_ofByte status.toByte
  rw [ofByte_toByte] at restored
  rw [restored, UInt8.and_assoc]
  exact UInt8.and_zero

end Status

end Mos6502
