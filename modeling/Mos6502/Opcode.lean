import Mos6502.Word

/-!
# Opcodes

The first byte of an instruction selects an operation and the way its operand is found. Four bytes
are opcodes; every other byte is unknown. An opcode and its byte determine each other
(`ofByte?_eq_some_iff`).
-/

namespace Mos6502

/-- The ways of finding an operand. -/
inductive AddressingMode where
  /-- The operand is the byte after the opcode. -/
  | immediate
  /-- The byte after the opcode is an address in page zero. -/
  | zeroPage
  /-- The byte after the opcode, plus the X register, is an address in page zero. -/
  | zeroPageX
  /-- The two bytes after the opcode are an address. -/
  | absolute
  deriving DecidableEq, Repr

/-- The instructions that the processor executes. -/
inductive Opcode where
  | ldaImmediate
  | ldaZeroPage
  | ldaZeroPageX
  | jsr
  deriving DecidableEq, Repr

namespace Opcode

/-- Every opcode. -/
def all : List Opcode := [ldaImmediate, ldaZeroPage, ldaZeroPageX, jsr]

/-- The byte that encodes the opcode. -/
def toByte : Opcode → Byte
  | ldaImmediate => 0xA9
  | ldaZeroPage => 0xA5
  | ldaZeroPageX => 0xB5
  | jsr => 0x20

/-- The opcode that a byte encodes. -/
def ofByte? (byte : Byte) : Option Opcode := all.find? fun opcode => opcode.toByte = byte

/-- The name of the operation. -/
def mnemonic : Opcode → String
  | ldaImmediate | ldaZeroPage | ldaZeroPageX => "LDA"
  | jsr => "JSR"

/-- How the operand is found. -/
def mode : Opcode → AddressingMode
  | ldaImmediate => .immediate
  | ldaZeroPage => .zeroPage
  | ldaZeroPageX => .zeroPageX
  | jsr => .absolute

/-- The cycles that the instruction takes, the fetch of the opcode included. -/
def cycles : Opcode → Nat
  | ldaImmediate => 2
  | ldaZeroPage => 3
  | ldaZeroPageX => 4
  | jsr => 6

@[simp]
theorem ofByte?_toByte (opcode : Opcode) : ofByte? opcode.toByte = some opcode := by
  cases opcode <;> decide

theorem ofByte?_eq_some_iff {byte : Byte} {opcode : Opcode} :
    ofByte? byte = some opcode ↔ opcode.toByte = byte := by
  constructor
  · intro found
    simpa using List.find?_some found
  · rintro rfl
    exact ofByte?_toByte opcode

theorem ofByte?_eq_none_iff {byte : Byte} :
    ofByte? byte = none ↔ byte ∉ ([0xA9, 0xA5, 0xB5, 0x20] : List Byte) := by
  have table : ([0xA9, 0xA5, 0xB5, 0x20] : List Byte) = all.map toByte := rfl
  rw [table, ofByte?, List.find?_eq_none]
  simp

end Opcode

end Mos6502
