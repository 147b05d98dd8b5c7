import Mos6502.Processor
import Mos6502.Text.FixedWidth

/-!
# What a dump tells

Every part of a dump has columns of its own: labels and numerals have fixed widths, and a flag that
is clear still takes its column. So the registers and the flags are read back by column
(`Processor.readDump_dump`), and two processors have the same dump exactly if they differ at most in
their running totals (`Processor.dump_eq_iff`).
-/

namespace Mos6502

/-- The flags whose letters stand in their columns. -/
def Status.ofColumns (shown : List Char) : Status :=
  ofFlags fun flag => (some flag, flag.letter) ∈ columns.zip shown

theorem Status.ofColumns_columnChar (status : Status) :
    ofColumns (columns.map status.columnChar) = status := by
  apply ext_get
  intro flag
  cases flag <;> simp [ofColumns, columns, columnChar, Flag.letter]

namespace Processor

open Text (field)

/-- Reads the registers and flags from their columns. The running total is not among them. -/
def readDump (line : List Char) : Option Processor := do
  let pc ← Text.Hex.value? (field 3 4 line)
  let sp ← Text.Hex.value? (field 11 4 line)
  let a ← Text.Hex.value? (field 18 2 line)
  let x ← Text.Hex.value? (field 23 2 line)
  let y ← Text.Hex.value? (field 28 2 line)
  return {
    a := .ofNat a
    x := .ofNat x
    y := .ofNat y
    pc := .ofNat pc
    sp := .ofNat sp
    status := .ofColumns (field 33 8 line)
    cycles := 0 }

/-- A line shows every register and flag of a processor, each in its own columns. -/
structure Displays (line : List Char) (processor : Processor) : Prop where
  length : line.length = 41
  pc : field 3 4 line = Text.Hex.digits .upper 4 processor.pc.toNat
  sp : field 11 4 line = Text.Hex.digits .upper 4 processor.sp.toNat
  a : field 18 2 line = Text.Hex.digits .upper 2 processor.a.toNat
  x : field 23 2 line = Text.Hex.digits .upper 2 processor.x.toNat
  y : field 28 2 line = Text.Hex.digits .upper 2 processor.y.toNat
  status : field 33 8 line = Status.columns.map processor.status.columnChar

theorem toList_dump (processor : Processor) :
    processor.dump.toList =
      "PC=".toList ++ (Text.Hex.digits .upper 4 processor.pc.toNat ++
        (" SP=".toList ++ (Text.Hex.digits .upper 4 processor.sp.toNat ++
          (" A=".toList ++ (Text.Hex.digits .upper 2 processor.a.toNat ++
            (" X=".toList ++ (Text.Hex.digits .upper 2 processor.x.toNat ++
              (" Y=".toList ++ (Text.Hex.digits .upper 2 processor.y.toNat ++
                (" P=".toList ++ Status.columns.map processor.status.columnChar)))))))))) := by
  unfold dump
  simp [Text.Hex.upper, Status.display]

theorem displays_dump (processor : Processor) : Displays processor.dump.toList processor := by
  have flags : (Status.columns.map processor.status.columnChar).length = 8 := by
    simp [Status.columns]
  rw [toList_dump]
  constructor <;> simp [flags]

theorem readDump_dump (processor : Processor) :
    readDump processor.dump.toList = some { processor with cycles := 0 } := by
  have displays := processor.displays_dump
  have word (value : Word) :
      Text.Hex.value? (Text.Hex.digits .upper 4 value.toNat) = some value.toNat :=
    Text.Hex.value?_digits .upper (by decide) value.toNat_lt
  have byte (value : Byte) :
      Text.Hex.value? (Text.Hex.digits .upper 2 value.toNat) = some value.toNat :=
    Text.Hex.value?_digits .upper (by decide) value.toNat_lt
  simp [readDump, displays.pc, displays.sp, displays.a, displays.x, displays.y, displays.status,
    word, byte, Status.ofColumns_columnChar]

/-- Two processors have the same dump exactly if they agree in all but their running totals. A dump
has 41 characters, and everything in it can be read back by column. -/
theorem dump_eq_iff (left right : Processor) :
    (left.dump = right.dump ↔
      left.pc = right.pc ∧ left.sp = right.sp ∧ left.a = right.a ∧ left.x = right.x ∧
        left.y = right.y ∧ ∀ flag, left.status.get flag = right.status.get flag) ∧
      left.dump.length = 41 ∧
      readDump left.dump.toList = some { left with cycles := 0 } := by
  refine ⟨⟨?_, ?_⟩, ?_, left.readDump_dump⟩
  · intro same
    have read := left.readDump_dump
    rw [same, readDump_dump, Option.some.injEq, mk.injEq] at read
    rcases read with ⟨a, x, y, pc, sp, status, _⟩
    exact ⟨pc.symm, sp.symm, a.symm, x.symm, y.symm, fun flag => by rw [status]⟩
  · rintro ⟨pc, sp, a, x, y, status⟩
    unfold dump
    rw [pc, sp, a, x, y, Status.ext_get status]
  · rw [← String.length_toList, left.displays_dump.length]

example : readDump "PC=4244 SP=0100 A=64 X=00 Y=00 P=N------C".toList =
    some { Processor.initial with
      a := 0x64
      pc := 0x4244
      status := .union (.single .negative) (.single .carry) } := by
  rfl

end Processor

end Mos6502
