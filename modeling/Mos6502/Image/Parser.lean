import Mos6502.Image.Basic
import Mos6502.Image.Error
import Mos6502.Text.Line
import Mos6502.Text.WhiteSpace
import Mos6502.Text.Words

/-!
# Reading images

An image is written line by line: an address, a colon, and the bytes from that address on, all in
hexadecimal. A comment runs from a semicolon or a number sign to the end of its line. A line that is
empty without its comment says nothing. Around the colon and between the bytes stand blanks, which
are spaces and tabs; at the two ends of the line any white space is passed over.

The first line that is neither empty nor a segment decides the error (`parseLines_cons`).
-/

namespace Mos6502.Image

/-- Whether a comment starts with the character. -/
def startsComment (character : Char) : Bool := character = ';' || character = '#'

/-- The part of a line that is read: no comment, and no white space at its ends. -/
def content (line : List Char) : List Char :=
  Text.trim (line.takeWhile fun character => !startsComment character)

/-- The number that a word writes in a limited count of hexadecimal digits. -/
def number? (limit : Nat) (word : List Char) : Option Nat :=
  if word.length ≤ limit then Text.Hex.value? word else none

/-- The address that a word writes in at most four digits. -/
def address? (word : List Char) : Option Address := (number? 4 word).map UInt16.ofNat

/-- The byte that a word writes in at most two digits. -/
def byte? (word : List Char) : Option Byte := (number? 2 word).map UInt8.ofNat

/-- The segment that a text writes: one address, a colon, and at least one byte. -/
def segment? (text : List Char) : Option Segment :=
  match Text.words (text.takeWhile (· ≠ ':')), text.dropWhile (· ≠ ':') with
  | [front], _ :: back => do
    let address ← address? front
    let bytes ← (Text.words back).mapM byte?
    if bytes.isEmpty then none else some ⟨address, bytes⟩
  | _, _ => none

/-- What the line with a given number adds to the image. -/
def readLine (number : Nat) (line : List Char) : Except ImageError (Option Segment) :=
  if (content line).isEmpty then .ok none
  else match segment? (content line) with
    | some segment => .ok (some segment)
    | none => .error (.malformed number (String.ofList line))

/-- The image on consecutive lines, the first of which has a given number. -/
def parseLines (number : Nat) (lines : List (List Char)) : Except ImageError Image := do
  let found ← (lines.zipIdx number).mapM fun (line, number) => readLine number line
  return ⟨found.reduceOption⟩

/-- The image that a text writes. -/
def parse (text : String) : Except ImageError Image := parseLines 1 (Text.lines text.toList)

/-- The image in the bytes of a file. -/
def decode (bytes : ByteArray) : Except ImageError Image :=
  match String.fromUTF8? bytes with
  | some text => parse text
  | none => .error .notUnicode

/-- The image in a file, if the file can be read. -/
def ofFile : Except SystemError ByteArray → Except ImageError Image
  | .ok bytes => decode bytes
  | .error cause => .error (.unreadable cause)

/-- A line that cannot be read decides the answer; else the lines after it do. -/
theorem parseLines_cons (number : Nat) (line : List Char) (rest : List (List Char)) :
    parseLines number (line :: rest) =
      match readLine number line with
      | .error fault => .error fault
      | .ok found =>
        (parseLines (number + 1) rest).map fun image => ⟨found.toList ++ image.segments⟩ := by
  simp only [parseLines, List.zipIdx_cons, List.mapM_cons]
  cases readLine number line with
  | error fault => rfl
  | ok found =>
    cases (rest.zipIdx (number + 1)).mapM fun (line, number) => readLine number line with
    | error fault => rfl
    | ok later =>
      cases found <;> rfl

end Mos6502.Image
