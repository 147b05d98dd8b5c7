import Mos6502.Text.Hex

/-!
# Numerals of a fixed width

A text of fixed layout shows each numeral in columns of its own (`field`). A numeral of fixed width
and one letter case writes its number in one way, which is said here by the alphabet of its digits
(`Writes`), and it is read back from its columns.
-/

namespace Mos6502.Text

/-- A number of columns of a line from one on, counted from zero. -/
def field (first width : Nat) (line : List Char) : List Char := (line.drop first).take width

@[simp]
theorem field_cons (first width : Nat) (character : Char) (rest : List Char) :
    field (first + 1) width (character :: rest) = field first width rest := rfl

@[simp]
theorem field_append_of_le {front : List Char} {first : Nat} (before : front.length ≤ first)
    (width : Nat) (rest : List Char) :
    field first width (front ++ rest) = field (first - front.length) width rest := by
  simp [field, List.drop_append, List.drop_of_length_le before]

@[simp]
theorem field_append_of_length {shown : List Char} {width : Nat} (wide : shown.length = width)
    (rest : List Char) : field 0 width (shown ++ rest) = shown := by
  simp [field, ← wide]

@[simp]
theorem field_of_length {shown : List Char} {width : Nat} (wide : shown.length = width) :
    field 0 width shown = shown := by
  simp [field, ← wide]

namespace Hex

/-- The digits of a letter case in the order of their values. -/
def alphabet : LetterCase → List Char
  | .lower => "0123456789abcdef".toList
  | .upper => "0123456789ABCDEF".toList

/-- The place of a digit in its alphabet. -/
def place? (letters : LetterCase) (character : Char) : Option Nat :=
  (alphabet letters).idxOf? character

theorem place?_digit (letters : LetterCase) :
    ∀ value < 16, place? letters (digit letters value) = some value := by
  cases letters <;> decide

theorem digit?_alphabet (letters : LetterCase) :
    ∀ value : Fin (alphabet letters).length, digit? (alphabet letters)[value] = some value.val := by
  cases letters <;> decide

/-- A digit of one letter case has the value of its place. -/
theorem digit?_of_place? {letters : LetterCase} {character : Char} {value : Nat}
    (placed : place? letters character = some value) : digit? character = some value := by
  rcases List.idxOf?_eq_some_iff.mp placed with ⟨inside, rfl, _⟩
  exact digit?_alphabet letters ⟨value, inside⟩

/-- A numeral of a given width writes a number in digits of one letter case. -/
structure Writes (letters : LetterCase) (width number : Nat) (numeral : String) : Prop where
  length : numeral.toList.length = width
  denotes : Text.Denotes 16 (place? letters) numeral.toList number

theorem writes_lower {width number : Nat} (fits : number < capacity width) :
    Writes .lower width number (lower width number) := by
  constructor <;> simp [lower, denotes_digits (place?_digit .lower) fits]

/-- What is written is read back. -/
theorem Writes.value?_eq {letters : LetterCase} {width number : Nat} {numeral : String}
    (writes : Writes letters width number numeral) (wide : 0 < width) :
    value? numeral.toList = some number := by
  rw [value?_eq_some_iff]
  refine ⟨?_, writes.denotes.imp fun _ _ => digit?_of_place?⟩
  rw [← List.length_pos_iff, writes.length]
  exact wide

end Hex

end Mos6502.Text
