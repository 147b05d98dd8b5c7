import Mathlib.Data.List.Basic
import Mos6502.Text.Integer
import Mos6502.Text.Positional

/-!
# The meaning of signed numerals

A numeral is a sign, which may be missing, and digits. It has an answer for any two bounds: the
number of its digits, if that lies within the bounds, or else the first thing from the left that is
wrong. Up to there the digits denote a number within the bounds (`Begins`). The reader gives the
answer of the numeral and no other (`read_eq_iff_reads`).
-/

namespace Mos6502.Text.Integer

/-- Decimal digits denote a number. -/
abbrev Denotes : List Char → Nat → Prop := Text.Denotes 10 digit?

/-- A text is a sign and what comes after it. -/
inductive Signed : List Char → Int → List Char → Prop where
  | plus (digits : List Char) : Signed ('+' :: digits) 1 digits
  | minus (digits : List Char) : Signed ('-' :: digits) (-1) digits
  | plain {digits : List Char} (noSign : ∀ first ∈ digits.head?, first ≠ '+' ∧ first ≠ '-') :
      Signed digits 1 digits

/-- A text begins with a sign and digits whose number lies within the bounds. -/
structure Begins (lowest highest : Int) (text : List Char) (sign : Int) (front rest : List Char)
    (value : Nat) : Prop where
  signed : Signed text sign (front ++ rest)
  denotes : Denotes front value
  atLeast : lowest ≤ sign * value
  atMost : sign * value ≤ highest

/-- The answer of a numeral. -/
inductive Reads (lowest highest : Int) (text : List Char) : Except IntegerFault Int → Prop where
  | number {sign : Int} {digits : List Char} {value : Nat} (nonempty : digits ≠ [])
      (begins : Begins lowest highest text sign digits [] value) :
      Reads lowest highest text (.ok (sign * value))
  | empty (nothing : text = []) : Reads lowest highest text (.error .empty)
  | loneSign {sign : Int} (nonempty : text ≠ []) (signed : Signed text sign []) :
      Reads lowest highest text (.error .invalidDigit)
  | invalidDigit {sign : Int} {front rest : List Char} {value : Nat} {character : Char}
      (begins : Begins lowest highest text sign front (character :: rest) value)
      (bad : digit? character = none) : Reads lowest highest text (.error .invalidDigit)
  | aboveRange {sign : Int} {front rest : List Char} {value digit : Nat} {character : Char}
      (begins : Begins lowest highest text sign front (character :: rest) value)
      (read : digit? character = some digit) (above : highest < sign * (10 * value + digit)) :
      Reads lowest highest text (.error .aboveRange)
  | belowRange {sign : Int} {front rest : List Char} {value digit : Nat} {character : Char}
      (begins : Begins lowest highest text sign front (character :: rest) value)
      (read : digit? character = some digit) (below : sign * (10 * value + digit) < lowest) :
      Reads lowest highest text (.error .belowRange)

section

variable {lowest highest : Int}

theorem Begins.append {text front rest : List Char} {sign : Int} {value digit : Nat}
    {character : Char} (begins : Begins lowest highest text sign front (character :: rest) value)
    (read : digit? character = some digit) (atLeast : lowest ≤ sign * (10 * value + digit : Nat))
    (atMost : sign * (10 * value + digit : Nat) ≤ highest) :
    Begins lowest highest text sign (front ++ [character]) rest (10 * value + digit) where
  signed := by
    rw [List.append_assoc]
    exact begins.signed
  denotes := .snoc begins.denotes read
  atLeast := atLeast
  atMost := atMost

end

end Mos6502.Text.Integer
