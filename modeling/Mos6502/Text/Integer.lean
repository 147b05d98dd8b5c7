/-!
# Signed decimal numerals

A numeral is an optional sign and at least one digit. It is read from the left, and the reading
stops at the first thing that is wrong: a character that is no digit, or a digit that takes the
number past a bound. So a number that is already too large is reported as such whatever follows it.
-/

namespace Mos6502.Text

/-- Why a numeral cannot be read. -/
inductive IntegerFault where
  | empty
  /-- A character is not a digit, or only a sign is there. -/
  | invalidDigit
  | aboveRange
  | belowRange
  deriving DecidableEq, Repr

namespace Integer

/-- The value of a decimal digit. -/
def digit? (character : Char) : Option Nat :=
  if '0' ≤ character ∧ character ≤ '9' then some (character.toNat - '0'.toNat) else none

/-- Goes on with the digits of a number of one sign, within bounds. -/
def readDigits (lowest highest sign : Int) : Int → List Char → Except IntegerFault Int
  | number, [] => .ok number
  | number, character :: rest =>
    match digit? character with
    | none => .error .invalidDigit
    | some value =>
      let longer := 10 * number + sign * value
      if longer > highest then .error .aboveRange
      else if longer < lowest then .error .belowRange
      else readDigits lowest highest sign longer rest

/-- Reads a numeral whose number lies within bounds. -/
def read (lowest highest : Int) : List Char → Except IntegerFault Int
  | [] => .error .empty
  | ['+'] | ['-'] => .error .invalidDigit
  | '+' :: digits => readDigits lowest highest 1 0 digits
  | '-' :: digits => readDigits lowest highest (-1) 0 digits
  | digits => readDigits lowest highest 1 0 digits

end Integer

end Mos6502.Text
