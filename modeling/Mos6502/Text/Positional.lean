/-!
# Positional numerals

A list of digits denotes the number that grows by a place with each of them. The base and the value
of a digit are up to the kind of numeral.
-/

namespace Mos6502.Text

/-- A list of digits denotes the number that grows by a place with each of them. -/
inductive Denotes (base : Nat) (digit? : Char → Option Nat) : List Char → Nat → Prop where
  | nil : Denotes base digit? [] 0
  | snoc {numeral : List Char} {number : Nat} {character : Char} {value : Nat}
      (front : Denotes base digit? numeral number) (last : digit? character = some value) :
      Denotes base digit? (numeral ++ [character]) (base * number + value)

namespace Denotes

variable {base : Nat} {digit? other? : Char → Option Nat} {numeral : List Char} {number : Nat}

/-- Every character of a numeral is a digit. -/
theorem isSome_digit? (denotes : Denotes base digit? numeral number) {character : Char}
    (mem : character ∈ numeral) : (digit? character).isSome := by
  induction denotes with
  | nil => cases mem
  | snoc front last ih =>
    rcases List.mem_append.mp mem with early | late
    · exact ih early
    · rw [List.mem_singleton.mp late, last]
      rfl

/-- A numeral keeps its number where its digits keep their values. -/
theorem imp (denotes : Denotes base digit? numeral number)
    (same : ∀ character value, digit? character = some value → other? character = some value) :
    Denotes base other? numeral number := by
  induction denotes with
  | nil => exact .nil
  | snoc front last ih => exact .snoc ih (same _ _ last)

end Denotes

end Mos6502.Text
