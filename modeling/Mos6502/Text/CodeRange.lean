/-!
# Ranges of characters

Classes of characters are given by ranges of code points.
-/

namespace Mos6502.Text

/-- The code points from one to another, both included. -/
structure CodeRange where
  first : Nat
  last : Nat
  deriving DecidableEq, Repr

/-- Whether a character lies in the range. -/
def CodeRange.contains (range : CodeRange) (character : Char) : Bool :=
  range.first ≤ character.toNat && character.toNat ≤ range.last

/-- Whether a character lies in one of the ranges. -/
def inRanges (ranges : List CodeRange) (character : Char) : Bool :=
  ranges.any fun range => range.contains character

theorem inRanges_iff {ranges : List CodeRange} {character : Char} :
    inRanges ranges character ↔
      ∃ range ∈ ranges, range.first ≤ character.toNat ∧ character.toNat ≤ range.last := by
  simp [inRanges, CodeRange.contains]

/-- A character below every range lies in none. -/
theorem inRanges_eq_false {ranges : List CodeRange} {bound : Nat} {character : Char}
    (above : ∀ range ∈ ranges, bound ≤ range.first) (below : character.toNat < bound) :
    inRanges ranges character = false := by
  rw [← Bool.not_eq_true, inRanges_iff]
  rintro ⟨range, mem, atLeast, _⟩
  have := above range mem
  omega

end Mos6502.Text
