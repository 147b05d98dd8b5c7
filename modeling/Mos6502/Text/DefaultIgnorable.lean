import Mos6502.Text.CodeRange

/-!
# Ignorable characters

The characters with the Unicode property `Default_Ignorable_Code_Point`. Such a character has no
visible form where it is not understood, even if it is a letter, as the fillers of the Korean script
are.
-/

namespace Mos6502.Text

/-- The ranges of the property `Default_Ignorable_Code_Point`. -/
def defaultIgnorableRanges : List CodeRange :=
  [⟨0xAD, 0xAD⟩, ⟨0x034F, 0x034F⟩, ⟨0x061C, 0x061C⟩, ⟨0x115F, 0x1160⟩, ⟨0x17B4, 0x17B5⟩,
    ⟨0x180B, 0x180F⟩, ⟨0x200B, 0x200F⟩, ⟨0x202A, 0x202E⟩, ⟨0x2060, 0x206F⟩, ⟨0x3164, 0x3164⟩,
    ⟨0xFE00, 0xFE0F⟩, ⟨0xFEFF, 0xFEFF⟩, ⟨0xFFA0, 0xFFA0⟩, ⟨0xFFF0, 0xFFF8⟩, ⟨0x1BCA0, 0x1BCA3⟩,
    ⟨0x1D173, 0x1D17A⟩, ⟨0xE0000, 0xE0FFF⟩]

/-- Whether a character has no visible form by default. -/
def isDefaultIgnorable (character : Char) : Bool := inRanges defaultIgnorableRanges character

/-- No character of ASCII is ignorable. -/
theorem isDefaultIgnorable_of_ascii {character : Char} (ascii : character.toNat < 128) :
    isDefaultIgnorable character = false := by
  have high : ∀ range ∈ defaultIgnorableRanges, 128 ≤ range.first := by decide
  exact inRanges_eq_false high ascii

end Mos6502.Text
