import Mos6502.Text.CodeRange

/-!
# White space

The characters with the Unicode property `White_Space`, and the removal of white space from both
ends of a text. Nothing inside the text is touched.
-/

namespace Mos6502.Text

/-- The ranges of the property `White_Space`. -/
def whiteSpaceRanges : List CodeRange :=
  [⟨0x09, 0x0D⟩, ⟨0x20, 0x20⟩, ⟨0x85, 0x85⟩, ⟨0xA0, 0xA0⟩, ⟨0x1680, 0x1680⟩, ⟨0x2000, 0x200A⟩,
    ⟨0x2028, 0x2029⟩, ⟨0x202F, 0x202F⟩, ⟨0x205F, 0x205F⟩, ⟨0x3000, 0x3000⟩]

/-- Whether a character is white space. -/
def isWhiteSpace (character : Char) : Bool := inRanges whiteSpaceRanges character

/-- The text without the white space at its two ends. -/
def trim (text : List Char) : List Char :=
  ((text.dropWhile isWhiteSpace).reverse.dropWhile isWhiteSpace).reverse

/-- A trimmed text does not begin with white space. -/
theorem isWhiteSpace_of_mem_head?_trim {text : List Char} {character : Char}
    (first : character ∈ (trim text).head?) : isWhiteSpace character = false := by
  have suffix := List.dropWhile_suffix (l := (text.dropWhile isWhiteSpace).reverse) isWhiteSpace
  have kept : trim text <+: text.dropWhile isWhiteSpace := by
    simpa [trim] using List.reverse_prefix.mpr suffix
  have stopped := List.head?_dropWhile_not isWhiteSpace text
  obtain ⟨removed, whole⟩ := kept
  rw [← whole, List.head?_append, Option.mem_def.mp first] at stopped
  simpa using stopped

/-- A trimmed text does not end with white space. -/
theorem isWhiteSpace_of_mem_getLast?_trim {text : List Char} {character : Char}
    (last : character ∈ (trim text).getLast?) : isWhiteSpace character = false := by
  have stopped := List.head?_dropWhile_not isWhiteSpace (text.dropWhile isWhiteSpace).reverse
  rw [trim, List.getLast?_reverse] at last
  rw [Option.mem_def.mp last] at stopped
  simpa using stopped

end Mos6502.Text
