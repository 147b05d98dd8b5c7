import Mos6502.Text.Hex
import Mos6502.Text.WhiteSpace
import Mos6502.Text.Words

/-!
# The case of letters

Only the letters of ASCII have a lower case here. None of them is white space or a blank, and those
that are digits have the same value in both cases. So a text in lower case has the words of the
text, in lower case, and its numerals denote the same numbers.
-/

namespace Mos6502.Text

/-- The letters that have a lower case of their own, counted from A; all are ASCII. -/
def capital (place : Fin 26) : Char := Char.ofNat ('A'.toNat + place)

theorem exists_capital_of_toLower_ne {character : Char} (changed : character.toLower ≠ character) :
    ∃ place, capital place = character := by
  have bounds : 'A'.toNat ≤ character.toNat ∧ character.toNat ≤ 'Z'.toNat :=
    Decidable.byContradiction fun outside => changed (dif_neg outside)
  have near : character.toNat - 'A'.toNat < 26 :=
    Nat.sub_lt_left_of_lt_add bounds.1 (Nat.lt_succ_of_le bounds.2)
  refine ⟨⟨character.toNat - 'A'.toNat, near⟩, ?_⟩
  rw [capital, Nat.add_sub_of_le bounds.1, Char.ofNat_toNat]

/-- What is the same for a capital and for its small letter does not depend on case. -/
theorem toLower_congr {α : Type} {f : Char → α}
    (same : ∀ place, f (capital place).toLower = f (capital place)) (character : Char) :
    f character.toLower = f character := by
  by_cases fixed : character.toLower = character
  · rw [fixed]
  · obtain ⟨place, rfl⟩ := exists_capital_of_toLower_ne fixed
    exact same place

/-- A mark that is no letter of either case stays where it is. -/
theorem mem_map_toLower_iff {mark : Char}
    (plain : ∀ place, (capital place).toLower ≠ mark ∧ capital place ≠ mark) {text : List Char} :
    mark ∈ text.map Char.toLower ↔ mark ∈ text := by
  have same (character : Char) : (character.toLower = mark) = (character = mark) := by
    apply toLower_congr (f := (· = mark))
    intro place
    exact propext (iff_of_false (plain place).1 (plain place).2)
  simp only [List.mem_map, same, exists_eq_right]

theorem isWhiteSpace_toLower (character : Char) :
    isWhiteSpace character.toLower = isWhiteSpace character :=
  toLower_congr (by decide) character

theorem isBlank_toLower (character : Char) : isBlank character.toLower = isBlank character :=
  toLower_congr (by decide) character

theorem digit?_toLower (character : Char) :
    Hex.digit? character.toLower = Hex.digit? character :=
  toLower_congr (by decide) character

theorem trim_map_toLower (text : List Char) :
    trim (text.map Char.toLower) = (trim text).map Char.toLower := by
  have white : isWhiteSpace ∘ Char.toLower = isWhiteSpace := funext isWhiteSpace_toLower
  simp only [trim, List.dropWhile_map, white, ← List.map_reverse]

theorem Spaced.map_toLower {found : List (List Char)} {text : List Char}
    (spaced : Spaced found text) :
    Spaced (found.map (·.map Char.toLower)) (text.map Char.toLower) := by
  have blanks {gap : List Char} (blanks : Blanks gap) : Blanks (gap.map Char.toLower) := by
    rintro _ member
    rcases List.mem_map.mp member with ⟨character, inside, rfl⟩
    rw [isBlank_toLower]
    exact blanks character inside
  have solid {word : List Char} (solid : Solid word) : Solid (word.map Char.toLower) := by
    rintro _ member
    rcases List.mem_map.mp member with ⟨character, inside, rfl⟩
    rw [isBlank_toLower]
    exact solid character inside
  induction spaced with
  | nil gapBlank => exact .nil (blanks gapBlank)
  | last gapBlank nonempty wordSolid =>
      rw [List.map_append]
      exact .last (blanks gapBlank) (by simpa using nonempty) (solid wordSolid)
  | cons gapBlank nonempty wordSolid separated later ih =>
      rw [List.map_append, List.map_append, List.map_cons]
      refine .cons (blanks gapBlank) (by simpa using nonempty) (solid wordSolid) ?_ ih
      rw [isBlank_toLower]
      exact separated

theorem words_map_toLower (text : List Char) :
    words (text.map Char.toLower) = (words text).map (·.map Char.toLower) :=
  words_eq_of_spaced (spaced_words text).map_toLower

theorem Hex.value?_map_toLower (numeral : List Char) :
    Hex.value? (numeral.map Char.toLower) = Hex.value? numeral := by
  have digits : Hex.digit? ∘ Char.toLower = Hex.digit? := funext digit?_toLower
  simp only [Hex.value?, List.isEmpty_map, List.mapM_map, digits]

end Mos6502.Text
