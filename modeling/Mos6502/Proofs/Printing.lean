import Mathlib.Data.List.Forall2
import Mos6502.Proofs.ImageParts
import Mos6502.Proofs.LetterCase

/-!
# Printed images

An image is printed with a line for each of its segments: the address, a colon, and every byte after
a space. The printer is free to choose how many digits a number gets, as far as its place allows,
and the case of each letter (`Image.Prints`). The reader makes up for all of that, so every image
whose segments have bytes is read back from whatever is printed of it, and no other image is ever
read (`Image.parse_printed`).
-/

namespace Mos6502

namespace Text

/-- Lines, with a line feed after each. -/
def unlines (lines : List (List Char)) : String := String.ofList (lines.flatMap (· ++ ['\n']))

theorem divides_unlines {lines : List (List Char)}
    (unbroken : ∀ line ∈ lines, '\n' ∉ line ∧ '\r' ∉ line) :
    Divides (unlines lines).toList lines := by
  rw [unlines, String.toList_ofList]
  induction lines with
  | nil => exact .empty
  | cons line lines ih =>
      rcases List.forall_mem_cons.mp unbroken with ⟨⟨noFeed, noReturn⟩, others⟩
      have noReturnLast : line.getLast? ≠ some '\r' := fun last =>
        noReturn (List.mem_of_getLast? last)
      simpa using Divides.feed noFeed noReturnLast (ih others)

namespace Hex

theorem toLower_digit (letters : LetterCase) {value : Nat} (small : value < 16) :
    (digit letters value).toLower = digit .lower value := by
  have checked : ∀ value : Fin 16, (digit .lower value).toLower = digit .lower value ∧
      (digit .upper value).toLower = digit .lower value := by
    decide
  cases letters with
  | lower => exact (checked ⟨value, small⟩).1
  | upper => exact (checked ⟨value, small⟩).2

theorem map_toLower_digits (letters : LetterCase) (width number : Nat) :
    (digits letters width number).map Char.toLower = digits .lower width number := by
  induction width generalizing number with
  | zero => rfl
  | succ width ih =>
      simp [digits, ih, toLower_digit letters (Nat.mod_lt number (by decide : 0 < 16))]

theorem bounds_of_digit? {character : Char} (read : (digit? character).isSome) :
    '0' ≤ character ∧ character ≤ 'f' := by
  have bottom : '0' ≤ 'a' ∧ '0' ≤ 'A' := by decide
  have top : '9' ≤ 'f' ∧ 'F' ≤ 'f' := by decide
  unfold digit? at read
  split_ifs at read with decimal small capital
  · exact ⟨decimal.1, Char.le_trans decimal.2 top.1⟩
  · exact ⟨Char.le_trans bottom.1 small.1, small.2⟩
  · exact ⟨Char.le_trans bottom.2 capital.1, Char.le_trans capital.2 top.2⟩
  · cases read

/-- No digit is white space. -/
theorem isWhiteSpace_of_digit? {character : Char} (read : (digit? character).isSome) :
    isWhiteSpace character = false := by
  have bounds : 48 ≤ character.toNat ∧ character.toNat ≤ 102 := bounds_of_digit? read
  rw [← Bool.not_eq_true]
  intro white
  rcases inRanges_iff.mp white with ⟨range, member, inside⟩
  have apart : ∀ range ∈ whiteSpaceRanges, range.last < 48 ∨ 102 < range.first := by decide
  have := apart range member
  omega

end Hex

end Text

namespace Image

/-- A word writes a number in hexadecimal, in at most `limit` digits. Leading zeros count, and each
letter may be of either case. -/
structure Numeral (limit number : Nat) (word : List Char) : Prop where
  nonempty : word ≠ []
  length_le : word.length ≤ limit
  fits : number < Text.Hex.capacity word.length
  digits : word.map Char.toLower = Text.Hex.digits .lower word.length number

theorem numeral_iff {limit number : Nat} {word : List Char} :
    Numeral limit number word ↔
      word ≠ [] ∧ word.length ≤ limit ∧ number < Text.Hex.capacity word.length ∧
        word.map Char.toLower = Text.Hex.digits .lower word.length number := by
  constructor
  · rintro ⟨nonempty, short, fits, digits⟩
    exact ⟨nonempty, short, fits, digits⟩
  · rintro ⟨nonempty, short, fits, digits⟩
    exact ⟨nonempty, short, fits, digits⟩

instance (limit number : Nat) (word : List Char) : Decidable (Numeral limit number word) :=
  decidable_of_iff _ numeral_iff.symm

/-- A segment on a line: its address, a colon, and each of its bytes after a space. -/
inductive Prints : Segment → List Char → Prop where
  | intro {address : Address} {bytes : List Byte} {word : List Char} {words : List (List Char)}
      (numeral : Numeral 4 address.toNat word)
      (numerals : List.Forall₂ (fun byte word => Numeral 2 byte.toNat word) bytes words) :
      Prints ⟨address, bytes⟩ (word ++ ':' :: words.flatMap (' ' :: ·))

theorem Numeral.spells {limit number : Nat} {word : List Char}
    (numeral : Numeral limit number word) : Spells limit word number := by
  have wide : 0 < word.length := List.length_pos_iff.mpr numeral.nonempty
  have read : Text.Hex.value? word = some number := by
    rw [← Text.Hex.value?_map_toLower, numeral.digits]
    exact Text.Hex.value?_digits .lower wide numeral.fits
  exact ⟨numeral.nonempty, numeral.length_le, (Text.Hex.value?_eq_some_iff.mp read).2⟩

/-- A character that starts no comment and is no part of the ending of a line. -/
structure Plain (character : Char) : Prop where
  noComment : startsComment character = false
  noFeed : character ≠ '\n'
  noReturn : character ≠ '\r'

theorem plain_of_digit? {character : Char} (read : (Text.Hex.digit? character).isSome) :
    Plain character := by
  constructor
  · rw [← Bool.not_eq_true]
    intro comment
    simp only [startsComment, Bool.or_eq_true, decide_eq_true_eq] at comment
    rcases comment with rfl | rfl <;> cases read
  all_goals
    rintro rfl
    cases read

theorem Spells.digit? {limit number : Nat} {word : List Char} (spells : Spells limit word number) :
    ∀ character ∈ word, (Text.Hex.digit? character).isSome :=
  fun _ member => spells.denotes.isSome_digit? member

theorem exists_writesBytes_of_numerals {bytes : List Byte} {words : List (List Char)}
    (nonempty : bytes ≠ [])
    (numerals : List.Forall₂ (fun byte word => Numeral 2 byte.toNat word) bytes words) :
    ∃ rest, words.flatMap (' ' :: ·) = ' ' :: rest ∧ WritesBytes rest bytes := by
  induction numerals with
  | nil => exact absurd rfl nonempty
  | @cons byte word bytes words numeral numerals ih =>
      -- The grammar has no gap behind the last byte, so that byte is a case of its own.
      rcases numerals with _ | ⟨next, others⟩
      · exact ⟨word, by simp, .single numeral.spells⟩
      · rcases ih (List.cons_ne_nil _ _) with ⟨rest, printed, written⟩
        refine ⟨word ++ [' '] ++ rest, ?_, ?_⟩
        · rw [List.flatMap_cons, printed]
          simp
        · exact .cons numeral.spells (by simp) (by simp [Text.Blanks, Text.isBlank]) written

theorem exists_numeral {bytes : List Byte} {words : List (List Char)}
    (numerals : List.Forall₂ (fun byte word => Numeral 2 byte.toNat word) bytes words) :
    ∀ word ∈ words, ∃ byte : Byte, Numeral 2 byte.toNat word := by
  induction numerals with
  | nil => exact nofun
  | cons numeral _ ih => exact List.forall_mem_cons.mpr ⟨⟨_, numeral⟩, ih⟩

/-- Written bytes end with a digit. -/
theorem WritesBytes.last {text : List Char} {bytes : List Byte} (written : WritesBytes text bytes) :
    text ≠ [] ∧ ∀ character ∈ text.getLast?, (Text.Hex.digit? character).isSome := by
  induction written with
  | single spells =>
      refine ⟨spells.nonempty, ?_⟩
      intro character member
      exact spells.digit? character (List.mem_of_getLast? member)
  | cons spells _ _ _ ih =>
      refine ⟨by simp [ih.1], ?_⟩
      rw [List.getLast?_append_of_ne_nil _ ih.1]
      exact ih.2

/-- A line is its own content if it has no comment and digits at both ends. -/
theorem content_of_plain {line : List Char} (plain : ∀ character ∈ line, Plain character)
    (first : ∀ character ∈ line.head?, (Text.Hex.digit? character).isSome)
    (last : ∀ character ∈ line.getLast?, (Text.Hex.digit? character).isSome) :
    Content line line := by
  have cuts : Cuts line line :=
    ⟨⟨[], by simp, by simp⟩, fun character member => (plain character member).noComment⟩
  have trims : Text.Trims line line := by
    refine ⟨⟨[], [], by simp, by simp, by simp⟩, ?_, ?_⟩
    · exact fun character member => Text.Hex.isWhiteSpace_of_digit? (first character member)
    · exact fun character member => Text.Hex.isWhiteSpace_of_digit? (last character member)
  exact ⟨line, cuts, trims⟩

namespace Prints

variable {segment : Segment} {line : List Char}

theorem plain (prints : Prints segment line) : ∀ character ∈ line, Plain character := by
  rcases prints with ⟨numeral, numerals⟩
  intro character member
  simp only [List.mem_append, List.mem_cons, List.mem_flatMap] at member
  rcases member with inside | rfl | ⟨word, printed, rfl | inside⟩
  · exact plain_of_digit? (numeral.spells.digit? character inside)
  · exact ⟨rfl, by decide, by decide⟩
  · exact ⟨rfl, by decide, by decide⟩
  · rcases exists_numeral numerals word printed with ⟨byte, numeral⟩
    exact plain_of_digit? (numeral.spells.digit? character inside)

/-- A printed segment is one of the ways to write it, and nothing of its line is cut off. -/
theorem writes (prints : Prints segment line) (nonempty : segment.bytes ≠ []) :
    Writes line segment := by
  have plain := prints.plain
  rcases prints with @⟨address, bytes, word, words, numeral, numerals⟩
  rcases exists_writesBytes_of_numerals nonempty numerals with ⟨rest, printed, written⟩
  rw [printed] at plain ⊢
  have spells := numeral.spells
  have first : ∀ character ∈ (word ++ ':' :: ' ' :: rest).head?,
      (Text.Hex.digit? character).isSome := by
    rw [List.head?_append_of_ne_nil _ spells.nonempty]
    exact fun character member => spells.digit? character (List.mem_of_head? member)
  have last : ∀ character ∈ (word ++ ':' :: ' ' :: rest).getLast?,
      (Text.Hex.digit? character).isSome := by
    have whole : word ++ ':' :: ' ' :: rest = (word ++ [':', ' ']) ++ rest := by simp
    rw [whole, List.getLast?_append_of_ne_nil _ written.last.1]
    exact written.last.2
  refine ⟨_, content_of_plain plain first last, ?_⟩
  have blank : Text.Blanks [' '] := by simp [Text.Blanks, Text.isBlank]
  simpa using WritesSegment.intro spells (by simp [Text.Blanks] : Text.Blanks []) blank written

end Prints

theorem bytes_ne_nil_of_writes {segment : Segment} {line : List Char}
    (writes : Writes line segment) : segment.bytes ≠ [] := by
  rcases writes with ⟨text, _, ⟨_, _, _, written⟩⟩
  exact written.mapM_byte?.2

theorem Collects.bytes_ne_nil {lines : List (List Char)} {segments : List Segment}
    (collects : Collects lines segments) : ∀ segment ∈ segments, segment.bytes ≠ [] := by
  induction collects with
  | nil => exact nofun
  | blank _ _ ih => exact ih
  | segment writes _ ih => exact List.forall_mem_cons.mpr ⟨bytes_ne_nil_of_writes writes, ih⟩

theorem collects_of_prints {segments : List Segment} {lines : List (List Char)}
    (printed : List.Forall₂ Prints segments lines)
    (nonempty : ∀ segment ∈ segments, segment.bytes ≠ []) : Collects lines segments := by
  induction printed with
  | nil => exact .nil
  | cons prints _ ih =>
      rcases List.forall_mem_cons.mp nonempty with ⟨first, others⟩
      exact .segment (prints.writes first) (ih others)

theorem numeral_digits (letters : Text.Hex.LetterCase) {limit width number : Nat}
    (wide : 0 < width) (narrow : width ≤ limit) (fits : number < Text.Hex.capacity width) :
    Numeral limit number (Text.Hex.digits letters width number) := by
  have length := Text.Hex.length_digits letters width number
  constructor
  case nonempty => simpa [← List.length_pos_iff, length] using wide
  case length_le => rwa [length]
  case fits => rwa [length]
  case digits => rw [length, Text.Hex.map_toLower_digits]

/-- A segment with every number in full width. -/
def printSegment (segment : Segment) : List Char :=
  let words := segment.bytes.map fun byte => Text.Hex.digits .upper 2 byte.toNat
  Text.Hex.digits .upper 4 segment.address.toNat ++ ':' :: words.flatMap (' ' :: ·)

theorem prints_printSegment (segment : Segment) : Prints segment (printSegment segment) := by
  refine .intro (numeral_digits .upper (by decide) (by decide) segment.address.toNat_lt) ?_
  rw [List.forall₂_map_right_iff, List.forall₂_same]
  intro byte _
  exact numeral_digits .upper (by decide) (by decide) byte.toNat_lt

theorem parse_of_divides {text : String} {segments : List Segment} {lines : List (List Char)}
    (divides : Text.Divides text.toList lines) (printed : List.Forall₂ Prints segments lines)
    (nonempty : ∀ segment ∈ segments, segment.bytes ≠ []) : parse text = .ok ⟨segments⟩ := by
  rw [parse, Text.lines_of_divides divides]
  exact parseLines_of_collects (collects_of_prints printed nonempty) 1

theorem unbroken_of_printed {segments : List Segment} {lines : List (List Char)}
    (printed : List.Forall₂ Prints segments lines) :
    ∀ line ∈ lines, '\n' ∉ line ∧ '\r' ∉ line := by
  induction printed with
  | nil => exact nofun
  | cons prints _ ih =>
      refine List.forall_mem_cons.mpr ⟨⟨?_, ?_⟩, ih⟩
      · exact fun member => (prints.plain _ member).noFeed rfl
      · exact fun member => (prints.plain _ member).noReturn rfl

theorem bytes_ne_nil_of_parse {text : String} {segments : List Segment}
    (read : parse text = .ok ⟨segments⟩) : ∀ segment ∈ segments, segment.bytes ≠ [] := by
  have answers := answers_parse text
  rw [read] at answers
  cases answers with
  | image collects => exact collects.bytes_ne_nil

/-- The segments that can be read are those that all have bytes, and they are read back from their
lines in whatever way these are printed and ended. -/
theorem parse_printed (segments : List Segment) :
    ((∃ text, parse text = .ok ⟨segments⟩) ↔ ∀ segment ∈ segments, segment.bytes ≠ []) ∧
      ((∀ segment ∈ segments, segment.bytes ≠ []) →
        ∀ lines, List.Forall₂ Prints segments lines →
          parse (Text.unlines lines) = .ok ⟨segments⟩ ∧
            ∀ text : String, Text.Divides text.toList lines → parse text = .ok ⟨segments⟩) := by
  have readBack : (∀ segment ∈ segments, segment.bytes ≠ []) →
      ∀ lines, List.Forall₂ Prints segments lines →
        parse (Text.unlines lines) = .ok ⟨segments⟩ := by
    intro nonempty lines printed
    have divides := Text.divides_unlines (unbroken_of_printed printed)
    exact parse_of_divides divides printed nonempty
  constructor
  · constructor
    · rintro ⟨text, read⟩
      exact bytes_ne_nil_of_parse read
    · intro nonempty
      have printed : List.Forall₂ Prints segments (segments.map printSegment) := by
        rw [List.forall₂_map_right_iff, List.forall₂_same]
        exact fun segment _ => prints_printSegment segment
      exact ⟨_, readBack nonempty _ printed⟩
  · intro nonempty lines printed
    refine ⟨readBack nonempty lines printed, ?_⟩
    intro text divides
    exact parse_of_divides divides printed nonempty

/-- Three digits, a digit alone and letters of both cases are read back from lines that are ended in
two ways. -/
theorem parse_printed_unevenly :
    let segments : List Segment := [⟨0x42, [0xA9, 0x0F]⟩, ⟨0xFFFC, [0x07]⟩]
    let lines := ["042: a9 F".toList, "fFFc: 07".toList]
    let text := "042: a9 F\r\nfFFc: 07"
    (∀ segment ∈ segments, segment.bytes ≠ []) ∧ List.Forall₂ Prints segments lines ∧
      Text.Divides text.toList lines ∧ parse text = .ok ⟨segments⟩ := by
  intro segments lines text
  have nonempty : ∀ segment ∈ segments, segment.bytes ≠ [] := by simp [segments]
  have first : Prints ⟨0x42, [0xA9, 0x0F]⟩
      (['0', '4', '2'] ++ ':' :: [['a', '9'], ['F']].flatMap (' ' :: ·)) :=
    .intro (by decide) (.cons (by decide) (.cons (by decide) .nil))
  have second : Prints ⟨0xFFFC, [0x07]⟩
      (['f', 'F', 'F', 'c'] ++ ':' :: [['0', '7']].flatMap (' ' :: ·)) :=
    .intro (by decide) (.cons (by decide) .nil)
  have printed : List.Forall₂ Prints segments lines := .cons first (.cons second .nil)
  have divides : Text.Divides text.toList lines := Text.lines_eq_iff_divides.mp (by decide)
  have readBack := ((parse_printed segments).2 nonempty lines printed).2 text divides
  exact ⟨nonempty, printed, divides, readBack⟩

end Image

end Mos6502
