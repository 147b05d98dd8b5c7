import Mos6502.Image.Parser

/-!
# The grammar of image lines

A segment is written as an address of one to four hexadecimal digits, a colon, and bytes of one or
two digits each. Blanks may stand on both sides of the colon and must stand between bytes. A text
that neither begins nor ends with a blank is read as a segment exactly if the grammar writes that
segment so (`segment?_eq_some_iff`).
-/

namespace Mos6502.Image

open Text (isBlank Blanks Solid Spaced)

/-- A word writes a number in at least one and at most `limit` digits. -/
structure Spells (limit : Nat) (word : List Char) (number : Nat) : Prop where
  nonempty : word ≠ []
  length_le : word.length ≤ limit
  denotes : Text.Hex.Denotes word number

/-- Bytes, with blanks between them. -/
inductive WritesBytes : List Char → List Byte → Prop where
  | single {word : List Char} {byte : Byte} (spells : Spells 2 word byte.toNat) :
      WritesBytes word [byte]
  | cons {word gap rest : List Char} {byte : Byte} {bytes : List Byte}
      (spells : Spells 2 word byte.toNat) (nonempty : gap ≠ []) (blanks : Blanks gap)
      (later : WritesBytes rest bytes) : WritesBytes (word ++ gap ++ rest) (byte :: bytes)

/-- A segment: its address, a colon, and its bytes. -/
inductive WritesSegment : List Char → Segment → Prop where
  | intro {word before after rest : List Char} {address : Address} {bytes : List Byte}
      (spells : Spells 4 word address.toNat) (blanksBefore : Blanks before)
      (blanksAfter : Blanks after) (written : WritesBytes rest bytes) :
      WritesSegment (word ++ before ++ ':' :: (after ++ rest)) ⟨address, bytes⟩

/-- Text that neither begins nor ends with a blank. -/
structure Trimmed (text : List Char) : Prop where
  first : ∀ character ∈ text.head?, isBlank character = false
  last : ∀ character ∈ text.getLast?, isBlank character = false

/-- A blank is white space. -/
theorem isWhiteSpace_of_isBlank {character : Char} (blank : isBlank character) :
    Text.isWhiteSpace character := by
  simp only [isBlank, Bool.or_eq_true, decide_eq_true_eq] at blank
  rcases blank with rfl | rfl <;> decide

/-- What is read of a line is trimmed. -/
theorem trimmed_content (line : List Char) : Trimmed (content line) where
  first character mem := by
    rw [← Bool.not_eq_true]
    intro blank
    have := isWhiteSpace_of_isBlank blank
    rw [Text.isWhiteSpace_of_mem_head?_trim mem] at this
    cases this
  last character mem := by
    rw [← Bool.not_eq_true]
    intro blank
    have := isWhiteSpace_of_isBlank blank
    rw [Text.isWhiteSpace_of_mem_getLast?_trim mem] at this
    cases this

theorem number?_eq_some_iff {limit number : Nat} {word : List Char} :
    number? limit word = some number ↔ Spells limit word number := by
  unfold number?
  constructor
  · intro read
    split at read
    · next short =>
      obtain ⟨nonempty, denotes⟩ := Text.Hex.value?_eq_some_iff.mp read
      exact ⟨nonempty, short, denotes⟩
    · cases read
  · rintro ⟨nonempty, short, denotes⟩
    rw [if_pos short]
    exact Text.Hex.value?_eq_some_iff.mpr ⟨nonempty, denotes⟩

/-- The number of a word is one of those that its limit allows. -/
theorem Spells.lt {limit number : Nat} {word : List Char} (spells : Spells limit word number) :
    number < Text.Hex.capacity limit :=
  Nat.lt_of_lt_of_le spells.denotes.lt (Text.Hex.capacity_le spells.length_le)

theorem address?_eq_some_iff {word : List Char} {address : Address} :
    address? word = some address ↔ Spells 4 word address.toNat := by
  unfold address?
  rw [Option.map_eq_some_iff]
  constructor
  · rintro ⟨number, read, rfl⟩
    have spells := number?_eq_some_iff.mp read
    rwa [UInt16.toNat_ofNat_of_lt' spells.lt]
  · intro spells
    exact ⟨address.toNat, number?_eq_some_iff.mpr spells, UInt16.ofNat_toNat⟩

theorem byte?_eq_some_iff {word : List Char} {byte : Byte} :
    byte? word = some byte ↔ Spells 2 word byte.toNat := by
  unfold byte?
  rw [Option.map_eq_some_iff]
  constructor
  · rintro ⟨number, read, rfl⟩
    have spells := number?_eq_some_iff.mp read
    rwa [UInt8.toNat_ofNat_of_lt' spells.lt]
  · intro spells
    exact ⟨byte.toNat, number?_eq_some_iff.mpr spells, UInt8.ofNat_toNat⟩

/-- A digit is neither a blank nor a colon. -/
theorem Spells.plain {limit number : Nat} {word : List Char} (spells : Spells limit word number)
    {character : Char} (mem : character ∈ word) :
    isBlank character = false ∧ character ≠ ':' := by
  have digit := spells.denotes.isSome_digit? mem
  constructor
  · rw [← Bool.not_eq_true]
    intro blank
    simp only [isBlank, Bool.or_eq_true, decide_eq_true_eq] at blank
    rcases blank with rfl | rfl <;> revert digit <;> decide
  · rintro rfl
    revert digit
    decide

theorem Spells.solid {limit number : Nat} {word : List Char} (spells : Spells limit word number) :
    Solid word := fun _ mem => (spells.plain mem).1

/-- Written bytes are read back. -/
theorem WritesBytes.mapM_byte? {text : List Char} {bytes : List Byte}
    (written : WritesBytes text bytes) :
    (Text.words text).mapM byte? = some bytes ∧ bytes ≠ [] := by
  induction written with
  | single spells =>
    rw [Text.words_of_solid spells.nonempty spells.solid]
    simp [byte?_eq_some_iff.mpr spells]
  | @cons word gap rest byte bytes spells nonempty blanks later ih =>
    obtain ⟨blank, gap, rfl⟩ := List.exists_cons_of_ne_nil nonempty
    have separated : isBlank blank := blanks blank (by simp)
    have gapWords : Text.words (blank :: (gap ++ rest)) = Text.words rest :=
      Text.words_append_of_blanks rest blanks
    rw [List.append_assoc, List.cons_append,
      Text.words_append_cons _ spells.nonempty spells.solid separated, gapWords]
    simp [byte?_eq_some_iff.mpr spells, ih.1]

/-- A written segment is read back. -/
theorem WritesSegment.segment? {text : List Char} {segment : Segment}
    (written : WritesSegment text segment) : segment? text = some segment := by
  obtain ⟨spells, blanksBefore, blanksAfter, writtenBytes⟩ := written
  rename_i word before after rest address bytes
  have noColon : ∀ character ∈ word ++ before, decide (character ≠ ':') = true := by
    intro character mem
    rw [decide_eq_true_eq]
    rcases List.mem_append.mp mem with inWord | inGap
    · exact (spells.plain inWord).2
    · rintro rfl
      exact absurd (blanksBefore _ inGap) (by decide)
  have front : (word ++ before ++ ':' :: (after ++ rest)).takeWhile (· ≠ ':') = word ++ before := by
    rw [List.takeWhile_append_of_pos noColon]
    simp
  have back : (word ++ before ++ ':' :: (after ++ rest)).dropWhile (· ≠ ':') =
      ':' :: (after ++ rest) := by
    rw [List.dropWhile_append_of_pos noColon]
    simp
  have frontWords : Text.words (word ++ before) = [word] := by
    cases before with
    | nil => simpa using Text.words_of_solid spells.nonempty spells.solid
    | cons blank gap =>
      rw [Text.words_append_cons _ spells.nonempty spells.solid (blanksBefore blank (by simp)),
        Text.words_of_blanks blanksBefore]
  have bytesRead := writtenBytes.mapM_byte?
  unfold Image.segment?
  rw [front, back, frontWords]
  simp [address?_eq_some_iff.mpr spells, Text.words_append_of_blanks rest blanksAfter,
    bytesRead.1, bytesRead.2]

/-- Written bytes begin with a digit. -/
theorem WritesBytes.exists_cons {text : List Char} {bytes : List Byte}
    (written : WritesBytes text bytes) :
    ∃ first rest, text = first :: rest ∧ isBlank first = false := by
  cases written with
  | single spells =>
    obtain ⟨first, rest, rfl⟩ := List.exists_cons_of_ne_nil spells.nonempty
    exact ⟨first, rest, rfl, (spells.plain (by simp)).1⟩
  | @cons word gap rest byte bytes spells nonempty blanks later =>
    obtain ⟨first, tail, rfl⟩ := List.exists_cons_of_ne_nil spells.nonempty
    exact ⟨first, tail ++ gap ++ rest, by simp, (spells.plain (by simp)).1⟩

/-- Text without words is blank. -/
theorem blanks_of_spaced_nil {text : List Char} (spaced : Spaced [] text) : Blanks text := by
  cases spaced with
  | nil blanks => exact blanks

/-- Words that are bytes are written bytes, after some blanks, unless blanks end the text. -/
theorem exists_writesBytes {words : List (List Char)} {text : List Char} {bytes : List Byte}
    (spaced : Spaced words text) (read : words.mapM byte? = some bytes) (nonempty : bytes ≠ [])
    (last : ∀ character ∈ text.getLast?, isBlank character = false) :
    ∃ gap rest, text = gap ++ rest ∧ Blanks gap ∧ WritesBytes rest bytes := by
  induction spaced generalizing bytes with
  | nil blanks =>
    cases read
    exact absurd rfl nonempty
  | @last gap word blanks wordNonempty solid =>
    cases wordRead : byte? word with
    | none => simp [wordRead] at read
    | some byte =>
      simp only [List.mapM_cons, List.mapM_nil, wordRead, Option.pure_def, Option.bind_eq_bind,
        Option.bind_some, Option.some.injEq] at read
      subst read
      exact ⟨gap, word, rfl, blanks, .single (byte?_eq_some_iff.mp wordRead)⟩
  | @cons gap word blank words rest blanks wordNonempty solid separated later ih =>
    have lastRest : ∀ character ∈ (blank :: rest).getLast?, isBlank character = false := by
      simpa [List.getLast?_append] using last
    cases wordRead : byte? word with
    | none => simp [wordRead] at read
    | some byte =>
      cases laterRead : words.mapM byte? with
      | none => simp [wordRead, laterRead] at read
      | some laterBytes =>
        simp only [List.mapM_cons, wordRead, laterRead, Option.pure_def, Option.bind_eq_bind,
          Option.bind_some, Option.some.injEq] at read
        subst read
        have laterNonempty : laterBytes ≠ [] := by
          rintro rfl
          have noWords : words = [] := by
            cases words with
            | nil => rfl
            | cons next more => simp [Option.bind_eq_some_iff] at laterRead
          subst noWords
          have ending := List.cons_ne_nil blank rest
          have lastBlank := blanks_of_spaced_nil later _ (List.getLast_mem ending)
          rw [lastRest _ (List.getLast?_eq_some_getLast ending)] at lastBlank
          cases lastBlank
        obtain ⟨between, written, split, betweenBlank, bytesWritten⟩ :=
          ih laterRead laterNonempty lastRest
        have betweenNonempty : between ≠ [] := by
          rintro rfl
          obtain ⟨first, tail, rfl, firstSolid⟩ := bytesWritten.exists_cons
          cases split
          rw [separated] at firstSolid
          cases firstSolid
        refine ⟨gap, word ++ between ++ written, ?_, blanks,
          .cons (byte?_eq_some_iff.mp wordRead) betweenNonempty betweenBlank bytesWritten⟩
        rw [split]
        simp only [List.append_assoc]

/-- One word is a word and blanks after it, unless blanks begin the text. -/
theorem exists_blanks_of_spaced_singleton {word text : List Char} (spaced : Spaced [word] text)
    (first : ∀ character ∈ text.head?, isBlank character = false) :
    ∃ gap, text = word ++ gap ∧ Blanks gap := by
  have unblank : ∀ {gap rest : List Char}, Blanks gap →
      (∀ character ∈ (gap ++ rest).head?, isBlank character = false) → gap = [] := by
    intro gap rest blanks first
    cases gap with
    | nil => rfl
    | cons blank gap =>
      have solid := first blank (by simp)
      rw [blanks blank (by simp)] at solid
      cases solid
  cases spaced with
  | last blanks nonempty solid =>
    cases unblank blanks first
    exact ⟨[], by simp, by simp [Blanks]⟩
  | cons blanks nonempty solid separated later =>
    rw [List.append_assoc] at first
    cases unblank blanks first
    exact ⟨_, by simp, blanks_of_spaced_nil later⟩

/-- What is read as a segment is written so. -/
theorem writesSegment_of_segment? {text : List Char} {segment : Segment} (trimmed : Trimmed text)
    (read : segment? text = some segment) : WritesSegment text segment := by
  have whole : text.takeWhile (· ≠ ':') ++ text.dropWhile (· ≠ ':') = text :=
    List.takeWhile_append_dropWhile
  have colon : ∀ first ∈ (text.dropWhile (· ≠ ':')).head?, first = ':' := by
    intro first mem
    have stopped := List.head?_dropWhile_not (fun character => decide (character ≠ ':')) text
    rw [Option.mem_def.mp mem] at stopped
    simpa using stopped
  unfold segment? at read
  generalize text.takeWhile (· ≠ ':') = front at whole read
  generalize text.dropWhile (· ≠ ':') = tail at whole read colon
  split at read
  · next frontWords word first back oneWord =>
    cases colon first (by simp)
    simp only [Option.bind_eq_bind, Option.bind_eq_some_iff] at read
    obtain ⟨address, addressRead, bytes, bytesRead, rest⟩ := read
    split at rest
    · cases rest
    · next nonempty =>
      cases rest
      have spells := address?_eq_some_iff.mp addressRead
      have bytesNonempty : bytes ≠ [] := by simpa using nonempty
      have frontSpaced := oneWord ▸ Text.spaced_words front
      have first : ∀ character ∈ front.head?, isBlank character = false := by
        intro character mem
        apply trimmed.first
        rw [← whole, List.head?_append, Option.mem_def.mp mem]
        rfl
      obtain ⟨before, rfl, blanksBefore⟩ := exists_blanks_of_spaced_singleton frontSpaced first
      have backNonempty : back ≠ [] := by
        rintro rfl
        cases bytesRead
        exact bytesNonempty rfl
      have last : ∀ character ∈ back.getLast?, isBlank character = false := by
        intro character mem
        apply trimmed.last
        rw [← whole, List.getLast?_append, List.getLast?_cons_of_ne_nil backNonempty,
          Option.mem_def.mp mem]
        rfl
      obtain ⟨after, written, rfl, blanksAfter, bytesWritten⟩ :=
        exists_writesBytes (Text.spaced_words back) bytesRead bytesNonempty last
      rw [← whole]
      exact .intro spells blanksBefore blanksAfter bytesWritten
  · cases read

/-- A text that neither begins nor ends with a blank is read as a segment exactly if the grammar
writes that segment so. -/
theorem segment?_eq_some_iff {text : List Char} {segment : Segment} (trimmed : Trimmed text) :
    segment? text = some segment ↔ WritesSegment text segment :=
  ⟨writesSegment_of_segment? trimmed, WritesSegment.segment?⟩

end Mos6502.Image
