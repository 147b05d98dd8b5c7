import Mos6502.Text.FixedWidth
import Mos6502.Text.Quoted

/-!
# Quoted text is read back

What stands between quotes for a character is said here without the writer (`Escapes`), and what is
hidden of ASCII without the tables (`Hidden`). Every form begins differently, so a reader that takes
one character after the other finds the text again: a quoted text quotes one text only
(`Quotes.unique`).
-/

namespace Mos6502.Text

/-- Characters that would not be seen. In ASCII they are the controls. -/
def Hidden (character : Char) : Prop :=
  if character.toNat < 128 then character.toNat < 32 ∨ character.toNat = 127
  else isHidden character

instance : DecidablePred Hidden := fun character =>
  inferInstanceAs (Decidable (if character.toNat < 128 then
    character.toNat < 32 ∨ character.toNat = 127 else isHidden character))

theorem isHidden_iff (character : Char) : isHidden character ↔ Hidden character := by
  unfold Hidden
  split
  · next ascii =>
    rw [isHidden, isCombining, isGraphemeExtend_of_ascii ascii, isDefaultIgnorable_of_ascii ascii,
      Bool.false_and, Bool.false_or, Bool.false_or]
    exact isUnprintable_iff_of_ascii ascii
  · exact Iff.rfl

/-- A numeral of a code point, which has no leading zero. -/
structure WritesCodePoint (number : Nat) (numeral : List Char) : Prop where
  denotes : Denotes 16 (Hex.place? .lower) numeral number
  shortest : ∃ first others, numeral = first :: others ∧ first ≠ '0'

/-- What stands for a character between quotes. -/
inductive Escapes : Char → List Char → Prop where
  | quote : Escapes '"' ['\\', '"']
  | backslash : Escapes '\\' ['\\', '\\']
  | null : Escapes '\x00' ['\\', '0']
  | tab : Escapes '\t' ['\\', 't']
  | carriageReturn : Escapes '\r' ['\\', 'r']
  | newline : Escapes '\n' ['\\', 'n']
  | codePoint {character : Char} {numeral : List Char}
      (noShortForm : character ∉ ['\x00', '\t', '\r', '\n']) (hidden : Hidden character)
      (writes : WritesCodePoint character.toNat numeral) :
      Escapes character ('\\' :: 'u' :: '\x7b' :: (numeral ++ ['\x7d']))
  | itself {character : Char} (unmarked : character ∉ ['"', '\\']) (visible : ¬Hidden character) :
      Escapes character [character]

/-- What stands for a text between quotes. -/
inductive EscapesAll : List Char → List Char → Prop where
  | nil : EscapesAll [] []
  | cons {character : Char} {text form rest : List Char} (first : Escapes character form)
      (later : EscapesAll text rest) : EscapesAll (character :: text) (form ++ rest)

/-- A text stands between double quotes. -/
def Quotes (text : List Char) (quoted : String) : Prop :=
  ∃ body, EscapesAll text body ∧ quoted = "\"" ++ String.ofList body ++ "\""

theorem place?_digitChar {value : Nat} (small : value < 16) :
    Hex.place? .lower value.digitChar = some value := by
  have checked : ∀ value : Fin 16, Hex.place? .lower value.val.digitChar = some value.val := by
    decide
  exact checked ⟨value, small⟩

theorem digitChar_ne_zero {value : Nat} (small : value < 16) (positive : 0 < value) :
    value.digitChar ≠ '0' := by
  have checked : ∀ value : Fin 16, 0 < value.val → value.val.digitChar ≠ '0' := by decide
  exact checked ⟨value, small⟩ positive

theorem writesCodePoint_codePoint {number : Nat} (positive : 0 < number) :
    WritesCodePoint number (codePoint number) := by
  unfold codePoint
  induction number using Nat.strongRecOn with
  | ind number ih =>
    by_cases small : number < 16
    · rw [Nat.toDigits_of_lt_base small]
      constructor
      · have digit : Denotes 16 (Hex.place? .lower) [number.digitChar] (16 * 0 + number) :=
          .snoc .nil (place?_digitChar small)
        rwa [Nat.mul_zero, Nat.zero_add] at digit
      · exact ⟨_, [], rfl, digitChar_ne_zero small positive⟩
    · have last := place?_digitChar (Nat.mod_lt number (by decide : 0 < 16))
      rcases ih (number / 16) (by omega) (by omega) with ⟨denotes, first, others, begins, notZero⟩
      rw [Nat.toDigits_of_base_le (by decide) (by omega)]
      constructor
      · have whole := denotes.snoc last
        rw [Nat.div_add_mod] at whole
        exact whole
      · rw [begins]
        exact ⟨first, _, rfl, notZero⟩

theorem escapes_quotedChar (character : Char) : Escapes character (quotedChar character) := by
  unfold quotedChar
  split
  · exact .quote
  · exact .backslash
  · exact .null
  · exact .tab
  · exact .carriageReturn
  · exact .newline
  · next noQuote noBackslash noNull noTab noReturn noNewline =>
    split
    · next hidden =>
      rw [isHidden_iff] at hidden
      have noShortForm : character ∉ ['\x00', '\t', '\r', '\n'] := by
        simp only [List.mem_cons, List.not_mem_nil, or_false, not_or]
        exact ⟨noNull, noTab, noReturn, noNewline⟩
      have positive : 0 < character.toNat :=
        Nat.pos_of_ne_zero fun zero => noNull (Char.toNat_inj.mp zero)
      exact .codePoint noShortForm hidden (writesCodePoint_codePoint positive)
    · next visible =>
      rw [isHidden_iff] at visible
      have unmarked : character ∉ ['"', '\\'] := by
        simp only [List.mem_cons, List.not_mem_nil, or_false, not_or]
        exact ⟨noQuote, noBackslash⟩
      exact .itself unmarked visible

theorem quotes_quote (text : List Char) : Quotes text (quote text) := by
  have escapes : EscapesAll text (text.flatMap quotedChar) := by
    induction text with
    | nil => exact .nil
    | cons character text ih => exact .cons (escapes_quotedChar character) ih
  refine ⟨_, escapes, String.toList_inj.mp ?_⟩
  simp [quote]

theorem takeWhile_until {mark : Char} {front : List Char} (unmarked : mark ∉ front)
    (rest : List Char) : (front ++ mark :: rest).takeWhile (· ≠ mark) = front := by
  have others : ∀ character ∈ front, decide (character ≠ mark) := by
    intro character mem
    rw [decide_eq_true_eq]
    rintro rfl
    exact unmarked mem
  rw [List.takeWhile_append_of_pos others]
  simp

theorem dropWhile_until {mark : Char} {front : List Char} (unmarked : mark ∉ front)
    (rest : List Char) : (front ++ mark :: rest).dropWhile (· ≠ mark) = mark :: rest := by
  have whole := List.takeWhile_append_dropWhile (p := (· ≠ mark)) (l := front ++ mark :: rest)
  rw [takeWhile_until unmarked] at whole
  exact List.append_cancel_left whole

/-- Reads one character and leaves what comes after its form. -/
def unescape : List Char → Option (Char × List Char)
  | [] => none
  | '\\' :: '"' :: rest => some ('"', rest)
  | '\\' :: '\\' :: rest => some ('\\', rest)
  | '\\' :: '0' :: rest => some ('\x00', rest)
  | '\\' :: 't' :: rest => some ('\t', rest)
  | '\\' :: 'r' :: rest => some ('\r', rest)
  | '\\' :: 'n' :: rest => some ('\n', rest)
  | '\\' :: 'u' :: '\x7b' :: rest =>
    (Hex.value? (rest.takeWhile (· ≠ '\x7d'))).map fun number =>
      (Char.ofNat number, (rest.dropWhile (· ≠ '\x7d')).tail)
  | character :: rest => some (character, rest)

theorem Escapes.unescape_eq {character : Char} {form : List Char} (escapes : Escapes character form)
    (rest : List Char) : unescape (form ++ rest) = some (character, rest) := by
  cases escapes with
  | quote => rfl
  | backslash => rfl
  | null => rfl
  | tab => rfl
  | carriageReturn => rfl
  | newline => rfl
  | @codePoint _ numeral noShortForm hidden writes =>
    have unmarked : '\x7d' ∉ numeral := fun mem => by cases writes.denotes.isSome_digit? mem
    have read : Hex.value? numeral = some character.toNat := by
      rcases writes.shortest with ⟨first, others, begins, _⟩
      rw [Hex.value?_eq_some_iff]
      refine ⟨?_, writes.denotes.imp fun _ _ => Hex.digit?_of_place?⟩
      rw [begins]
      exact List.cons_ne_nil first others
    have whole : '\\' :: 'u' :: '\x7b' :: (numeral ++ ['\x7d']) ++ rest =
        '\\' :: 'u' :: '\x7b' :: (numeral ++ '\x7d' :: rest) := by simp
    rw [whole, unescape, takeWhile_until unmarked, dropWhile_until unmarked, read]
    exact congrArg some (Prod.ext (Char.ofNat_toNat character) rfl)
  | itself unmarked visible =>
    have noBackslash : character ≠ '\\' := fun same => unmarked (by simp [same])
    rw [List.singleton_append]
    unfold unescape
    split <;> simp_all

theorem EscapesAll.unique {left right body : List Char} (first : EscapesAll left body)
    (second : EscapesAll right body) : left = right := by
  induction first generalizing right with
  | nil =>
    generalize whole : ([] : List Char) = body at second
    cases second with
    | nil => rfl
    | @cons character text form rest escapes later =>
      have read := escapes.unescape_eq rest
      rw [← whole] at read
      cases read
  | @cons character text form rest escapes later ih =>
    -- The reader takes one character off the body, and both texts begin with it.
    have read := escapes.unescape_eq rest
    generalize form ++ rest = body at second read
    cases second with
    | nil => cases read
    | @cons otherCharacter otherText otherForm otherRest otherEscapes otherLater =>
      rw [otherEscapes.unescape_eq] at read
      cases read
      rw [ih otherLater]

/-- A quoted text determines the text. -/
theorem Quotes.unique {left right : List Char} {quoted : String} (first : Quotes left quoted)
    (second : Quotes right quoted) : left = right := by
  rcases first with ⟨body, escapes, rfl⟩
  rcases second with ⟨otherBody, otherEscapes, same⟩
  have bodies : body = otherBody := by
    have lists := congrArg String.toList same
    simpa using lists
  rw [← bodies] at otherEscapes
  exact escapes.unique otherEscapes

end Mos6502.Text
