import Mos6502.Text.Positional

/-!
# Hexadecimal numerals

A numeral is a list of digits, most significant first, with letters of either case. Numbers are
written with a fixed count of digits (`digits`) and read from any nonempty run of them (`value?`).
What is written is read back as long as it fits (`value?_digits`), and what is read is what the
digits denote (`value?_eq_some_iff`).
-/

namespace Mos6502.Text.Hex

/-- The two ways of writing the digits above nine. -/
inductive LetterCase where
  | lower
  | upper
  deriving DecidableEq, Repr

/-- The character that writes a digit below sixteen. -/
def digit (letters : LetterCase) (value : Nat) : Char :=
  if value < 10 then Char.ofNat ('0'.toNat + value)
  else match letters with
    | .lower => Char.ofNat ('a'.toNat + (value - 10))
    | .upper => Char.ofNat ('A'.toNat + (value - 10))

/-- The value of a digit of either case; no other character has one. -/
def digit? (character : Char) : Option Nat :=
  if '0' ≤ character ∧ character ≤ '9' then some (character.toNat - '0'.toNat)
  else if 'a' ≤ character ∧ character ≤ 'f' then some (character.toNat - 'a'.toNat + 10)
  else if 'A' ≤ character ∧ character ≤ 'F' then some (character.toNat - 'A'.toNat + 10)
  else none

/-- The lowest `width` digits of a number, leading zeros included. -/
def digits (letters : LetterCase) : (width : Nat) → (number : Nat) → List Char
  | 0, _ => []
  | width + 1, number => digits letters width (number / 16) ++ [digit letters (number % 16)]

/-- A number as lower-case text of a fixed width. -/
def lower (width number : Nat) : String := String.ofList (digits .lower width number)

/-- A number as upper-case text of a fixed width. -/
def upper (width number : Nat) : String := String.ofList (digits .upper width number)

/-- The number with the given digit values, most significant first. -/
def ofDigits (values : List Nat) : Nat := values.foldl (fun number value => 16 * number + value) 0

/-- The value of a nonempty run of digits, and of nothing else. -/
def value? (numeral : List Char) : Option Nat :=
  if numeral.isEmpty then none else (numeral.mapM digit?).map ofDigits

/-- How many numbers have a numeral of a given width. -/
def capacity : (width : Nat) → Nat
  | 0 => 1
  | width + 1 => 16 * capacity width

/-- Digits of either case denote a number. -/
abbrev Denotes : List Char → Nat → Prop := Text.Denotes 16 digit?

@[simp]
theorem length_digits (letters : LetterCase) (width number : Nat) :
    (digits letters width number).length = width := by
  induction width generalizing number with
  | zero => rfl
  | succ width ih => simp [digits, ih]

theorem capacity_le {narrow wide : Nat} (within : narrow ≤ wide) :
    capacity narrow ≤ capacity wide := by
  induction within with
  | refl => exact Nat.le_refl _
  | step _ ih =>
    rw [capacity]
    omega

theorem digit?_digit (letters : LetterCase) :
    ∀ value < 16, digit? (digit letters value) = some value := by
  cases letters <;> decide

theorem digit?_lt {character : Char} {value : Nat} (read : digit? character = some value) :
    value < 16 := by
  unfold digit? at read
  split at read
  · next bounds =>
    have last : character.toNat ≤ '9'.toNat := bounds.2
    cases read
    change character.toNat - 48 < 16
    change character.toNat ≤ 57 at last
    omega
  · split at read
    · next bounds =>
      have last : character.toNat ≤ 'f'.toNat := bounds.2
      cases read
      change character.toNat - 97 + 10 < 16
      change character.toNat ≤ 102 at last
      omega
    · split at read
      · next bounds =>
        have last : character.toNat ≤ 'F'.toNat := bounds.2
        cases read
        change character.toNat - 65 + 10 < 16
        change character.toNat ≤ 70 at last
        omega
      · cases read

@[simp]
theorem ofDigits_append_singleton (values : List Nat) (value : Nat) :
    ofDigits (values ++ [value]) = 16 * ofDigits values + value := by
  simp [ofDigits]

/-- The digits of a number denote it, for every reader that knows them. -/
theorem denotes_digits {letters : LetterCase} {reader : Char → Option Nat}
    (knows : ∀ value < 16, reader (digit letters value) = some value) {width number : Nat}
    (fits : number < capacity width) :
    Text.Denotes 16 reader (digits letters width number) number := by
  induction width generalizing number with
  | zero =>
    cases Nat.lt_one_iff.mp fits
    exact .nil
  | succ width ih =>
    have front : number / 16 < capacity width := Nat.div_lt_of_lt_mul fits
    have last := knows (number % 16) (Nat.mod_lt number (by decide))
    have whole := (ih front).snoc last
    rw [Nat.div_add_mod] at whole
    exact whole

theorem Denotes.mapM_digit? {numeral : List Char} {number : Nat}
    (denotes : Denotes numeral number) :
    ∃ values, numeral.mapM digit? = some values ∧ ofDigits values = number := by
  induction denotes with
  | nil => exact ⟨[], rfl, rfl⟩
  | @snoc numeral number character value front last ih =>
    obtain ⟨values, read, total⟩ := ih
    refine ⟨values ++ [value], ?_, ?_⟩
    · simp [List.mapM_append, read, last]
    · rw [ofDigits_append_singleton, total]

theorem denotes_of_mapM_digit? {numeral : List Char} {values : List Nat}
    (read : numeral.mapM digit? = some values) : Denotes numeral (ofDigits values) := by
  induction size : numeral.length generalizing numeral values with
  | zero =>
    cases List.eq_nil_of_length_eq_zero size
    cases read
    exact .nil
  | succ length ih =>
    rcases List.eq_nil_or_concat numeral with rfl | ⟨front, last, rfl⟩
    · cases size
    · rw [List.concat_eq_append] at read size ⊢
      simp only [List.mapM_append, List.mapM_cons, List.mapM_nil] at read
      cases frontRead : front.mapM digit? with
      | none => simp [frontRead] at read
      | some frontValues =>
        cases lastRead : digit? last with
        | none => simp [frontRead, lastRead] at read
        | some value =>
          simp only [frontRead, lastRead, Option.pure_def, Option.bind_eq_bind,
            Option.bind_some, Option.some.injEq] at read
          subst read
          rw [ofDigits_append_singleton]
          exact .snoc (ih frontRead (by simpa using size)) lastRead

/-- A numeral is read exactly if it has a digit and denotes something. -/
theorem value?_eq_some_iff {numeral : List Char} {number : Nat} :
    value? numeral = some number ↔ numeral ≠ [] ∧ Denotes numeral number := by
  unfold value?
  constructor
  · intro read
    split at read
    · cases read
    · next nonempty =>
      obtain ⟨values, digitsRead, rfl⟩ := Option.map_eq_some_iff.mp read
      exact ⟨by simpa using nonempty, denotes_of_mapM_digit? digitsRead⟩
  · rintro ⟨nonempty, denotes⟩
    obtain ⟨values, read, rfl⟩ := denotes.mapM_digit?
    simp [nonempty, read]

theorem value?_digits (letters : LetterCase) {width number : Nat} (wide : 0 < width)
    (fits : number < capacity width) : value? (digits letters width number) = some number := by
  rw [value?_eq_some_iff]
  refine ⟨?_, denotes_digits (digit?_digit letters) fits⟩
  rw [← List.length_pos_iff, length_digits]
  exact wide

/-- A list of digits denotes less than one more place would. -/
theorem Denotes.lt {numeral : List Char} {number : Nat} (denotes : Denotes numeral number) :
    number < capacity numeral.length := by
  induction denotes with
  | nil => exact Nat.one_pos
  | snoc front last ih =>
    have := digit?_lt last
    simp only [List.length_append, List.length_singleton, capacity]
    omega

end Mos6502.Text.Hex
