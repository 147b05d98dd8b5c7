/-!
# Words

Words are separated by blanks, which are spaces and tabs. The words of a text are exactly its
longest runs of other characters (`spaced_words`).
-/

namespace Mos6502.Text

/-- Whether a character is a space or a tab. -/
def isBlank (character : Char) : Bool := character = ' ' || character = '\t'

/-- The words of a text. -/
def words (text : List Char) : List (List Char) :=
  (text.splitOnP isBlank).filter fun word => !word.isEmpty

/-- Text that is blank throughout. -/
def Blanks (text : List Char) : Prop := ∀ character ∈ text, isBlank character

/-- Text without a blank. -/
def Solid (text : List Char) : Prop := ∀ character ∈ text, isBlank character = false

/-- A text is made of words: blanks stand before each, a blank or the end after each. -/
inductive Spaced : List (List Char) → List Char → Prop where
  | nil {gap : List Char} (blanks : Blanks gap) : Spaced [] gap
  | last {gap word : List Char} (blanks : Blanks gap) (nonempty : word ≠ []) (solid : Solid word) :
      Spaced [word] (gap ++ word)
  | cons {gap word : List Char} {blank : Char} {words : List (List Char)} {rest : List Char}
      (blanks : Blanks gap) (nonempty : word ≠ []) (solid : Solid word)
      (separated : isBlank blank) (later : Spaced words (blank :: rest)) :
      Spaced (word :: words) (gap ++ word ++ blank :: rest)

@[simp]
theorem words_nil : words [] = [] := rfl

theorem words_cons_of_isBlank {blank : Char} (rest : List Char) (separated : isBlank blank) :
    words (blank :: rest) = words rest := by
  simp [words, List.splitOnP_cons_eq_if_modifyHead, separated]

theorem words_append_of_blanks {gap : List Char} (rest : List Char) (blanks : Blanks gap) :
    words (gap ++ rest) = words rest := by
  induction gap with
  | nil => rfl
  | cons blank gap ih =>
    rw [List.cons_append, words_cons_of_isBlank _ (blanks blank (by simp))]
    exact ih fun character mem => blanks character (by simp [mem])

theorem words_of_blanks {gap : List Char} (blanks : Blanks gap) : words gap = [] := by
  simpa using words_append_of_blanks [] blanks

theorem words_of_solid {word : List Char} (nonempty : word ≠ []) (solid : Solid word) :
    words word = [word] := by
  simp [words, List.splitOnP_eq_singleton solid, nonempty]

theorem words_append_cons {word : List Char} {blank : Char} (rest : List Char)
    (nonempty : word ≠ []) (solid : Solid word) (separated : isBlank blank) :
    words (word ++ blank :: rest) = word :: words (blank :: rest) := by
  rw [words_cons_of_isBlank rest separated]
  simp [words, List.splitOnP_append_cons_of_forall_mem solid blank separated, nonempty]

/-- Text is its words and the blanks between them. -/
theorem words_eq_of_spaced {found : List (List Char)} {text : List Char}
    (spaced : Spaced found text) : words text = found := by
  induction spaced with
  | nil blanks => exact words_of_blanks blanks
  | last blanks nonempty solid =>
    rw [words_append_of_blanks _ blanks, words_of_solid nonempty solid]
  | cons blanks nonempty solid separated later ih =>
    rw [List.append_assoc, words_append_of_blanks _ blanks,
      words_append_cons _ nonempty solid separated, ih]

theorem spaced_words (text : List Char) : Spaced (words text) text := by
  induction size : text.length using Nat.strongRecOn generalizing text with
  | ind length ih =>
    subst size
    have gapBlank : Blanks (text.takeWhile isBlank) := by
      intro character mem
      exact List.all_eq_true.mp List.all_takeWhile character mem
    have whole : text.takeWhile isBlank ++ text.dropWhile isBlank = text :=
      List.takeWhile_append_dropWhile
    generalize text.takeWhile isBlank = gap at gapBlank whole
    cases after : text.dropWhile isBlank with
    | nil =>
      rw [after, List.append_nil] at whole
      subst whole
      rw [words_of_blanks gapBlank]
      exact .nil gapBlank
    | cons first rest =>
      have firstSolid : isBlank first = false := by
        have head := List.head_dropWhile_not isBlank (l := text) (by simp [after])
        simpa [after] using head
      rw [after] at whole
      have split : (first :: rest).takeWhile (fun character => !isBlank character) ++
          (first :: rest).dropWhile (fun character => !isBlank character) = first :: rest :=
        List.takeWhile_append_dropWhile
      have solid : Solid ((first :: rest).takeWhile fun character => !isBlank character) := by
        intro character mem
        simpa using List.all_eq_true.mp List.all_takeWhile character mem
      have nonempty : (first :: rest).takeWhile (fun character => !isBlank character) ≠ [] := by
        simp [firstSolid]
      have blankNext : ∀ (blank : Char) (later : List Char),
          (first :: rest).dropWhile (fun character => !isBlank character) = blank :: later →
            isBlank blank := by
        intro blank later found
        have head := List.head_dropWhile_not (fun character => !isBlank character)
          (l := first :: rest) (by simp [found])
        simpa [found] using head
      generalize (first :: rest).takeWhile (fun character => !isBlank character) = word
        at split solid nonempty
      cases later : (first :: rest).dropWhile (fun character => !isBlank character) with
      | nil =>
        rw [later, List.append_nil] at split
        rw [← whole, ← split, words_append_of_blanks _ gapBlank, words_of_solid nonempty solid]
        exact .last gapBlank nonempty solid
      | cons blank remaining =>
        have separated := blankNext blank remaining later
        rw [later] at split
        rw [← whole, ← split, words_append_of_blanks _ gapBlank,
          words_append_cons _ nonempty solid separated, ← List.append_assoc]
        refine .cons gapBlank nonempty solid separated (ih _ ?_ _ rfl)
        have positive := List.length_pos_iff.mpr nonempty
        rw [← whole, ← split]
        simp only [List.length_append]
        omega

end Mos6502.Text
