import Mathlib.Data.List.Basic
import Mos6502.Proofs.ImageText
import Mos6502.Proofs.LetterCase

/-!
# Edits of a line

What a line says is a segment, or nothing, or it cannot be read (`Image.said`). Several edits leave
that as it is: white space at the ends of the line, a comment behind it, another case of its
letters, another gap where blanks stand (`Image.Edits.said_eq`). A gap may lie at an end of the line
or next to other white space, or before or behind the colon, so it is followed through each stage of
reading.
-/

namespace Mos6502

namespace Text

/-- A blank parts the words before it from those after it. -/
theorem words_append_cons_blank (front back : List Char) {blank : Char}
    (separated : isBlank blank) : words (front ++ blank :: back) = words front ++ words back := by
  rw [words, List.splitOnP_append_cons front back separated, List.filter_append]
  rfl

theorem words_append_gap (front back : List Char) {gap : List Char} (nonempty : gap ≠ [])
    (blanks : Blanks gap) : words (front ++ gap ++ back) = words front ++ words back := by
  obtain ⟨blank, gap, rfl⟩ := List.exists_cons_of_ne_nil nonempty
  have later : Blanks gap := fun character member => blanks character (by simp [member])
  rw [List.append_assoc, List.cons_append,
    words_append_cons_blank front _ (blanks blank (by simp)), words_append_of_blanks back later]

/-- Text that is white space throughout. -/
def White (text : List Char) : Prop := ∀ character ∈ text, isWhiteSpace character

theorem trim_append_left {space : List Char} (white : White space) (text : List Char) :
    trim (space ++ text) = trim text := by
  rw [trim, List.dropWhile_append_of_pos white, trim]

theorem trim_append_right {space : List Char} (white : White space) (text : List Char) :
    trim (text ++ space) = trim text := by
  have trims := trims_trim text
  generalize trim text = inner at trims ⊢
  rcases trims with ⟨⟨leading, trailing, rfl, leadingWhite, trailingWhite⟩, first, last⟩
  have behind : White (trailing ++ space) := List.forall_mem_append.mpr ⟨trailingWhite, white⟩
  have around := List.append_assoc (leading ++ inner) trailing space
  exact trim_of_trims ⟨⟨leading, trailing ++ space, around, leadingWhite, behind⟩, first, last⟩

theorem white_of_trim_eq_nil {text : List Char} (gone : trim text = []) : White text := by
  have trims := trims_trim text
  rw [gone] at trims
  rcases trims.around with ⟨leading, trailing, rfl, leadingWhite, trailingWhite⟩
  rw [List.append_nil]
  exact List.forall_mem_append.mpr ⟨leadingWhite, trailingWhite⟩

/-- White space inside a text is either trimmed away, or else kept between what is left of the text
on its two sides. -/
theorem trim_gap (front back : List Char) :
    (∃ inner, ∀ gap, White gap → trim (front ++ gap ++ back) = inner) ∨
      ∃ before after, ∀ gap, White gap → trim (front ++ gap ++ back) = before ++ gap ++ after := by
  by_cases frontGone : trim front = []
  · refine .inl ⟨trim back, ?_⟩
    intro gap white
    exact trim_append_left
      (List.forall_mem_append.mpr ⟨white_of_trim_eq_nil frontGone, white⟩) back
  by_cases backGone : trim back = []
  · refine .inl ⟨trim front, ?_⟩
    intro gap white
    rw [List.append_assoc]
    exact trim_append_right
      (List.forall_mem_append.mpr ⟨white, white_of_trim_eq_nil backGone⟩) front
  have frontTrims := trims_trim front
  have backTrims := trims_trim back
  generalize trim front = frontInner at frontTrims frontGone
  generalize trim back = backInner at backTrims backGone
  rcases frontTrims with ⟨⟨leading, tail, rfl, leadingWhite, _⟩, first, _⟩
  rcases backTrims with ⟨⟨head, trailing, rfl, _, trailingWhite⟩, _, last⟩
  refine .inr ⟨frontInner ++ tail, head ++ backInner, ?_⟩
  intro gap _
  apply trim_of_trims
  constructor
  · exact ⟨leading, trailing, by simp only [List.append_assoc], leadingWhite, trailingWhite⟩
  · obtain ⟨character, rest, rfl⟩ := List.exists_cons_of_ne_nil frontGone
    exact first
  · rw [← List.append_assoc, List.getLast?_append_of_ne_nil _ backGone]
    exact last

end Text

namespace Image

/-- The segment that the words before a colon and those after it make. -/
def assemble (front back : List (List Char)) : Option Segment :=
  match front with
  | [word] => do
    let address ← address? word
    let bytes ← back.mapM byte?
    if bytes.isEmpty then none else some ⟨address, bytes⟩
  | _ => none

theorem segment?_of_not_mem {text : List Char} (absent : ':' ∉ text) : segment? text = none := by
  have nothing : text.dropWhile (· ≠ ':') = [] := by
    rw [List.dropWhile_eq_nil_iff]
    intro character member
    exact decide_eq_true (ne_of_mem_of_not_mem member absent)
  unfold segment?
  rw [nothing]
  rcases Text.words (text.takeWhile (· ≠ ':')) with _ | ⟨word, _ | _⟩ <;> rfl

theorem segment?_append_cons {front : List Char} (back : List Char) (absent : ':' ∉ front) :
    segment? (front ++ ':' :: back) = assemble (Text.words front) (Text.words back) := by
  have inside : ∀ character ∈ front, decide (character ≠ ':') := by
    intro character member
    exact decide_eq_true (ne_of_mem_of_not_mem member absent)
  have before : (front ++ ':' :: back).takeWhile (· ≠ ':') = front :=
    Text.takeWhile_append_of_stop inside (by simp)
  have after : (front ++ ':' :: back).dropWhile (· ≠ ':') = ':' :: back :=
    Text.dropWhile_append_of_stop inside (by simp)
  unfold segment? assemble
  rw [before, after]
  rcases Text.words front with _ | ⟨word, _ | _⟩ <;> rfl

/-- What stands between words does not matter as long as there is some blank. -/
theorem segment?_gap (before after : List Char) {gap other : List Char} (nonempty : gap ≠ [])
    (blanks : Text.Blanks gap) (otherNonempty : other ≠ []) (otherBlanks : Text.Blanks other) :
    segment? (before ++ gap ++ after) = segment? (before ++ other ++ after) := by
  have plain {gap : List Char} (blanks : Text.Blanks gap) : ':' ∉ gap := fun member =>
    absurd (blanks ':' member) (by decide)
  have same (front back : List Char) :
      Text.words (front ++ gap ++ back) = Text.words (front ++ other ++ back) := by
    rw [Text.words_append_gap _ _ nonempty blanks,
      Text.words_append_gap _ _ otherNonempty otherBlanks]
  by_cases early : ':' ∈ before
  · rcases List.eq_append_cons_of_mem early with ⟨front, rest, rfl, absent⟩
    simp only [List.append_assoc, List.cons_append]
    rw [segment?_append_cons _ absent, segment?_append_cons _ absent, ← List.append_assoc, same,
      List.append_assoc]
  have without {gap rest : List Char} (blanks : Text.Blanks gap) (absent : ':' ∉ rest) :
      ':' ∉ before ++ gap ++ rest := by
    simp [early, plain blanks, absent]
  by_cases late : ':' ∈ after
  · rcases List.eq_append_cons_of_mem late with ⟨front, rest, rfl, absent⟩
    rw [← List.append_assoc, ← List.append_assoc, segment?_append_cons _ (without blanks absent),
      segment?_append_cons _ (without otherBlanks absent), same]
  · rw [segment?_of_not_mem (without blanks late), segment?_of_not_mem (without otherBlanks late)]

theorem assemble_map_toLower (front back : List (List Char)) :
    assemble (front.map (·.map Char.toLower)) (back.map (·.map Char.toLower)) =
      assemble front back := by
  have number (limit : Nat) (word : List Char) :
      number? limit (word.map Char.toLower) = number? limit word := by
    rw [number?, number?, List.length_map, Text.Hex.value?_map_toLower]
  have bytes : (byte? ∘ fun word : List Char => word.map Char.toLower) = byte? := by
    funext word
    simp only [Function.comp_apply, byte?, number]
  rcases front with _ | ⟨word, _ | _⟩
  · rfl
  · simp only [assemble, List.map_cons, List.map_nil, address?, number, List.mapM_map, bytes]
  · rfl

theorem segment?_map_toLower (text : List Char) :
    segment? (text.map Char.toLower) = segment? text := by
  have colon {text : List Char} : ':' ∈ text.map Char.toLower ↔ ':' ∈ text :=
    Text.mem_map_toLower_iff (by decide)
  by_cases present : ':' ∈ text
  · rcases List.eq_append_cons_of_mem present with ⟨front, back, rfl, absent⟩
    have small : Char.toLower ':' = ':' := rfl
    rw [List.map_append, List.map_cons, small, segment?_append_cons _ (colon.not.mpr absent),
      segment?_append_cons _ absent, Text.words_map_toLower, Text.words_map_toLower,
      assemble_map_toLower]
  · rw [segment?_of_not_mem (colon.not.mpr present), segment?_of_not_mem present]

/-- What a line says: nothing or a segment, unless it cannot be read. -/
def said (line : List Char) : Option (Option Segment) :=
  if (content line).isEmpty then some none else (segment? (content line)).map some

theorem readLine_eq (number : Nat) (line : List Char) :
    readLine number line =
      match said line with
      | some found => .ok found
      | none => .error (.malformed number (String.ofList line)) := by
  unfold readLine said
  split
  · rfl
  · cases segment? (content line) <;> rfl

/-- What may be done to a line that has no line feed: white space at its ends, a comment behind it,
another case of its letters, other blanks where blanks stand, and a carriage return. -/
inductive Edits : List Char → List Char → Prop where
  | indent (line : List Char) {space : List Char} (white : Text.White space)
      (unbroken : '\n' ∉ space) : Edits line (space ++ line)
  | pad (line : List Char) {space : List Char} (white : Text.White space)
      (unbroken : '\n' ∉ space) : Edits line (line ++ space)
  | comment (line : List Char) {sign : Char} {note : List Char} (starts : startsComment sign)
      (unbroken : '\n' ∉ note) : Edits line (line ++ sign :: note)
  | recase {line edited : List Char}
      (same : line.map Char.toLower = edited.map Char.toLower) : Edits line edited
  | respace (front back : List Char) {gap other : List Char} (nonempty : gap ≠ [])
      (blanks : Text.Blanks gap) (otherNonempty : other ≠ []) (otherBlanks : Text.Blanks other) :
      Edits (front ++ gap ++ back) (front ++ other ++ back)
  | carriageReturn (line : List Char) : Edits line (line ++ ['\r'])

/-- The part of a line before its comment. -/
def uncommented (line : List Char) : List Char :=
  line.takeWhile fun character => !startsComment character

@[simp]
theorem uncommented_nil : uncommented [] = [] := rfl

theorem content_eq_trim (line : List Char) : content line = Text.trim (uncommented line) := rfl

theorem startsComment_of_white {character : Char} (white : Text.isWhiteSpace character) :
    startsComment character = false := by
  rw [← Bool.not_eq_true]
  intro starts
  simp only [startsComment, Bool.or_eq_true, decide_eq_true_eq] at starts
  rcases starts with rfl | rfl <;> exact absurd white (by decide)

theorem uncommented_white_append {space : List Char} (white : Text.White space)
    (line : List Char) : uncommented (space ++ line) = space ++ uncommented line := by
  apply List.takeWhile_append_of_pos
  intro character member
  rw [startsComment_of_white (white character member)]
  rfl

/-- What follows a text is cut off with the comment of that text, if it has one. -/
theorem uncommented_append (front : List Char) :
    (∀ back, uncommented (front ++ back) = uncommented front) ∨
      ∀ back, uncommented (front ++ back) = front ++ uncommented back := by
  by_cases plain : ∀ character ∈ front, !startsComment character
  · exact .inr fun back => List.takeWhile_append_of_pos plain
  · refine .inl fun back => ?_
    have cut : (uncommented front).length ≠ front.length := by
      intro whole
      have initial : uncommented front <+: front := List.takeWhile_prefix _
      exact plain (List.takeWhile_eq_self_iff.mp (initial.eq_of_length whole))
    exact List.takeWhile_append.trans (if_neg cut)

theorem uncommented_map_toLower (line : List Char) :
    uncommented (line.map Char.toLower) = (uncommented line).map Char.toLower := by
  have same : (fun character => !startsComment character) ∘ Char.toLower =
      fun character => !startsComment character :=
    funext fun character =>
      Text.toLower_congr (f := fun character => !startsComment character) (by decide) character
  rw [uncommented, List.takeWhile_map, same, uncommented]

theorem content_append_left {space : List Char} (white : Text.White space) (line : List Char) :
    content (space ++ line) = content line := by
  rw [content_eq_trim, uncommented_white_append white, Text.trim_append_left white,
    content_eq_trim]

/-- What is put behind a line does not count if it has only white space before a comment. -/
theorem content_append_of_white (line : List Char) {back : List Char}
    (white : Text.White (uncommented back)) : content (line ++ back) = content line := by
  rw [content_eq_trim, content_eq_trim]
  rcases uncommented_append line with cut | whole
  · rw [cut]
  · have bare : uncommented line = line := by simpa using whole []
    rw [whole, bare, Text.trim_append_right white]

theorem content_append_right {space : List Char} (white : Text.White space) (line : List Char) :
    content (line ++ space) = content line := by
  have bare : uncommented space = space := by simpa using uncommented_white_append white []
  apply content_append_of_white
  rw [bare]
  exact white

theorem content_append_comment (line : List Char) {sign : Char} (note : List Char)
    (starts : startsComment sign) : content (line ++ sign :: note) = content line := by
  have none : uncommented (sign :: note) = [] := by
    rw [uncommented, List.takeWhile_cons_of_neg (by simpa using starts)]
  apply content_append_of_white
  rw [none]
  exact List.forall_mem_nil _

theorem said_map_toLower (line : List Char) : said (line.map Char.toLower) = said line := by
  rw [said, content_eq_trim, uncommented_map_toLower, Text.trim_map_toLower,
    List.isEmpty_map, segment?_map_toLower, said, content_eq_trim]

theorem white_of_blanks {gap : List Char} (blanks : Text.Blanks gap) : Text.White gap :=
  fun character member => isWhiteSpace_of_isBlank (blanks character member)

theorem said_gap (front back : List Char) {gap other : List Char} (nonempty : gap ≠ [])
    (blanks : Text.Blanks gap) (otherNonempty : other ≠ []) (otherBlanks : Text.Blanks other) :
    said (front ++ gap ++ back) = said (front ++ other ++ back) := by
  rcases uncommented_append front with cut | whole
  · simp only [said, content_eq_trim, List.append_assoc, cut]
  · have white := white_of_blanks blanks
    have otherWhite := white_of_blanks otherBlanks
    have kept {gap : List Char} (white : Text.White gap) :
        content (front ++ gap ++ back) = Text.trim (front ++ gap ++ uncommented back) := by
      rw [content_eq_trim, List.append_assoc, whole, uncommented_white_append white,
        List.append_assoc]
    rw [said, said, kept white, kept otherWhite]
    rcases Text.trim_gap front (uncommented back) with ⟨inner, trimmed⟩ | ⟨before, after, trimmed⟩
    · rw [trimmed gap white, trimmed other otherWhite]
    · -- The gap is inside, so neither of the two texts is empty.
      rw [trimmed gap white, trimmed other otherWhite,
        segment?_gap before after nonempty blanks otherNonempty otherBlanks]
      simp [nonempty, otherNonempty]

theorem white_carriageReturn : Text.White ['\r'] := by
  intro character member
  rw [List.mem_singleton.mp member]
  decide

theorem Edits.said_eq {line edited : List Char} (edits : Edits line edited) :
    said edited = said line := by
  cases edits with
  | indent _ white _ => simp only [said, content_append_left white]
  | pad _ white _ => simp only [said, content_append_right white]
  | comment _ starts _ => simp only [said, content_append_comment _ _ starts]
  | recase same => rw [← said_map_toLower, ← same, said_map_toLower]
  | respace front back nonempty blanks otherNonempty otherBlanks =>
      exact said_gap front back otherNonempty otherBlanks nonempty blanks
  | carriageReturn => simp only [said, content_append_right white_carriageReturn]

/-- An edited line is still one line. -/
theorem Edits.unbroken {line edited : List Char} (edits : Edits line edited)
    (unbroken : '\n' ∉ line) : '\n' ∉ edited := by
  cases edits with
  | indent _ _ spaceUnbroken => simp [unbroken, spaceUnbroken]
  | pad _ _ spaceUnbroken => simp [unbroken, spaceUnbroken]
  | @comment _ sign note starts noteUnbroken =>
      have sign : '\n' ≠ sign := by
        rintro rfl
        exact absurd starts (by decide)
      simp [unbroken, noteUnbroken, sign]
  | recase same =>
      have feed {text : List Char} : '\n' ∈ text.map Char.toLower ↔ '\n' ∈ text :=
        Text.mem_map_toLower_iff (by decide)
      rwa [← feed, ← same, feed]
  | respace front back _ _ _ otherBlanks =>
      have gapUnbroken : '\n' ∉ _ := fun member => absurd (otherBlanks '\n' member) (by decide)
      simp only [List.mem_append, not_or] at unbroken ⊢
      exact ⟨⟨unbroken.1.1, gapUnbroken⟩, unbroken.2⟩
  | carriageReturn => simp [unbroken]

end Image

end Mos6502
