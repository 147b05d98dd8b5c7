import Mathlib.Data.List.TakeWhile
import Mos6502.Image.Grammar

/-!
# The meaning of image texts

Relations say what an image text means, and not how it is read: how the text falls into lines, what
of a line is left without its comment and the white space around it, which segments the lines write,
and which line is the first that may not stand there. Lines always amount to something
(`Image.exists_answers`), and the reader answers what they amount to
(`Image.parseLines_of_answers`), so it accepts the grammar and nothing else.
-/

namespace Mos6502

namespace Text

/-- A text falls into lines. A line feed ends a line, together with a carriage return before it; the
last line may have no ending. -/
inductive Divides : List Char → List (List Char) → Prop where
  | empty : Divides [] []
  | unended {line : List Char} (nonempty : line ≠ []) (unbroken : '\n' ∉ line) :
      Divides line [line]
  | feed {line rest : List Char} {lines : List (List Char)} (unbroken : '\n' ∉ line)
      (noReturn : line.getLast? ≠ some '\r') (later : Divides rest lines) :
      Divides (line ++ '\n' :: rest) (line :: lines)
  | returnFeed {line rest : List Char} {lines : List (List Char)} (unbroken : '\n' ∉ line)
      (later : Divides rest lines) :
      Divides (line ++ '\r' :: '\n' :: rest) (line :: lines)

/-- A text is some inner text with white space around it, and the inner one has none at its ends. -/
structure Trims (text inner : List Char) : Prop where
  around : ∃ leading trailing, text = leading ++ inner ++ trailing ∧
    (∀ character ∈ leading, isWhiteSpace character) ∧
      ∀ character ∈ trailing, isWhiteSpace character
  first : ∀ character ∈ inner.head?, isWhiteSpace character = false
  last : ∀ character ∈ inner.getLast?, isWhiteSpace character = false

theorem lines_of_divides {text : List Char} {found : List (List Char)}
    (divides : Divides text found) : lines text = found := by
  induction divides with
  | empty => rfl
  | unended nonempty unbroken => simp [lines_of_not_mem unbroken, nonempty]
  | feed unbroken noReturn _ ih =>
      rw [lines_append_newline _ unbroken, ih, dropReturn, if_neg noReturn]
  | @returnFeed line rest lines unbroken _ ih =>
      have whole : line ++ '\r' :: '\n' :: rest = (line ++ ['\r']) ++ '\n' :: rest := by simp
      have stillUnbroken : '\n' ∉ line ++ ['\r'] := by simp [unbroken]
      rw [whole, lines_append_newline _ stillUnbroken, ih]
      simp [dropReturn]

theorem divides_lines (text : List Char) : Divides text (lines text) := by
  induction size : text.length using Nat.strongRecOn generalizing text with
  | ind length ih =>
      subst size
      by_cases broken : '\n' ∈ text
      · rcases List.eq_append_cons_of_mem broken with ⟨line, rest, rfl, unbroken⟩
        have later : Divides rest (lines rest) := ih rest.length (by simp; omega) rest rfl
        rw [lines_append_newline rest unbroken]
        by_cases returned : line.getLast? = some '\r'
        · rw [dropReturn, if_pos returned]
          rcases List.getLast?_eq_some_iff.mp returned with ⟨front, rfl⟩
          have frontUnbroken : '\n' ∉ front := fun mem => unbroken (List.mem_append_left _ mem)
          simpa using Divides.returnFeed frontUnbroken later
        · rw [dropReturn, if_neg returned]
          exact .feed unbroken returned later
      · rw [lines_of_not_mem broken]
        rcases List.eq_nil_or_concat text with rfl | ⟨front, last, rfl⟩
        · exact .empty
        · simpa using Divides.unended (by simp) broken

theorem lines_eq_iff_divides {text : List Char} {found : List (List Char)} :
    lines text = found ↔ Divides text found := by
  constructor
  · rintro rfl
    exact divides_lines text
  · exact lines_of_divides

theorem dropWhile_append_of_stop {goesOn : Char → Bool} {run rest : List Char}
    (inside : ∀ character ∈ run, goesOn character)
    (stop : ∀ character ∈ rest.head?, goesOn character = false) :
    (run ++ rest).dropWhile goesOn = rest := by
  rw [List.dropWhile_append_of_pos inside]
  cases rest with
  | nil => rfl
  | cons first rest => rw [List.dropWhile_cons_of_neg (by simp [stop first rfl])]

theorem takeWhile_append_of_stop {goesOn : Char → Bool} {run rest : List Char}
    (inside : ∀ character ∈ run, goesOn character)
    (stop : ∀ character ∈ rest.head?, goesOn character = false) :
    (run ++ rest).takeWhile goesOn = run := by
  rw [List.takeWhile_append_of_pos inside]
  cases rest with
  | nil => exact List.append_nil run
  | cons first rest =>
      rw [List.takeWhile_cons_of_neg (by simp [stop first rfl]), List.append_nil]

theorem trim_of_trims {text inner : List Char} (trims : Trims text inner) : trim text = inner := by
  rcases trims.around with ⟨leading, trailing, rfl, leadingWhite, trailingWhite⟩
  rw [trim]
  by_cases empty : inner = []
  · subst empty
    have trailingGone : trailing.dropWhile isWhiteSpace = [] :=
      List.dropWhile_eq_nil_iff.mpr trailingWhite
    rw [List.append_nil, List.dropWhile_append_of_pos leadingWhite, trailingGone]
    rfl
  · have first : ∀ character ∈ (inner ++ trailing).head?, isWhiteSpace character = false := by
      rcases List.exists_cons_of_ne_nil empty with ⟨character, rest, rfl⟩
      exact trims.first
    have last : ∀ character ∈ inner.reverse.head?, isWhiteSpace character = false := by
      rw [List.head?_reverse]
      exact trims.last
    have trailingReversed : ∀ character ∈ trailing.reverse, isWhiteSpace character := by
      intro character mem
      exact trailingWhite character (List.mem_reverse.mp mem)
    rw [List.append_assoc, dropWhile_append_of_stop leadingWhite first, List.reverse_append,
      dropWhile_append_of_stop trailingReversed last, List.reverse_reverse]

theorem trims_trim (text : List Char) : Trims text (trim text) where
  around := by
    have front : text.takeWhile isWhiteSpace ++ text.dropWhile isWhiteSpace = text :=
      List.takeWhile_append_dropWhile
    rw [trim]
    generalize text.dropWhile isWhiteSpace = rest at front ⊢
    have back : (rest.reverse.dropWhile isWhiteSpace).reverse ++
        (rest.reverse.takeWhile isWhiteSpace).reverse = rest := by
      rw [← List.reverse_append, List.takeWhile_append_dropWhile, List.reverse_reverse]
    refine ⟨text.takeWhile isWhiteSpace, (rest.reverse.takeWhile isWhiteSpace).reverse, ?_, ?_, ?_⟩
    · rw [List.append_assoc, back, front]
    · intro character mem
      exact List.mem_takeWhile_imp mem
    · intro character mem
      exact List.mem_takeWhile_imp (List.mem_reverse.mp mem)
  first _ mem := isWhiteSpace_of_mem_head?_trim mem
  last _ mem := isWhiteSpace_of_mem_getLast?_trim mem

/-- What trimming leaves is the inner text, and there is only one. -/
theorem trim_eq_iff_trims {text inner : List Char} : trim text = inner ↔ Trims text inner := by
  constructor
  · rintro rfl
    exact trims_trim text
  · exact trim_of_trims

end Text

namespace Image

/-- What is kept of a line: it has no comment sign, and it goes as far as the first one. -/
structure Cuts (line kept : List Char) : Prop where
  comment : ∃ comment, line = kept ++ comment ∧
    ∀ first ∈ comment.head?, startsComment first
  plain : ∀ character ∈ kept, startsComment character = false

def Content (line text : List Char) : Prop := ∃ kept, Cuts line kept ∧ Text.Trims kept text

def Blank (line : List Char) : Prop := Content line []

def Writes (line : List Char) (segment : Segment) : Prop :=
  ∃ text, Content line text ∧ WritesSegment text segment

/-- A line that may stand in an image. -/
def Fine (line : List Char) : Prop := Blank line ∨ ∃ segment, Writes line segment

inductive Collects : List (List Char) → List Segment → Prop where
  | nil : Collects [] []
  | blank {line : List Char} {lines : List (List Char)} {segments : List Segment}
      (blank : Blank line) (later : Collects lines segments) : Collects (line :: lines) segments
  | segment {line : List Char} {lines : List (List Char)} {segment : Segment}
      {segments : List Segment} (writes : Writes line segment)
      (later : Collects lines segments) : Collects (line :: lines) (segment :: segments)

/-- What the lines amount to: an image if all of them are fine, and else the first that is not,
which is counted from one and given in full. -/
inductive Answers (lines : List (List Char)) : Except ImageError Image → Prop where
  | image {segments : List Segment} (collects : Collects lines segments) :
      Answers lines (.ok ⟨segments⟩)
  | malformed {earlier later : List (List Char)} {line : List Char}
      (split : lines = earlier ++ line :: later) (fine : ∀ before ∈ earlier, Fine before)
      (bad : ¬Fine line) :
      Answers lines (.error (.malformed (earlier.length + 1) (String.ofList line)))

theorem takeWhile_eq_iff_cuts {line kept : List Char} :
    line.takeWhile (fun character => !startsComment character) = kept ↔ Cuts line kept := by
  constructor
  · rintro rfl
    constructor
    · refine ⟨_, List.takeWhile_append_dropWhile.symm, ?_⟩
      intro first mem
      have stopped := List.head?_dropWhile_not (fun character => !startsComment character) line
      rw [Option.mem_def.mp mem] at stopped
      simpa using stopped
    · intro character mem
      simpa using List.mem_takeWhile_imp mem
  · rintro ⟨⟨comment, rfl, first⟩, plain⟩
    apply Text.takeWhile_append_of_stop
    · intro character mem
      simp [plain character mem]
    · intro character mem
      simp [first character mem]

theorem content_eq_iff {line text : List Char} : content line = text ↔ Content line text := by
  rw [content, Text.trim_eq_iff_trims]
  constructor
  · intro trims
    exact ⟨_, takeWhile_eq_iff_cuts.mp rfl, trims⟩
  · rintro ⟨kept, cuts, trims⟩
    rw [takeWhile_eq_iff_cuts.mpr cuts]
    exact trims

theorem blank_iff {line : List Char} : Blank line ↔ content line = [] := content_eq_iff.symm

theorem writes_iff {line : List Char} {segment : Segment} :
    Writes line segment ↔ segment? (content line) = some segment := by
  rw [segment?_eq_some_iff (trimmed_content line)]
  constructor
  · rintro ⟨text, isContent, written⟩
    rw [content_eq_iff.mpr isContent]
    exact written
  · intro written
    exact ⟨content line, content_eq_iff.mp rfl, written⟩

theorem readLine_of_blank (number : Nat) {line : List Char} (blank : Blank line) :
    readLine number line = .ok none := by
  rw [readLine, blank_iff.mp blank]
  rfl

theorem readLine_of_writes (number : Nat) {line : List Char} {segment : Segment}
    (writes : Writes line segment) : readLine number line = .ok (some segment) := by
  have read := writes_iff.mp writes
  have nonempty : ¬(content line).isEmpty := by
    intro empty
    rw [List.isEmpty_iff.mp empty] at read
    cases read
  rw [readLine, if_neg nonempty, read]

theorem readLine_of_not_fine (number : Nat) {line : List Char} (bad : ¬Fine line) :
    readLine number line = .error (.malformed number (String.ofList line)) := by
  have nonempty : ¬(content line).isEmpty := fun empty =>
    bad (.inl (blank_iff.mpr (List.isEmpty_iff.mp empty)))
  have unread : segment? (content line) = none := by
    apply Option.eq_none_iff_forall_ne_some.mpr
    intro segment read
    exact bad (.inr ⟨segment, writes_iff.mpr read⟩)
  rw [readLine, if_neg nonempty, unread]

theorem parseLines_of_collects {lines : List (List Char)} {segments : List Segment}
    (collects : Collects lines segments) (number : Nat) :
    parseLines number lines = .ok ⟨segments⟩ := by
  induction collects generalizing number with
  | nil => rfl
  | blank blank _ ih =>
      rw [parseLines_cons, readLine_of_blank number blank, ih]
      rfl
  | segment writes _ ih =>
      rw [parseLines_cons, readLine_of_writes number writes, ih]
      rfl

/-- Fine lines are passed over on the way to the first that is not. -/
theorem parseLines_of_not_fine {earlier : List (List Char)} {line : List Char}
    (fine : ∀ before ∈ earlier, Fine before) (bad : ¬Fine line) (number : Nat)
    (later : List (List Char)) :
    parseLines number (earlier ++ line :: later) =
      .error (.malformed (number + earlier.length) (String.ofList line)) := by
  induction earlier generalizing number with
  | nil =>
      rw [List.nil_append, parseLines_cons, readLine_of_not_fine number bad]
      rfl
  | cons before earlier ih =>
      have rest := ih (fun other mem => fine other (List.mem_cons_of_mem before mem)) (number + 1)
      have count : number + 1 + earlier.length = number + (before :: earlier).length := by
        rw [List.length_cons]
        omega
      rw [List.cons_append, parseLines_cons, rest, count]
      rcases fine before List.mem_cons_self with blank | ⟨segment, writes⟩
      · rw [readLine_of_blank number blank]
        rfl
      · rw [readLine_of_writes number writes]
        rfl

theorem parseLines_of_answers {lines : List (List Char)} {answer : Except ImageError Image}
    (answers : Answers lines answer) : parseLines 1 lines = answer := by
  cases answers with
  | image collects => exact parseLines_of_collects collects 1
  | @malformed earlier later line split fine bad =>
      rw [split, parseLines_of_not_fine fine bad, Nat.add_comm]

theorem exists_answers (lines : List (List Char)) : ∃ answer, Answers lines answer := by
  induction lines with
  | nil => exact ⟨_, .image .nil⟩
  | cons line lines ih =>
      by_cases fine : Fine line
      · rcases ih with ⟨_, collects | @⟨earlier, later, bad, split, earlierFine, notFine⟩⟩
        · rcases fine with blank | ⟨segment, writes⟩
          · exact ⟨_, .image (.blank blank collects)⟩
          · exact ⟨_, .image (.segment writes collects)⟩
        · have allFine : ∀ before ∈ line :: earlier, Fine before := by
            intro before mem
            rcases List.mem_cons.mp mem with rfl | mem
            · exact fine
            · exact earlierFine before mem
          exact ⟨_, .malformed (congrArg (line :: ·) split) allFine notFine⟩
      · exact ⟨_, .malformed (List.nil_append _).symm nofun fine⟩

end Image

end Mos6502
