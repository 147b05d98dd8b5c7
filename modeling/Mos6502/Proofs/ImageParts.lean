import Mathlib.Data.List.Basic
import Mos6502.Proofs.ImageText

/-!
# Images in parts

A text of whole lines can be followed by any other text, and then the lines of the two are the lines
of the whole (`Text.Divides.append`). So an image may be read and loaded part by part, and a fault
in the second part is the fault of the whole, at a line that lies further down by the lines of the
first part (`Image.parse_append`).
-/

namespace Mos6502

namespace Text

/-- Every line of the text is ended: the text is empty, or a line feed is its last character. -/
def Ended (text : List Char) : Prop := text = [] ∨ text.getLast? = some '\n'

theorem Ended.of_append_cons {line rest : List Char} (ended : Ended (line ++ '\n' :: rest)) :
    Ended rest := by
  by_cases empty : rest = []
  · exact .inl empty
  · rcases ended with nothing | feed
    · simp at nothing
    · right
      rwa [List.append_cons, List.getLast?_append_of_ne_nil _ empty] at feed

theorem Ended.of_return {line rest : List Char} (ended : Ended (line ++ '\r' :: '\n' :: rest)) :
    Ended rest := by
  have longer : Ended ((line ++ ['\r']) ++ '\n' :: rest) := by simpa using ended
  exact longer.of_append_cons

/-- An unended line can only be the last one. -/
theorem not_ended {line : List Char} (nonempty : line ≠ []) (unbroken : '\n' ∉ line) :
    ¬Ended line := by
  rintro (empty | feed)
  · exact nonempty empty
  · exact unbroken (List.mem_of_getLast? feed)

theorem Divides.append {first second : List Char} {lines further : List (List Char)}
    (start : Divides first lines) (ended : Ended first) (finish : Divides second further) :
    Divides (first ++ second) (lines ++ further) := by
  induction start with
  | empty => exact finish
  | unended nonempty unbroken => exact absurd ended (not_ended nonempty unbroken)
  | feed unbroken noReturn _ ih =>
      simpa using Divides.feed unbroken noReturn (ih ended.of_append_cons)
  | returnFeed unbroken _ ih =>
      simpa using Divides.returnFeed unbroken (ih ended.of_return)

theorem Divides.length_eq {text : List Char} {lines : List (List Char)}
    (divides : Divides text lines) (ended : Ended text) : lines.length = text.count '\n' := by
  induction divides with
  | empty => rfl
  | unended nonempty unbroken => exact absurd ended (not_ended nonempty unbroken)
  | feed unbroken _ _ ih =>
      simp [ih ended.of_append_cons, List.count_eq_zero.mpr unbroken]
  | returnFeed unbroken _ ih =>
      simp [ih ended.of_return, List.count_eq_zero.mpr unbroken]

theorem lines_append {first : List Char} (ended : Ended first) (second : List Char) :
    lines (first ++ second) = lines first ++ lines second :=
  lines_of_divides ((divides_lines first).append ended (divides_lines second))

end Text

namespace Image

theorem Collects.fine {lines : List (List Char)} {segments : List Segment}
    (collects : Collects lines segments) : ∀ line ∈ lines, Fine line := by
  induction collects with
  | nil => exact nofun
  | blank blank _ ih => exact List.forall_mem_cons.mpr ⟨.inl blank, ih⟩
  | segment writes _ ih => exact List.forall_mem_cons.mpr ⟨.inr ⟨_, writes⟩, ih⟩

theorem Collects.append {first second : List (List Char)} {segments further : List Segment}
    (start : Collects first segments) (finish : Collects second further) :
    Collects (first ++ second) (segments ++ further) := by
  induction start with
  | nil => exact finish
  | blank blank _ ih => exact .blank blank ih
  | segment writes _ ih => exact .segment writes ih

namespace Answers

theorem append_of_error {first : List (List Char)} {fault : ImageError}
    (answers : Answers first (.error fault)) (second : List (List Char)) :
    Answers (first ++ second) (.error fault) := by
  cases answers with
  | @malformed earlier later line split fine bad =>
      have longer : first ++ second = earlier ++ line :: (later ++ second) := by simp [split]
      exact .malformed longer fine bad

theorem append {first second : List (List Char)} {front rest : Image}
    (start : Answers first (.ok front)) (finish : Answers second (.ok rest)) :
    Answers (first ++ second) (.ok (front ++ rest)) := by
  cases start with
  | image collects =>
      cases finish with
      | image collectsRest => exact .image (collects.append collectsRest)

/-- The lines of a first part that is fine count for the line of a fault after them. -/
theorem append_error {first second : List (List Char)} {front : Image} {fault : ImageError}
    (start : Answers first (.ok front)) (finish : Answers second (.error fault)) :
    ∃ line text, fault = .malformed line text ∧
      Answers (first ++ second) (.error (.malformed (line + first.length) text)) := by
  cases start with
  | image collects =>
      cases finish with
      | @malformed earlier later line split fine bad =>
          subst split
          have allFine : ∀ before ∈ first ++ earlier, Fine before :=
            List.forall_mem_append.mpr ⟨collects.fine, fine⟩
          have count : (first ++ earlier).length + 1 = earlier.length + 1 + first.length := by
            rw [List.length_append]
            omega
          refine ⟨_, _, rfl, ?_⟩
          rw [← count]
          exact .malformed (List.append_assoc _ _ _).symm allFine bad

end Answers

theorem answers_parse (text : String) : Answers (Text.lines text.toList) (parse text) := by
  rcases exists_answers (Text.lines text.toList) with ⟨answer, answers⟩
  rw [parse, parseLines_of_answers answers]
  exact answers

theorem parse_append_of_answers {front rest : String} (ended : Text.Ended front.toList)
    {answer : Except ImageError Image}
    (answers : Answers (Text.lines front.toList ++ Text.lines rest.toList) answer) :
    parse (front ++ rest) = answer := by
  rw [parse, String.toList_append, Text.lines_append ended]
  exact parseLines_of_answers answers

/-- A text of whole lines and a text after it are read one after the other. The first fault decides,
and one in the second text is found below all lines of the first. -/
theorem parse_append {front : String} (ended : Text.Ended front.toList) (rest : String) :
    (∀ fault, parse front = .error fault → parse (front ++ rest) = .error fault) ∧
      (∀ image further, parse front = .ok image → parse rest = .ok further →
        parse (front ++ rest) = .ok (image ++ further) ∧
          (image ++ further).segments = image.segments ++ further.segments ∧
          ∀ memory, (image ++ further).loadInto memory =
            further.loadInto (image.loadInto memory)) ∧
      ∀ image fault, parse front = .ok image → parse rest = .error fault →
        ∃ line text, fault = .malformed line text ∧
          parse (front ++ rest) =
            .error (.malformed (line + front.toList.count '\n') text) := by
  have start := answers_parse front
  have finish := answers_parse rest
  refine ⟨?_, ?_, ?_⟩
  · intro fault failed
    rw [failed] at start
    exact parse_append_of_answers ended (start.append_of_error _)
  · intro image further read readRest
    rw [read] at start
    rw [readRest] at finish
    refine ⟨parse_append_of_answers ended (start.append finish), rfl, ?_⟩
    exact loadInto_append image further
  · intro image fault read failed
    rw [read] at start
    rw [failed] at finish
    rcases start.append_error finish with ⟨line, text, malformed, answers⟩
    rw [(Text.divides_lines front.toList).length_eq ended] at answers
    exact ⟨line, text, malformed, parse_append_of_answers ended answers⟩

/-- The blank line counts, and so does the line that a carriage return helps to end. -/
theorem parse_append_after_blank_line :
    Text.Ended "10: 01\r\n\n".toList ∧
      parse "10: 01\r\n\n" = .ok ⟨[⟨0x10, [0x01]⟩]⟩ ∧
      parse "zz ; no" = .error (.malformed 1 "zz ; no") ∧
      parse ("10: 01\r\n\n" ++ "zz ; no") = .error (.malformed 3 "zz ; no") := by
  have ended : Text.Ended "10: 01\r\n\n".toList := .inr (by decide)
  have front : parse "10: 01\r\n\n" = .ok ⟨[⟨0x10, [0x01]⟩]⟩ := by rfl
  have rest : parse "zz ; no" = .error (.malformed 1 "zz ; no") := by rfl
  rcases (parse_append ended "zz ; no").2.2 _ _ front rest with ⟨line, text, same, failed⟩
  cases same
  exact ⟨ended, front, rest, failed⟩

end Image

end Mos6502
