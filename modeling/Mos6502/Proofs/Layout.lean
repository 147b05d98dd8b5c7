import Mathlib.Logic.Relation
import Mos6502.Proofs.ImageParts
import Mos6502.Proofs.LineEdits

/-!
# The layout of an image text

A text is read by what its lines say, and the number of a line counts the line feeds before it. An
edit within a line changes neither, wherever the line stands and however it is ended
(`Image.EditsLine.sayings_eq`). So any number of edits leaves the image as it was, or the number of
the first line that cannot be read (`Image.agree_parse_of_edits`).
-/

namespace Mos6502.Image

/-- What may stand after a line: nothing, or the ending of the line and the lines after it. -/
inductive Ending : List Char → Prop where
  | nothing : Ending []
  | feed (rest : List Char) : Ending ('\n' :: rest)
  | returnFeed (rest : List Char) : Ending ('\r' :: '\n' :: rest)

/-- One line of a text is edited. The carriage return before a line feed may be counted to the line
or to its ending. -/
inductive EditsLine : List Char → List Char → Prop where
  | intro {before line edited after : List Char} (begins : Text.Ended before)
      (unbroken : '\n' ∉ line) (ends : Ending after) (edits : Edits line edited) :
      EditsLine (before ++ line ++ after) (before ++ edited ++ after)

/-- What the lines of a text say, with what stands after the last line feed as a line. -/
def sayings (text : List Char) : List (Option (Option Segment)) := (text.splitOn '\n').map said

theorem sayings_append_feed (front rest : List Char) :
    sayings (front ++ '\n' :: rest) = sayings front ++ sayings rest := by
  rw [sayings, List.splitOn_append_cons_self, List.map_append, sayings, sayings]

theorem sayings_of_unbroken {line : List Char} (unbroken : '\n' ∉ line) :
    sayings line = [said line] := by
  rw [sayings, List.splitOn_eq_singleton unbroken, List.map_singleton]

theorem said_append_return (line : List Char) : said (line ++ ['\r']) = said line :=
  (Edits.carriageReturn line).said_eq

theorem said_dropReturn (line : List Char) : said (Text.dropReturn line) = said line := by
  unfold Text.dropReturn
  split
  · next returned =>
    rcases List.getLast?_eq_some_iff.mp returned with ⟨front, rfl⟩
    rw [List.dropLast_concat, said_append_return]
  · rfl

/-- A line that says the same takes the place of another before every ending. -/
theorem sayings_congr_line {line edited after : List Char} (ends : Ending after)
    (unbroken : '\n' ∉ line) (editedUnbroken : '\n' ∉ edited) (same : said edited = said line) :
    sayings (edited ++ after) = sayings (line ++ after) := by
  cases ends with
  | nothing =>
      rw [List.append_nil, List.append_nil, sayings_of_unbroken editedUnbroken,
        sayings_of_unbroken unbroken, same]
  | feed rest =>
      rw [sayings_append_feed, sayings_append_feed, sayings_of_unbroken editedUnbroken,
        sayings_of_unbroken unbroken, same]
  | returnFeed rest =>
      have returned {line : List Char} (unbroken : '\n' ∉ line) : '\n' ∉ line ++ ['\r'] := by
        simp [unbroken]
      rw [List.append_cons, List.append_cons line, sayings_append_feed, sayings_append_feed,
        sayings_of_unbroken (returned editedUnbroken), sayings_of_unbroken (returned unbroken),
        said_append_return, said_append_return, same]

theorem EditsLine.sayings_eq {text edited : List Char} (edits : EditsLine text edited) :
    sayings edited = sayings text := by
  rcases edits with ⟨begins, unbroken, ends, edits⟩
  have same := sayings_congr_line ends unbroken (edits.unbroken unbroken) edits.said_eq
  rw [List.append_assoc, List.append_assoc]
  rcases begins with rfl | feed
  · exact same
  · rcases List.getLast?_eq_some_iff.mp feed with ⟨front, rfl⟩
    rw [← List.append_cons, ← List.append_cons, sayings_append_feed, sayings_append_feed, same]

/-- Two answers agree: both are the same image, or both blame the line with the same number. -/
inductive Agree : Except ImageError Image → Except ImageError Image → Prop where
  | image (image : Image) : Agree (.ok image) (.ok image)
  | malformed (line : Nat) (text other : String) :
      Agree (.error (.malformed line text)) (.error (.malformed line other))

theorem agree_parseLines {lines others : List (List Char)}
    (same : lines.map said = others.map said) (number : Nat) :
    Agree (parseLines number lines) (parseLines number others) := by
  induction lines generalizing others number with
  | nil =>
      rw [List.map_eq_nil_iff.mp same.symm]
      exact .image _
  | cons line lines ih =>
      rcases List.map_eq_cons_iff.mp same.symm with ⟨other, others, rfl, first, rest⟩
      rw [parseLines_cons, parseLines_cons, readLine_eq, readLine_eq, first]
      cases said line with
      | none => exact .malformed number _ _
      | some found =>
          have later := ih rest.symm (number + 1)
          dsimp only
          generalize parseLines (number + 1) lines = answer at later ⊢
          generalize parseLines (number + 1) others = otherAnswer at later ⊢
          cases later with
          | image image => exact .image _
          | malformed line text other => exact .malformed line text other

/-- An empty line at the end changes nothing. -/
theorem parseLines_append_nil (number : Nat) (lines : List (List Char)) :
    parseLines number (lines ++ [[]]) = parseLines number lines := by
  induction lines generalizing number with
  | nil => rfl
  | cons line lines ih => rw [List.cons_append, parseLines_cons, ih, ← parseLines_cons]

theorem exists_lines_said (text : List Char) :
    ∃ lines, lines.map said = sayings text ∧
      parseLines 1 lines = parseLines 1 (Text.lines text) := by
  rcases List.eq_nil_or_concat (text.splitOn '\n') with none | ⟨front, last, split⟩
  · exact absurd none (List.splitOn_ne_nil '\n' text)
  rw [List.concat_eq_append] at split
  have tidied : (front.map Text.dropReturn).map said = front.map said := by
    rw [List.map_map]
    exact List.map_congr_left fun line _ => said_dropReturn line
  have whole : sayings text = front.map said ++ [said last] := by
    rw [sayings, split, List.map_append, List.map_singleton]
  cases last with
  | nil =>
      have found : Text.lines text = front.map Text.dropReturn := by simp [Text.lines, split]
      refine ⟨front.map Text.dropReturn ++ [[]], ?_, ?_⟩
      · rw [List.map_append, tidied, whole, List.map_singleton]
      · rw [parseLines_append_nil, found]
  | cons first rest =>
      have found : Text.lines text = front.map Text.dropReturn ++ [first :: rest] := by
        simp [Text.lines, split]
      refine ⟨_, ?_, rfl⟩
      rw [found, List.map_append, tidied, whole, List.map_singleton]

theorem agree_of_sayings_eq {text other : List Char} (same : sayings text = sayings other) :
    Agree (parseLines 1 (Text.lines text)) (parseLines 1 (Text.lines other)) := by
  rcases exists_lines_said text with ⟨lines, saidLines, parsed⟩
  rcases exists_lines_said other with ⟨others, saidOthers, parsedOthers⟩
  rw [← parsed, ← parsedOthers]
  apply agree_parseLines
  rw [saidLines, saidOthers, same]

/-- However often the lines of a text are edited, the edited text is read like the first one. Both
give the same image, or the same line of both is the first that cannot be read. -/
theorem agree_parse_of_edits {text edited : String}
    (edits : Relation.ReflTransGen EditsLine text.toList edited.toList) :
    Agree (parse text) (parse edited) := by
  apply agree_of_sayings_eq
  generalize edited.toList = final at edits
  induction edits with
  | refl => rfl
  | tail _ last ih => rw [ih, last.sayings_eq]

/-- A line without a colon is blamed under its number, whatever white space and comment it gets. -/
theorem agree_parse_of_edits_noColon :
    let text := "10: 1\n42 A9"
    let edited := "10: 1\n\u200342\t A9;x"
    Relation.ReflTransGen EditsLine text.toList edited.toList ∧
      parse text = .error (.malformed 2 "42 A9") ∧
      parse edited = .error (.malformed 2 "\u200342\t A9;x") ∧
      Agree (parse text) (parse edited) := by
  have failed : parse "10: 1\n42 A9" = .error (.malformed 2 "42 A9") := by rfl
  have failedEdited : parse "10: 1\n\u200342\t A9;x" =
      .error (.malformed 2 "\u200342\t A9;x") := by rfl
  intro text edited
  let before : List Char := ['1', '0', ':', ' ', '1', '\n']
  let front : List Char := ['\u2003', '4', '2']
  let back : List Char := ['A', '9']
  have begins : Text.Ended before := .inr rfl
  have white : Text.White ['\u2003'] := by simp [Text.White]; decide
  have blanks : Text.Blanks [' '] := by simp [Text.Blanks, Text.isBlank]
  have wider : Text.Blanks ['\t', ' '] := by simp [Text.Blanks, Text.isBlank]
  have indented : EditsLine (before ++ ['4', '2', ' ', 'A', '9'] ++ [])
      (before ++ (front ++ [' '] ++ back) ++ []) :=
    .intro begins (by decide) .nothing (.indent _ white (by decide))
  have respaced : EditsLine (before ++ (front ++ [' '] ++ back) ++ [])
      (before ++ (front ++ ['\t', ' '] ++ back) ++ []) :=
    .intro begins (by decide) .nothing (.respace front back (by decide) blanks (by decide) wider)
  have noted : EditsLine (before ++ (front ++ ['\t', ' '] ++ back) ++ [])
      (before ++ (front ++ ['\t', ' '] ++ back ++ ';' :: ['x']) ++ []) :=
    .intro begins (by decide) .nothing (.comment _ rfl (by decide))
  have start : text.toList = before ++ ['4', '2', ' ', 'A', '9'] ++ [] := by decide
  have final : edited.toList = before ++ (front ++ ['\t', ' '] ++ back ++ ';' :: ['x']) ++ [] := by
    decide
  have edits : Relation.ReflTransGen EditsLine text.toList edited.toList := by
    rw [start, final]
    exact .tail (.tail (.single indented) respaced) noted
  exact ⟨edits, failed, failedEdited, agree_parse_of_edits edits⟩

end Mos6502.Image
