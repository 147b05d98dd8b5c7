/-!
# Lines

A line feed ends a line, and a carriage return directly before it belongs to the ending. What
follows the last line feed is a line of its own unless it is empty; a carriage return at its end is
text.
-/

namespace Mos6502.Text

/-- A line without the carriage return at its end, if there is one. -/
def dropReturn (line : List Char) : List Char :=
  if line.getLast? = some '\r' then line.dropLast else line

/-- The lines of a text. -/
def lines (text : List Char) : List (List Char) :=
  let pieces := text.splitOn '\n'
  pieces.dropLast.map dropReturn ++ pieces.getLast?.toList.filter fun rest => !rest.isEmpty

/-- A text without a line feed is one line, and none if it is empty. -/
theorem lines_of_not_mem {text : List Char} (unbroken : '\n' ∉ text) :
    lines text = if text.isEmpty then [] else [text] := by
  have whole : text.splitOn '\n' = [text] := List.splitOn_eq_singleton unbroken
  cases text with
  | nil => rfl
  | cons head rest => simp [lines, whole]

/-- The line before a line feed comes first; then come the lines of what follows. -/
theorem lines_append_newline {line : List Char} (rest : List Char) (unbroken : '\n' ∉ line) :
    lines (line ++ '\n' :: rest) = dropReturn line :: lines rest := by
  have split : (line ++ '\n' :: rest).splitOn '\n' = line :: rest.splitOn '\n' :=
    List.splitOn_append_cons_self_of_not_mem unbroken rest
  have nonempty := List.splitOn_ne_nil '\n' rest
  simp [lines, split, List.dropLast_cons_of_ne_nil nonempty, List.getLast?_cons_of_ne_nil nonempty]

end Mos6502.Text
