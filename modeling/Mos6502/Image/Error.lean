import Mos6502.Text.Quoted

/-!
# What can be wrong with an image

An image file may be out of reach, may hold bytes that are no text, or may hold a line that is no
segment. Every cause has a message for a reader and a report with its parts by name.
-/

namespace Mos6502

/-- A refusal of the operating system. -/
structure SystemError where
  /-- The number of the error. -/
  code : Nat
  /-- The sort of the error in a report. -/
  kind : String
  description : String
  deriving DecidableEq, Repr

namespace SystemError

/-- No file has the given name. -/
def notFound : SystemError := ⟨2, "NotFound", "No such file or directory"⟩

/-- Only those with permission may read the file. -/
def permissionDenied : SystemError := ⟨13, "PermissionDenied", "Permission denied"⟩

/-- A part of the path is a file and no directory. -/
def notDirectory : SystemError := ⟨20, "NotADirectory", "Not a directory"⟩

/-- A directory cannot be read as a file. -/
def isDirectory : SystemError := ⟨21, "IsADirectory", "Is a directory"⟩

end SystemError

/-- Why there is no image. -/
inductive ImageError where
  | unreadable (cause : SystemError)
  | notUnicode
  /-- A line, counted from one, is neither blank nor a segment. -/
  | malformed (line : Nat) (text : String)
  deriving DecidableEq, Repr

namespace ImageError

/-- What is said of bytes that are no text. -/
def notUnicodeDescription : String := "stream did not contain valid UTF-8"

/-- The error in words. -/
def message : ImageError → String
  | unreadable cause =>
    "cannot read program image: " ++ cause.description ++ " (os error " ++ toString cause.code ++
      ")"
  | notUnicode => "cannot read program image: " ++ notUnicodeDescription
  | malformed line text =>
    "malformed program line " ++ toString line ++ ": " ++ Text.quote text.toList

/-- The error with its parts by name. -/
def report : ImageError → String
  | unreadable cause =>
    "Io(Os \x7b code: " ++ toString cause.code ++ ", kind: " ++ cause.kind ++ ", message: " ++
      Text.quote cause.description.toList ++ " \x7d)"
  | notUnicode =>
    "Io(Error \x7b kind: InvalidData, message: " ++ Text.quote notUnicodeDescription.toList ++
      " \x7d)"
  | malformed line text =>
    "Syntax \x7b line: " ++ toString line ++ ", text: " ++ Text.quote text.toList ++ " \x7d"

end ImageError

end Mos6502
