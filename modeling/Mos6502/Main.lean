import Mos6502.CommandLine

/-!
# The program

Reads the image file, hands everything to the command and prints what it answers.
-/

namespace Mos6502

/-- A refusal of the operating system as it was met. -/
def systemError : IO.Error → SystemError
  | .noFileOrDirectory .. => .notFound
  | .permissionDenied .. => .permissionDenied
  | .inappropriateType _ 20 _ => .notDirectory
  | .inappropriateType .. => .isDirectory
  | other => ⟨0, "Other", other.toString⟩

/-- The bytes of a file, or why there are none. -/
def readFile (path : String) : IO (Except SystemError ByteArray) := do
  try
    return .ok (← IO.FS.readBinFile path)
  catch error =>
    return .error (systemError error)

/-- The arguments of the command. -/
def readArguments : List String → IO CommandLine.Arguments
  | [] => return .none
  | path :: further => return .image (← readFile path) further

end Mos6502

/-- The program. -/
def main (arguments : List String) : IO UInt32 := do
  let outcome := Mos6502.CommandLine.run (← Mos6502.readArguments arguments)
  IO.print outcome.output
  IO.eprint outcome.errors
  return outcome.exitCode.toUInt32
