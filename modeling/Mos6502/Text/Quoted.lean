import Mos6502.Text.DefaultIgnorable
import Mos6502.Text.GraphemeExtend
import Mos6502.Text.Hex
import Mos6502.Text.Unprintable

/-!
# Quoted text

A quoted text stands between double quotes and can be shown on one line. Quotes and backslashes are
marked by a backslash, four controls have short forms, and every other character that would not be
seen in its own place is given by its code point. All others stand for themselves.
-/

namespace Mos6502.Text

/-- A number in hexadecimal with no leading zero. -/
def codePoint (number : Nat) : List Char := Nat.toDigits 16 number

/-- Whether a character would not be seen in a place of its own. -/
def isHidden (character : Char) : Bool :=
  isCombining character || isDefaultIgnorable character || isUnprintable character

/-- The form of one character between the quotes. -/
def quotedChar (character : Char) : List Char :=
  match character with
  | '"' => ['\\', '"']
  | '\\' => ['\\', '\\']
  | '\x00' => ['\\', '0']
  | '\t' => ['\\', 't']
  | '\r' => ['\\', 'r']
  | '\n' => ['\\', 'n']
  | _ =>
    if isHidden character then
      '\\' :: 'u' :: '\x7b' :: (codePoint character.toNat ++ ['\x7d'])
    else [character]

/-- A text between double quotes. -/
def quote (text : List Char) : String :=
  String.ofList ('"' :: (text.flatMap quotedChar ++ ['"']))

end Mos6502.Text
