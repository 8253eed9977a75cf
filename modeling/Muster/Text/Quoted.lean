import Muster.Text.Hex
import Muster.Text.Printable

/-!
# Quoted texts

A text between quotes in which every character can be told: quotes and backslashes are escaped, as
are line ends, tabs and the zero character, and a character that cannot be shown is given by its
code point in hexadecimal.
-/

namespace Muster.Text

/-- One character of a quoted text. -/
def quotedChar (c : Char) : List Char :=
  match c with
  | '\x00' => ['\\', '0']
  | '\t' => ['\\', 't']
  | '\n' => ['\\', 'n']
  | '\r' => ['\\', 'r']
  | '"' => ['\\', '"']
  | '\\' => ['\\', '\\']
  | c =>
    if isPrintable c then [c]
    else ['\\', 'u', '\x7b'] ++ Nat.toDigits 16 c.toNat ++ ['\x7d']

/-- A text between quotes. -/
def quoted (text : String) : String :=
  "\"" ++ String.ofList (text.toList.flatMap quotedChar) ++ "\""

end Muster.Text
