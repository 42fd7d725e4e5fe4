import Wiring.Text.Digits
import Wiring.Text.Printable
set_option autoImplicit false

namespace Wiring.Text

def codePoint (c : Char) : List Char :=
  ['\\', 'u', '\x7b'] ++ (Digits.hex c.toNat).map Digits.char ++ ['\x7d']

/-- Quotes and backslashes get a backslash, five controls a letter or a zero, and every other
character that leaves no mark of its own its code point; an apostrophe stands as it is. -/
def escape : Char → List Char
  | '"' => ['\\', '"']
  | '\\' => ['\\', '\\']
  | '\n' => ['\\', 'n']
  | '\t' => ['\\', 't']
  | '\r' => ['\\', 'r']
  | '\x00' => ['\\', '0']
  | c => if isPrintable c then [c] else codePoint c

def quoted (s : String) : String :=
  String.ofList ('"' :: s.toList.flatMap escape ++ ['"'])

end Wiring.Text
