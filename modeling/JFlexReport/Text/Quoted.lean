import JFlexReport.Text.Hexadecimal
import JFlexReport.Text.Unprintable

/-!
A text in quotes, for log records. The quoted form stays on one line and shows what cannot
be seen: quotes, backslashes, tabs and line ends by their short escapes, every other
character without a visible form by its code point.
-/

namespace JFlexReport.Text

def quotedChar (c : Char) : List Char :=
  match c with
  | '\x00' => ['\\', '0']
  | '\t' => ['\\', 't']
  | '\n' => ['\\', 'n']
  | '\r' => ['\\', 'r']
  | '"' => ['\\', '"']
  | '\\' => ['\\', '\\']
  | c => if isPrintable c then [c] else ['\\', 'u', '\x7b'] ++ hexNumeral c.toNat ++ ['\x7d']

def quoted (s : List Char) : List Char := '"' :: (s.flatMap quotedChar ++ ['"'])

end JFlexReport.Text
