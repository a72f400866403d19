import JFlexReport.Log
import JFlexReport.Text.Hexadecimal

/-!
Log records as they are written out. A terminal acts on some control characters; in a written
message these are spelled by their code, so that no message can command the terminal.
-/

namespace JFlexReport.Log

open Text

/-- Bell, backspace, form feed, escape and delete. -/
def isCommand (c : Char) : Bool :=
  c == '\x07' || c == '\x08' || c == '\x0c' || c == '\x1b' || c == '\x7f'

/-- The second block of control characters. -/
def isUpperControl (c : Char) : Bool := 0x80 ≤ c.toNat && c.toNat ≤ 0x9f

def writtenChar (c : Char) : List Char :=
  if isCommand c then ['\\', 'x', hexDigit (c.toNat / 16), hexDigit (c.toNat % 16)]
  else if isUpperControl c then ['\\', 'u', '\x7b'] ++ hexNumeral c.toNat ++ ['\x7d']
  else [c]

def written (message : String) : String := String.ofList (message.toList.flatMap writtenChar)

def Record.line (r : Record) : String := r.level.name ++ " " ++ written r.message

end JFlexReport.Log
