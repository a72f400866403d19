import JFlexReport.Text.Hexadecimal

/-!
JSON values and their indented text: two spaces for each level, one entry on a line, empty
arrays and objects without a break. Strings escape the quote, the backslash and the
characters below U+0020, and hold every other character as it is.
-/

namespace JFlexReport

open Text

/-- The fields of an object keep their order. -/
inductive Json
  | null
  | number (n : Int)
  | string (s : String)
  | array (items : List Json)
  | object (fields : List (String × Json))

namespace Json

def escapedChar (c : Char) : List Char :=
  match c with
  | '"' => ['\\', '"']
  | '\\' => ['\\', '\\']
  | '\x08' => ['\\', 'b']
  | '\x0c' => ['\\', 'f']
  | '\n' => ['\\', 'n']
  | '\r' => ['\\', 'r']
  | '\t' => ['\\', 't']
  | c =>
    if c.toNat < 0x20 then
      ['\\', 'u', '0', '0', hexDigit (c.toNat / 16), hexDigit (c.toNat % 16)]
    else [c]

def quotedText (s : String) : List Char := '"' :: (s.toList.flatMap escapedChar ++ ['"'])

def newline (depth : Nat) : List Char := '\n' :: List.replicate (2 * depth) ' '

mutual

/-- The text of a value that stands at a level. -/
def pretty (depth : Nat) : Json → List Char
  | .null => ['n', 'u', 'l', 'l']
  | .number n => signedNumeral n
  | .string s => quotedText s
  | .array [] => ['[', ']']
  | .array (x :: xs) =>
    '[' :: (newline (depth + 1) ++ pretty (depth + 1) x ++ prettyItems (depth + 1) xs ++
      newline depth ++ [']'])
  | .object [] => ['\x7b', '\x7d']
  | .object ((k, v) :: fs) =>
    '\x7b' :: (newline (depth + 1) ++ quotedText k ++ [':', ' '] ++ pretty (depth + 1) v ++
      prettyFields (depth + 1) fs ++ newline depth ++ ['\x7d'])

/-- The items behind the first. -/
def prettyItems (depth : Nat) : List Json → List Char
  | [] => []
  | x :: xs => ',' :: (newline depth ++ pretty depth x ++ prettyItems depth xs)

def prettyFields (depth : Nat) : List (String × Json) → List Char
  | [] => []
  | (k, v) :: fs =>
    ',' :: (newline depth ++ quotedText k ++ [':', ' '] ++ pretty depth v ++
      prettyFields depth fs)

end

def text (j : Json) : String := String.ofList (pretty 0 j)

end Json

end JFlexReport
