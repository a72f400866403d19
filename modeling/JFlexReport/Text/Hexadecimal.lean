import JFlexReport.Text.Numeral

/-!
Hexadecimal digits and numerals. Numerals are written with lower-case letters and read with
either case.
-/

namespace JFlexReport.Text

def hexDigit (n : Nat) : Char :=
  if n < 10 then Char.ofNat (48 + n) else Char.ofNat (87 + n)

def hexNumeral (n : Nat) : List Char := Nat.toDigits 16 n

def isHexDigit (c : Char) : Bool :=
  c.isDigit || ('a' ≤ c && c ≤ 'f') || ('A' ≤ c && c ≤ 'F')

def hexDigitValue (c : Char) : Nat :=
  if c.isDigit then digitValue c
  else if 'a' ≤ c then c.toNat - 'a'.toNat + 10
  else c.toNat - 'A'.toNat + 10

/-- The value of digits in a base of at most 16. -/
def valueIn (base : Nat) (ds : List Char) : Nat :=
  ds.foldl (fun n d => base * n + hexDigitValue d) 0

def charOfHex? (ds : List Char) : Option Char :=
  if !ds.all isHexDigit then none
  else
    let n := valueIn 16 ds
    if n.isValidChar then some (Char.ofNat n) else none

end JFlexReport.Text
