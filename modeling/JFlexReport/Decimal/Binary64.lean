import JFlexReport.Text.Numeral

/-!
Numbers of the binary64 format, in exact arithmetic. A decimal numeral is read as the
nearest number of the format, a tie going to the even significand; values beyond the largest
finite number become infinite.
-/

namespace JFlexReport.Decimal

open Text

/-- A finite number is `significand * 2 ^ exponent`, with a significand below `2 ^ 53` and
an exponent between -1074 and 971. -/
inductive Binary64
  | finite (negative : Bool) (significand : Nat) (exponent : Int)
  | infinite (negative : Bool)
  | nan
  deriving DecidableEq

def leastExponent : Int := -1074

def greatestExponent : Int := 971

/-- The whole number nearest to a quotient, a tie going to the even one. -/
def roundHalfEven (num den : Nat) : Nat :=
  let q := num / den
  let r := num % den
  if den < 2 * r ∨ (2 * r = den ∧ q % 2 = 1) then q + 1 else q

namespace Binary64

/-- `num / den` in units of `2 ^ e`, as a quotient. -/
def inUnits (num den : Nat) (e : Int) : Nat × Nat :=
  if 0 ≤ e then (num, den * Nat.pow 2 e.toNat) else (num * Nat.pow 2 (-e).toNat, den)

/-- The exponent that gives a quotient its 53 bits, as far as the format reaches down. -/
def exponentFor (num den : Nat) : Int :=
  let e : Int := (num.log2 : Int) - den.log2 - 52
  let (n, d) := inUnits num den e
  max (if n / d < Nat.pow 2 52 then e - 1 else e) leastExponent

/-- The number nearest to a quotient. -/
def ofQuotient (negative : Bool) (num den : Nat) : Binary64 :=
  if num = 0 then .finite negative 0 leastExponent
  else
    let e := exponentFor num den
    let (n, d) := inUnits num den e
    let m := roundHalfEven n d
    let (m, e) := if m = Nat.pow 2 53 then (Nat.pow 2 52, e + 1) else (m, e)
    if greatestExponent < e then .infinite negative else .finite negative m e

/-- The number nearest to `digits * 10 ^ exponent`. Numerals far outside the range of the
format are decided by their magnitude alone. -/
def ofDecimal (negative : Bool) (digits : List Char) (exponent : Int) : Binary64 :=
  let m := digitsValue digits
  let magnitude : Int := exponent + (numeral m).length
  if m = 0 ∨ magnitude < -330 then .finite negative 0 leastExponent
  else if 310 < magnitude then .infinite negative
  else if 0 ≤ exponent then ofQuotient negative (m * Nat.pow 10 exponent.toNat) 1
  else ofQuotient negative m (Nat.pow 10 (-exponent).toNat)

end Binary64

end JFlexReport.Decimal
