import JFlexReport.Decimal.Binary64

/-!
The shortest decimal text of a binary64 number: the fewest digits that read back as the same
number, and of those the digits nearest to it, an exact tie going up. The text is positional
at every magnitude and always has a decimal point.
-/

namespace JFlexReport.Decimal

open Text

/-- The reals that read as one number, and the number itself: all three over one divisor. -/
structure Interval where
  low : Nat
  value : Nat
  high : Nat
  divisor : Nat
  closed : Bool

/-- The interval of a positive finite number. Below a power of two the neighbor is nearer. -/
def Interval.ofFinite (significand : Nat) (exponent : Int) : Interval :=
  let (scale, divisor) : Nat × Nat :=
    if 2 ≤ exponent then (Nat.pow 2 (exponent - 2).toNat, 1)
    else (1, Nat.pow 2 (2 - exponent).toNat)
  let below := if significand = Nat.pow 2 52 ∧ leastExponent < exponent then 1 else 2
  { low := (4 * significand - below) * scale, value := 4 * significand * scale,
    high := (4 * significand + 2) * scale, divisor, closed := significand % 2 = 0 }

/-- `unit * 10 ^ place`, whose last digit stands at `place`. -/
structure Digits where
  unit : Nat
  place : Int
  deriving DecidableEq

/-- The exponent of ten of the first digit of a positive quotient. -/
def firstPlace (num den : Nat) : Int :=
  if den ≤ num then ((numeral (num / den)).length : Int) - 1
  else
    match (List.range 400).find? fun k => den ≤ num * Nat.pow 10 k with
    | some k => -(k : Int)
    | none => -400

namespace Interval

/-- The number of a grid point over the common divisor, and the grid's scale on both sides. -/
def onGrid (i : Interval) (place : Int) : Nat × Nat :=
  if 0 ≤ place then (Nat.pow 10 place.toNat * i.divisor, 1)
  else (i.divisor, Nat.pow 10 (-place).toNat)

def gridPoint? (i : Interval) (place : Int) : Option Nat :=
  let (step, scale) := i.onGrid place
  let value := i.value * scale
  let below := value / step
  let above := below + 1
  let lowHit := if i.closed then i.low * scale ≤ below * step else i.low * scale < below * step
  let highHit :=
    if i.closed then above * step ≤ i.high * scale else above * step < i.high * scale
  if lowHit ∧ ¬highHit then some below
  else if highHit ∧ ¬lowHit then some above
  else if lowHit ∧ highHit then
    if value - below * step < above * step - value then some below else some above
  else none

/-- The shortest digits in the interval. Seventeen always suffice. -/
def shortest (i : Interval) : Digits :=
  let first := firstPlace i.value i.divisor
  let grids : List Int := (List.range 17).map fun (n : Nat) => first - (n : Int)
  match grids.findSome? fun place => (i.gridPoint? place).map fun unit => (⟨unit, place⟩ : Digits)
    with
  | some d => d
  | none => ⟨0, 0⟩

end Interval

/-- Digits with their decimal point, and a zero where one side of it would be empty. -/
def Digits.positional (d : Digits) : List Char :=
  if 0 ≤ d.place then
    numeral d.unit ++ List.replicate d.place.toNat '0' ++ ['.', '0']
  else
    let width := (-d.place).toNat
    let digits := numeral d.unit
    let padded := List.replicate (width + 1 - digits.length) '0' ++ digits
    padded.take (padded.length - width) ++ '.' :: padded.drop (padded.length - width)

def Digits.trim (d : Digits) : Digits :=
  if d.unit % 10 = 0 ∧ d.place < -1 then ⟨d.unit / 10, d.place + 1⟩ else d

def Binary64.text : Binary64 → List Char
  | .nan => ['N', 'a', 'N']
  | .infinite negative => sign negative ++ ['i', 'n', 'f']
  | .finite negative 0 _ => sign negative ++ ['0', '.', '0']
  | .finite negative m e =>
    sign negative ++ (Interval.ofFinite m e).shortest.trim.positional
where
  sign (negative : Bool) : List Char := if negative then ['-'] else []

end JFlexReport.Decimal
