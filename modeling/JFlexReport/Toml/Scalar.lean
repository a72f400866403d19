import JFlexReport.Text.Hexadecimal
import JFlexReport.Toml.Node

/-!
TOML scalars that are written without quotes: booleans, integers, floats, and dates and
times. Each is read from the whole of its token, which ends at the first character that no
scalar holds; a date may take in a time behind one space.
-/

namespace JFlexReport.Toml

open Text Decimal

namespace Scalar

/-- Digits without the underscores that stand singly between them. -/
def ungroup (isDigit : Char → Bool) : List Char → Option (List Char)
  | [] => none
  | [c] => if isDigit c then some [c] else none
  | c :: '_' :: s => if isDigit c then (ungroup isDigit s).map (c :: ·) else none
  | c :: s => if isDigit c then (ungroup isDigit s).map (c :: ·) else none

/-- A sign, as whether it is a minus, and what follows it. -/
def sign : List Char → Bool × List Char
  | '-' :: s => (true, s)
  | '+' :: s => (false, s)
  | s => (false, s)

/-- Decimal digits, with no zero in front of others. -/
def wholeDigits (s : List Char) : Option (List Char) :=
  match ungroup Char.isDigit s with
  | some ['0'] => some ['0']
  | some ('0' :: _) => none
  | ds => ds

def leastInteger : Int := Int64.minValue.toInt

def greatestInteger : Int := Int64.maxValue.toInt

def bounded (n : Int) : Option Node :=
  if leastInteger ≤ n ∧ n ≤ greatestInteger then some (.integer n) else none

def based (base : Nat) (isDigit : Char → Bool) (s : List Char) : Option Node :=
  (ungroup isDigit s).bind fun ds => bounded (valueIn base ds)

def integer? : List Char → Option Node
  | '0' :: 'x' :: s => based 16 isHexDigit s
  | '0' :: 'o' :: s => based 8 (fun c => '0' ≤ c && c ≤ '7') s
  | '0' :: 'b' :: s => based 2 (fun c => c == '0' || c == '1') s
  | s =>
    let (negative, s) := sign s
    (wholeDigits s).bind fun ds =>
      let n : Int := digitsValue ds
      bounded (if negative then -n else n)

def isDigitOrGroup (c : Char) : Bool := c.isDigit || c == '_'

/-- The digits behind the point, if there is one, and what follows. -/
def fraction : List Char → Option (List Char × List Char)
  | '.' :: s =>
    (ungroup Char.isDigit (s.takeWhile isDigitOrGroup)).map fun ds =>
      (ds, s.dropWhile isDigitOrGroup)
  | s => some ([], s)

def exponent : List Char → Option Int
  | [] => some 0
  | c :: s =>
    if c == 'e' || c == 'E' then
      let (negative, s) := sign s
      (ungroup Char.isDigit s).map fun ds =>
        let n : Int := digitsValue ds
        if negative then -n else n
    else none

/-- A fraction, an exponent or both make a float. One that is too large is refused, one that
is too small is negative infinity. -/
def float? (token : List Char) : Option Node := do
  let (negative, s) := sign token
  match s with
  | ['i', 'n', 'f'] => return .float (.infinite negative)
  | ['n', 'a', 'n'] => return .float .nan
  | _ =>
    let whole ← wholeDigits (s.takeWhile isDigitOrGroup)
    let rest := s.dropWhile isDigitOrGroup
    if rest.isEmpty then none
    let (part, rest) ← fraction rest
    let e ← exponent rest
    let x := Binary64.ofDecimal negative (whole ++ part) (e - part.length)
    if x = .infinite false then none
    return .float x

def twoDigits? (ds : List Char) : Option Nat :=
  if ds.length = 2 ∧ ds.all Char.isDigit then some (digitsValue ds) else none

def fourDigits? (ds : List Char) : Option Nat :=
  if ds.length = 4 ∧ ds.all Char.isDigit then some (digitsValue ds) else none

def isLeap (year : Nat) : Bool := year % 4 == 0 && (year % 100 != 0 || year % 400 == 0)

def daysIn (year month : Nat) : Nat :=
  if month = 2 then (if isLeap year then 29 else 28)
  else if month = 4 ∨ month = 6 ∨ month = 9 ∨ month = 11 then 30
  else 31

def date? : List Char → Option Date
  | [y₁, y₂, y₃, y₄, '-', m₁, m₂, '-', d₁, d₂] => do
    let year ← fourDigits? [y₁, y₂, y₃, y₄]
    let month ← twoDigits? [m₁, m₂]
    let day ← twoDigits? [d₁, d₂]
    if month < 1 ∨ 12 < month ∨ day < 1 ∨ daysIn year month < day then none
    return { year, month, day }
  | _ => none

def clock? : List Char → Option (Nat × Nat)
  | [h₁, h₂, ':', m₁, m₂] => do
    let hour ← twoDigits? [h₁, h₂]
    let minute ← twoDigits? [m₁, m₂]
    if 23 < hour ∨ 59 < minute then none
    return (hour, minute)
  | _ => none

/-- The seconds allow for a leap second. -/
def time? (s : List Char) : Option Time := do
  let (hour, minute) ← clock? (s.take 5)
  match s.drop 5 with
  | ':' :: s₁ :: s₂ :: rest =>
    let second ← twoDigits? [s₁, s₂]
    if 60 < second then none
    match rest with
    | [] => return { hour, minute, second }
    | '.' :: ds =>
      if ds.isEmpty || !ds.all Char.isDigit then none
      return { hour, minute, second, fraction := ds }
    | _ => none
  | _ => none

/-- The offset from Greenwich that ends a date with a time. -/
def offset? : List Char → Option Int
  | ['Z'] => some 0
  | ['z'] => some 0
  | '+' :: s => (clock? s).map fun (h, m) => (60 * h + m : Nat)
  | '-' :: s => (clock? s).map fun (h, m) => -((60 * h + m : Nat) : Int)
  | _ => none

def startsOffset (c : Char) : Bool := c == 'Z' || c == 'z' || c == '+' || c == '-'

def timeOn? (date : Date) (s : List Char) : Option Moment := do
  let time ← time? (s.takeWhile fun c => !startsOffset c)
  match s.dropWhile fun c => !startsOffset c with
  | [] => return { date := some date, time := some time }
  | o =>
    let offset ← offset? o
    return { date := some date, time := some time, offset := some offset }

def moment? (token : List Char) : Option Moment :=
  match date? (token.take 10), token.drop 10 with
  | some date, [] => some { date := some date }
  | some date, c :: s => if c == 'T' || c == 't' then timeOn? date s else none
  | none, _ => (time? token).map fun time => { time := some time }

def ofToken (token : List Char) : Option Node :=
  match token with
  | ['t', 'r', 'u', 'e'] => some (.boolean true)
  | ['f', 'a', 'l', 's', 'e'] => some (.boolean false)
  | _ => ((moment? token).map Node.moment).or ((float? token).or (integer? token))

def isTokenChar (c : Char) : Bool :=
  c.isAlphanum || c == '+' || c == '-' || c == '.' || c == ':' || c == '_'

def read? (s : List Char) : Option (Node × List Char) :=
  let token := s.takeWhile isTokenChar
  let rest := s.dropWhile isTokenChar
  match date? token, rest with
  | some date, ' ' :: r =>
    match timeOn? date (r.takeWhile isTokenChar) with
    | some m => some (.moment m, r.dropWhile isTokenChar)
    | none => some (.moment { date := some date }, rest)
  | _, _ => (ofToken token).map fun v => (v, rest)

theorem length_dropWhile_le {α : Type} (p : α → Bool) (s : List α) :
    (s.dropWhile p).length ≤ s.length :=
  (List.dropWhile_suffix p).length_le

theorem read?_shorter {s : List Char} {v : Node} {r : List Char} (h : read? s = some (v, r)) :
    r.length < s.length := by
  have hlen : (s.dropWhile isTokenChar).length ≤ s.length := length_dropWhile_le _ _
  have hcut : s.takeWhile isTokenChar ≠ [] →
      (s.dropWhile isTokenChar).length < s.length := by
    intro hne
    have := congrArg List.length (List.takeWhile_append_dropWhile (p := isTokenChar) (l := s))
    have := List.length_pos_iff.2 hne
    simp only [List.length_append] at *
    omega
  unfold read? at h
  simp only at h
  split at h
  · rename_i date t hd hr
    have hne : s.takeWhile isTokenChar ≠ [] := by
      intro h0
      rw [h0] at hd
      simp [date?] at hd
    have := hcut hne
    split at h
    · have := length_dropWhile_le isTokenChar t
      simp only [Option.some.injEq, Prod.mk.injEq] at h
      rw [hr, List.length_cons] at hlen
      rw [← h.2]
      omega
    · simp only [Option.some.injEq, Prod.mk.injEq] at h
      rw [← h.2]
      exact this
  · simp only [Option.map_eq_some_iff, Prod.mk.injEq] at h
    obtain ⟨w, hw, -, rfl⟩ := h
    apply hcut
    intro h0
    rw [h0] at hw
    simp [ofToken, moment?, date?, time?, clock?, float?, integer?, wholeDigits, ungroup, sign] at hw

end Scalar

end JFlexReport.Toml
