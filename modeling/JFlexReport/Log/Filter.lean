import JFlexReport.Log
import JFlexReport.Text.Blank
import JFlexReport.Text.Lines
import JFlexReport.Text.Pattern

/-!
Log filters. A filter is a list of directives, each with a threshold, perhaps a target, and
perhaps a field that a record must have. Of the directives that speak for a record, the one
with the longest target decides, of two with the same target the one that names a field, and
of two that are alike in both the later. Records that no directive speaks for are dropped.

A directive may also be bound to a span of execution or to the value of a field. No record of
this program is written inside a span, so such a directive lets nothing through.
-/

namespace JFlexReport.Log

open Text

/-- The most talkative level that passes; `none` lets nothing pass. -/
abbrev Threshold := Option Level

def Level.passes (l : Level) (t : Threshold) : Bool := l.rank ≤ (t.map Level.rank).getD 0

def recordField : String := "message"

structure Directive where
  threshold : Threshold
  target : Option String := none
  field : Option String := none
  bound : Bool := false
  deriving DecidableEq

namespace Directive

/-- A directive speaks for the records whose target begins with its own. -/
def speaksFor (d : Directive) (o : Origin) : Bool :=
  !d.bound && d.field.all (· == recordField) &&
    (d.target.getD "").toList.isPrefixOf o.target.toList

/-- How specific the directive is: the length of its target, then whether it names a field. -/
def weight (d : Directive) : Nat :=
  2 * (d.target.map fun t => t.toList.length + 1).getD 0 + if d.field.isSome then 1 else 0

/-! ### Reading -/

/-- A level by its number, which may have a plus sign and leading zeros. -/
def numberedThreshold? (s : List Char) : Option Threshold :=
  let ds := match s with
    | '+' :: r => r
    | r => r
  if ds.isEmpty || !ds.all Char.isDigit then none
  else
    match digitsValue ds with
    | 0 => some none
    | 1 => some (some .error)
    | 2 => some (some .warn)
    | 3 => some (some .info)
    | 4 => some (some .debug)
    | 5 => some (some .trace)
    | _ => none

def namedThreshold? (s : List Char) : Option Threshold :=
  match String.ofList (s.map Char.toLower) with
  | "off" => some none
  | "error" => some (some .error)
  | "warn" => some (some .warn)
  | "info" => some (some .info)
  | "debug" => some (some .debug)
  | "trace" => some (some .trace)
  | _ => none

def threshold? (s : List Char) : Option Threshold :=
  (numberedThreshold? s).or (namedThreshold? s)

/-- The threshold behind an equals sign: everything, unless a level follows. -/
def thresholdBehind? (s : List Char) : Option Threshold :=
  if s.isEmpty then some (some .trace) else threshold? s

/-- A value that a field may be bound to: a number or a search pattern. A number is a pattern
too, unless it has a plus sign. -/
def isValue (s : List Char) : Bool :=
  Pattern.isWellFormed s ||
    match s with
    | '+' :: r => isDecimal r
    | _ => false

def readField? (s : List Char) : Option (String × Bool) :=
  let name := String.ofList (s.takeWhile (· != '='))
  match s.dropWhile (· != '=') with
  | '=' :: r => if isValue (r.takeWhile (· != '=')) then some (name, true) else none
  | _ => some (name, false)

def beginsTarget (c : Char) : Bool := c == '-' || c == ':' || c == '_' || isAlphanumeric c

def endsTarget (c : Char) : Bool := c == '=' || c == '['

def endsSpan (c : Char) : Bool := c == ']' || c == '\x7b'

def trim (s : List Char) : List Char :=
  ((s.dropWhile isBlank).reverse.dropWhile isBlank).reverse

/-- Gives a directive the threshold that ends it, if one is written. Of the text `s`, `rest`
is what follows the first `place` characters. -/
def close (s rest : List Char) (place : Nat) (d : Directive) : Option Directive :=
  match rest with
  | [] => some d
  | '=' :: _ => (thresholdBehind? (s.drop (place + 1))).map fun t => { d with threshold := t }
  | _ => none

/-- Reads the brackets of a directive behind the opening one, which has the given place. -/
def brackets (s rest : List Char) (place : Nat) (target : Option String) : Option Directive :=
  let d : Directive := { threshold := some .trace, target }
  let span := rest.takeWhile fun c => !endsSpan c
  match rest.dropWhile fun c => !endsSpan c with
  | ']' :: r => close s r (place + span.length + 2) { d with bound := true }
  | '\x7b' :: r =>
    let width := (r.takeWhile (· != '\x7d')).length
    match r.dropWhile (· != '\x7d') with
    | '\x7d' :: ']' :: q =>
      if width = 0 then none
      else
        let first := place + span.length + 2
        match readField? ((s.drop first).take width) with
        | some (name, hasValue) =>
          close s q (first + width + 2)
            { d with field := some name, bound := !span.isEmpty || hasValue }
        | none => none
    | _ => none
  | _ => none

/-- A level, a target, or a target with a level; the target may have a span or a field in
brackets, and may then be left out. The parts of a directive are told apart without the
blanks around it, but each is cut from the whole text at the place that it has without them.
So blanks behind belong to the last part, and blanks in front push every part aside. -/
def ofText? (s : List Char) : Option Directive :=
  let t := trim s
  let front := t.takeWhile fun c => !endsTarget c
  match front, t.dropWhile fun c => !endsTarget c with
  | [], '[' :: rest => brackets s rest 0 none
  | [], _ => none
  | c :: _, rest =>
    let target := String.ofList (s.take front.length)
    if !beginsTarget c then none
    else
      match rest with
      | [] =>
        match threshold? s with
        | some t => some { threshold := t }
        | none => some { threshold := some .trace, target := String.ofList s }
      | '[' :: r => brackets s r front.length target
      | r => close s r front.length { threshold := some .trace, target }

end Directive

abbrev Filter := List Directive

namespace Filter

/-- Directives with commas between them. Without any, only errors pass. -/
def ofText? (s : String) : Option Filter :=
  let texts := (splitEach (· == ',') s.toList).filter fun t => !t.isEmpty
  if texts.isEmpty then some [{ threshold := some .error }]
  else texts.mapM Directive.ofText?

/-- The level that passes after `n` requests for more. -/
def levelFor : Nat → Level
  | 0 => .warn
  | 1 => .info
  | 2 => .debug
  | _ => .trace

def ofVerbosity (n : Nat) : Filter := [{ threshold := some (levelFor n) }]

def directiveFor? (f : Filter) (o : Origin) : Option Directive :=
  f.foldl (fun best d =>
    if d.speaksFor o then
      match best with
      | some b => if b.weight ≤ d.weight then some d else best
      | none => some d
    else best) none

def passes (f : Filter) (r : Record) : Bool :=
  match f.directiveFor? r.origin with
  | some d => r.level.passes d.threshold
  | none => false

def apply (f : Filter) (rs : List Record) : List Record := rs.filter f.passes

end Filter

def Level.word : Level → String
  | .error => "error"
  | .warn => "warn"
  | .info => "info"
  | .debug => "debug"
  | .trace => "trace"

end JFlexReport.Log
