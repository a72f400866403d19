import JFlexReport.Decimal.Binary64

/-!
The contents of a TOML document: values, and the tables that hold them. Entries keep the
order in which they were written. How a table came to be decides who may add to it later:
a table written under its own header is complete once the next header begins, one that only
a longer header implies may still get its own, and one that dotted keys made is open to
dotted keys alone.
-/

namespace JFlexReport.Toml

open Decimal

structure Date where
  year : Nat
  month : Nat
  day : Nat
  deriving DecidableEq

/-- The digits behind the point of the seconds are kept as written. -/
structure Time where
  hour : Nat
  minute : Nat
  second : Nat
  fraction : List Char := []
  deriving DecidableEq

/-- A date, a time, or both; minutes east of Greenwich where an offset is given. -/
structure Moment where
  date : Option Date := none
  time : Option Time := none
  offset : Option Int := none
  deriving DecidableEq

inductive TableOrigin
  | header | implied | dotted
  deriving DecidableEq

inductive Node
  | string (s : String)
  | integer (n : Int)
  | float (x : Binary64)
  | boolean (b : Bool)
  | moment (m : Moment)
  | array (items : List Node)
  | inlineTable (entries : List (String × Node))
  | table (origin : TableOrigin) (entries : List (String × Node))
  | tables (elements : List (List (String × Node)))

abbrev Entries := List (String × Node)

namespace Entries

def holds (es : Entries) (k : String) : Bool := (es.lookup k).isSome

/-- The entry stays in its place. -/
def replace (es : Entries) (k : String) (v : Node) : Entries :=
  es.map fun e => if e.1 = k then (k, v) else e

def append (es : Entries) (k : String) (v : Node) : Entries := es ++ [(k, v)]

def erase (es : Entries) (k : String) : Entries := es.filter fun e => e.1 ≠ k

/-- Writes a value under a dotted key. Each table on the way must be open to dotted keys and
the last of them made by one; the key itself must be free. -/
def put (es : Entries) : List String → String → Node → Option Entries
  | [], k, v => if es.holds k then none else some (es.append k v)
  | p :: ps, k, v =>
    match es.lookup p with
    | none => do
      let sub ← put [] ps k v
      return es.append p (.table .dotted sub)
    | some (.table .dotted sub) => do
      let sub ← put sub ps k v
      return es.replace p (.table .dotted sub)
    | some (.table .implied sub) => do
      if ps.isEmpty then none
      let sub ← put sub ps k v
      return es.replace p (.table .implied sub)
    | some (.tables ts) => do
      if ps.isEmpty then none
      let last ← put (ts.getLast?.getD []) ps k v
      return es.replace p (.tables (ts.dropLast ++ [last]))
    | some _ => none

/-- Changes the table that a header path leads to. Missing tables on the way are implied by
the path, and an array of tables stands for its last element. -/
def atPath (f : Entries → Option Entries) (es : Entries) : List String → Option Entries
  | [] => f es
  | p :: ps =>
    match es.lookup p with
    | none => do
      let sub ← atPath f [] ps
      return es.append p (.table .implied sub)
    | some (.table origin sub) => do
      let sub ← atPath f sub ps
      return es.replace p (.table origin sub)
    | some (.tables ts) => do
      let last ← atPath f (ts.getLast?.getD []) ps
      return es.replace p (.tables (ts.dropLast ++ [last]))
    | some _ => none

/-- Opens a table under its own header. An implied table of that name moves to the end. -/
def openTable (k : String) (es : Entries) : Option Entries :=
  match es.lookup k with
  | none => some (es.append k (.table .header []))
  | some (.table .implied sub) => some ((es.erase k).append k (.table .header sub))
  | some _ => none

def openElement (k : String) (es : Entries) : Option Entries :=
  match es.lookup k with
  | none => some (es.append k (.tables [[]]))
  | some (.tables ts) => some (es.replace k (.tables (ts ++ [[]])))
  | some _ => none

end Entries

end JFlexReport.Toml
