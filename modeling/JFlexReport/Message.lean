import JFlexReport.Text.Numeral

/-!
Messages of a lexer-generator run: informational chatter, and errors with whatever position
is known of them. A message built by `Message.positioned` has no column unless it has a line,
since a column alone cannot be found in a file.
-/

namespace JFlexReport

open Text

/-- Lines and columns count from 1. -/
structure Message where
  text : String
  line : Option UInt32 := none
  column : Option UInt32 := none
  deriving DecidableEq

namespace Message

def plain (text : String) : Message := { text }

def positioned (text : String) (line column : Option UInt32) : Message :=
  { text, line, column := line.bind fun _ => column }

/-- `line:column`, or the line alone. -/
def position? (m : Message) : Option String :=
  m.line.map fun line =>
    String.ofList <| numeral line.toNat ++
      match m.column with
      | some column => ':' :: numeral column.toNat
      | none => []

/-- The position behind the name of the source, as far as either is known. -/
def location? (m : Message) (source : Option String) : Option String :=
  match source, m.position? with
  | some source, some position => some (source ++ ":" ++ position)
  | some source, none => some source
  | none, position => position

end Message

inductive Category
  | information | error
  deriving DecidableEq

namespace Category

def name : Category → String
  | .information => "Information"
  | .error => "Error"

def tag : Category → String
  | .information => "information"
  | .error => "error"

end Category

/-- The messages of a run by category, each list in order of appearance. -/
structure Messages where
  informational : List Message := []
  errors : List Message := []
  deriving DecidableEq

namespace Messages

def empty : Messages := {}

def get (ms : Messages) : Category → List Message
  | .information => ms.informational
  | .error => ms.errors

def push (ms : Messages) (category : Category) (m : Message) : Messages :=
  match category with
  | .information => { ms with informational := ms.informational ++ [m] }
  | .error => { ms with errors := ms.errors ++ [m] }

def hasErrors (ms : Messages) : Bool := !ms.errors.isEmpty

def size (ms : Messages) : Nat := ms.informational.length + ms.errors.length

def isEmpty (ms : Messages) : Bool := ms.informational.isEmpty && ms.errors.isEmpty

/-- The messages of `ms`, then those of `other`, in both lists. -/
def merge (ms other : Messages) : Messages where
  informational := ms.informational ++ other.informational
  errors := ms.errors ++ other.errors

theorem merge_assoc (a b c : Messages) : (a.merge b).merge c = a.merge (b.merge c) := by
  simp [merge]

@[simp] theorem merge_empty (a : Messages) : a.merge .empty = a := by
  simp [merge, empty]

@[simp] theorem empty_merge (a : Messages) : Messages.empty.merge a = a := by
  simp [merge, empty]

end Messages

end JFlexReport
