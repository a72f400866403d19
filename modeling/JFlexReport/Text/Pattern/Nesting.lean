/-!
How deep a pattern is nested. A group, a repetition, a class of characters and an operator
between classes each add a layer to what they hold, and so do several alternatives, several
items in a sequence and several members of a class; a character adds none. The depth is
counted while the pattern is read, from what is open and what has been read of it.
-/

namespace JFlexReport.Text.Pattern

/-- The deepest nesting that a pattern may have. -/
def deepestNesting : Nat := 250

/-- Things side by side: how many there are, and the depth of the deepest. -/
structure Row where
  size : Nat := 0
  deepest : Nat := 0

namespace Row

def add (r : Row) (depth : Nat) : Row := { size := r.size + 1, deepest := max r.deepest depth }

/-- One thing alone makes no layer. -/
def depth (r : Row) : Nat := if 1 < r.size then r.deepest + 1 else r.deepest

end Row

/-- The settings that decide what a pattern may hold: whether it speaks of characters or of
bytes, and whether blanks and comments in it count for nothing. -/
structure Flags where
  unicode : Bool := true
  verbose : Bool := false

/-- A setting after flags that name it or not; the flags behind a hyphen switch off. -/
def switched (text : List Char) (flag : Char) (old : Bool) : Bool :=
  if (text.takeWhile (· != '-')).contains flag then true
  else if text.contains flag then false
  else old

def Flags.switch (f : Flags) (text : List Char) : Flags :=
  { unicode := switched text 'u' f.unicode, verbose := switched text 'x' f.verbose }

/-- An open group, as far as it has been read. Its last item is apart from the others, since
it may yet be repeated. -/
structure Group where
  outside : Flags := {}
  alternatives : Row := {}
  others : Row := {}
  last : Option Nat := none

namespace Group

def items (g : Group) : Row :=
  match g.last with
  | some depth => g.others.add depth
  | none => g.others

def add (g : Group) (depth : Nat) : Group := { g with others := g.items, last := some depth }

def repeatLast (g : Group) : Group := { g with last := g.last.map (· + 1) }

def turn (g : Group) : Group :=
  { g with alternatives := g.alternatives.add g.items.depth, others := {}, last := none }

def depth (g : Group) : Nat := (g.alternatives.add g.items.depth).depth

end Group

/-- An open class of characters, as far as it has been read: what stands to the left of the
last operator, the members behind it, and the text since the bracket, last character first. -/
structure OpenClass where
  left : Option Nat := none
  members : Row := {}
  text : List Char := []

namespace OpenClass

def add (k : OpenClass) (depth : Nat) : OpenClass := { k with members := k.members.add depth }

def inner (k : OpenClass) : Nat :=
  match k.left with
  | some depth => max depth k.members.depth + 1
  | none => k.members.depth

def operate (k : OpenClass) : OpenClass := { k with left := some k.inner, members := {} }

/-- The brackets themselves are a layer. -/
def depth (k : OpenClass) : Nat := k.inner + 1

end OpenClass

end JFlexReport.Text.Pattern
