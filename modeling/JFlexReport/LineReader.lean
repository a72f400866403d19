/-!
A reader over the lines of a text that can look ahead and step back. Its position stays
within the lines: stepping forward stops behind the last line, stepping back at the first.
-/

namespace JFlexReport

structure LineReader (α : Type) where
  lines : Array α
  position : Nat := 0

namespace LineReader

variable {α : Type}

def ofList (lines : List α) : LineReader α := { lines := lines.toArray }

/-- The line `k` places ahead. -/
def peek (r : LineReader α) (k : Nat) : Option α := r.lines[r.position + k]?

def current (r : LineReader α) : Option α := r.peek 0

def advance (r : LineReader α) (n : Nat) : LineReader α :=
  { r with position := min (r.position + n) r.lines.size }

def retreat (r : LineReader α) (n : Nat) : LineReader α :=
  { r with position := r.position - n }

/-- How many lines follow the current one. -/
def remaining (r : LineReader α) : Nat := r.lines.size - (r.position + 1)

def atEnd (r : LineReader α) : Bool := r.lines.size ≤ r.position

@[simp] theorem lines_advance (r : LineReader α) (n : Nat) : (r.advance n).lines = r.lines := rfl
@[simp] theorem lines_retreat (r : LineReader α) (n : Nat) : (r.retreat n).lines = r.lines := rfl

@[simp] theorem position_advance (r : LineReader α) (n : Nat) :
    (r.advance n).position = min (r.position + n) r.lines.size := rfl

@[simp] theorem position_retreat (r : LineReader α) (n : Nat) :
    (r.retreat n).position = r.position - n := rfl

theorem lt_size_of_peek {r : LineReader α} {k : Nat} {l : α} (h : r.peek k = some l) :
    r.position + k < r.lines.size :=
  (Array.getElem?_eq_some_iff.1 h).1

end LineReader

end JFlexReport
