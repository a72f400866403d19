/-!
The lines of a text. A run of carriage returns and line feeds, however long and in whatever
order, is one line break; a break at either end of the text leaves an empty line there, so
the lines of a text that ends in a break end with an empty one.
-/

namespace JFlexReport.Text

/-- The pieces of a list between its maximal runs of separators. -/
def splitRuns {α : Type} (sep : α → Bool) : List α → List (List α)
  | [] => [[]]
  | c :: s =>
    if sep c then
      if s.head?.any sep then splitRuns sep s else [] :: splitRuns sep s
    else (splitRuns sep s).modifyHead (c :: ·)

theorem splitRuns_ne_nil {α : Type} (sep : α → Bool) (s : List α) : splitRuns sep s ≠ [] := by
  induction s with
  | nil => simp [splitRuns]
  | cons c s ih =>
    rw [splitRuns]
    split
    · split
      · exact ih
      · simp
    · cases h : splitRuns sep s with
      | nil => exact absurd h ih
      | cons l ls => simp

/-- The pieces of a list between its separators, one separator at a time. -/
def splitEach {α : Type} (sep : α → Bool) : List α → List (List α)
  | [] => [[]]
  | c :: s =>
    if sep c then [] :: splitEach sep s
    else (splitEach sep s).modifyHead (c :: ·)

abbrev Line := List Char

def isBreak (c : Char) : Bool := c == '\n' || c == '\r'

def lines (s : List Char) : List Line := splitRuns isBreak s

end JFlexReport.Text
