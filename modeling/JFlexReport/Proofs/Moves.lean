import Mathlib.Algebra.Order.Ring.Int
import JFlexReport.Proofs.Segment

/-!
The moves of a reader over lines.

A reader keeps its lines and never stands past the place behind the last of them; whatever it
shows can be read off the lines and its position. A move in either direction changes the
position by a number of places and is cut short at the ends of the lines, so it cannot always
be undone: a step ahead that the end cuts short is taken back too far, unless the reader had
no line behind it.
-/

namespace JFlexReport

/-- A step of a reader, ahead or back. -/
inductive Move
  | advance (n : ℕ)
  | retreat (n : ℕ)

/-- By how many places a move changes the position where nothing is in the way. -/
def Move.offset : Move → ℤ
  | advance n => n
  | retreat n => -n

/-- The place that a move leads to from the place `i` within `size` lines. -/
def Move.target (size : ℕ) (i : ℤ) (m : Move) : ℤ := max 0 (min (i + m.offset) size)

namespace LineReader

variable {α : Type} {ls : List α} {r : LineReader α}

def move (r : LineReader α) : Move → LineReader α
  | .advance n => r.advance n
  | .retreat n => r.retreat n

def moveAll (r : LineReader α) (moves : List Move) : LineReader α := moves.foldl move r

lemma moveAll_cons (r : LineReader α) (m : Move) (moves : List Move) :
    r.moveAll (m :: moves) = (r.move m).moveAll moves := rfl

/-! ### What every move keeps -/

/-- A reader that stands at a line of `ls` or behind the last one. -/
structure Over (ls : List α) (r : LineReader α) : Prop where
  lines_eq : r.lines.toList = ls
  position_le : r.position ≤ ls.length

lemma over_ofList (ls : List α) : Over ls (ofList ls) :=
  ⟨by simp [ofList], Nat.zero_le _⟩

lemma Over.size_lines (h : Over ls r) : r.lines.size = ls.length := by
  rw [← h.lines_eq, Array.length_toList]

lemma lines_move (r : LineReader α) (m : Move) : (r.move m).lines = r.lines := by
  cases m <;> rfl

lemma Over.position_move (h : Over ls r) (m : Move) :
    (r.move m).position = m.target ls.length r.position := by
  have hsize := h.size_lines
  have hle := h.position_le
  cases m with
  | advance n => rw [LineReader.move, position_advance, Move.target, Move.offset]; omega
  | retreat n => rw [LineReader.move, position_retreat, Move.target, Move.offset]; omega

lemma Over.move (h : Over ls r) (m : Move) : Over ls (r.move m) where
  lines_eq := by rw [lines_move, h.lines_eq]
  position_le := by
    have hposition := h.position_move m
    rw [Move.target] at hposition
    omega

lemma Over.moveAll (h : Over ls r) (moves : List Move) : Over ls (r.moveAll moves) := by
  induction moves generalizing r with
  | nil => exact h
  | cons m moves ih => exact ih (h.move m)

lemma Over.position_moveAll (h : Over ls r) (moves : List Move) :
    (r.moveAll moves).position = moves.foldl (Move.target ls.length) r.position := by
  induction moves generalizing r with
  | nil => rfl
  | cons m moves ih =>
    rw [moveAll_cons, ih (h.move m), List.foldl_cons, h.position_move]

/-! ### What a reader shows -/

/-- What a reader over `ls` shows at its place: the lines from there on, and two accounts of
how far the end is that agree with them. -/
structure Observed (ls : List α) (r : LineReader α) : Prop where
  position_le : r.position ≤ ls.length
  peek_eq : ∀ k, r.peek k = ls[r.position + k]?
  atEnd_iff : r.atEnd ↔ r.current = none
  current_eq_none_iff : r.current = none ↔ r.position = ls.length
  remaining_eq : r.remaining = (ls.drop (r.position + 1)).length
  remaining_atEnd : r.atEnd → r.remaining = 0
  isSome_peek_iff : ¬r.atEnd → ∀ k, (r.peek k).isSome ↔ k ≤ r.remaining

lemma Over.rest_eq (h : Over ls r) : r.rest = ls.drop r.position := by
  rw [rest, h.lines_eq]

lemma Over.peek_eq (h : Over ls r) (k : ℕ) : r.peek k = ls[r.position + k]? := by
  rw [LineReader.peek_eq, h.rest_eq, List.getElem?_drop]

lemma Over.atEnd_iff (h : Over ls r) : r.atEnd ↔ r.position = ls.length := by
  have hle := h.position_le
  rw [atEnd, decide_eq_true_iff, h.size_lines]
  omega

lemma Over.current_eq_none_iff (h : Over ls r) :
    r.current = none ↔ r.position = ls.length := by
  have hle := h.position_le
  rw [current, h.peek_eq, List.getElem?_eq_none_iff]
  omega

lemma Over.remaining_eq (h : Over ls r) : r.remaining = ls.length - (r.position + 1) := by
  rw [remaining, h.size_lines]

lemma Over.observed (h : Over ls r) : Observed ls r where
  position_le := h.position_le
  peek_eq := h.peek_eq
  atEnd_iff := h.atEnd_iff.trans h.current_eq_none_iff.symm
  current_eq_none_iff := h.current_eq_none_iff
  remaining_eq := by rw [h.remaining_eq, List.length_drop]
  remaining_atEnd hend := by
    rw [h.remaining_eq, h.atEnd_iff.mp hend]
    omega
  isSome_peek_iff hend k := by
    have hle := h.position_le
    have hlt : r.position < ls.length := Nat.lt_of_le_of_ne hle (mt h.atEnd_iff.mpr hend)
    rw [h.peek_eq, Option.isSome_iff_ne_none, ne_eq, List.getElem?_eq_none_iff, h.remaining_eq]
    omega

/-! ### Moves one after the other -/

/-- Moves in one direction add up, and what `advance` does `retreat` takes back unless the end
of the lines cut it short with a line behind the reader. -/
structure Composes (r : LineReader α) : Prop where
  advance_advance : ∀ m n, (r.advance m).advance n = r.advance (m + n)
  retreat_retreat : ∀ m n, (r.retreat m).retreat n = r.retreat (m + n)
  retreat_advance : ∀ n, ((r.advance n).retreat n).position = r.position ↔
    (r.advance n).position = r.position + n ∨ r.position = 0

lemma Over.composes (h : Over ls r) : Composes r where
  advance_advance m n := by
    have hposition : min (min (r.position + m) r.lines.size + n) r.lines.size =
        min (r.position + (m + n)) r.lines.size := by omega
    simp only [advance, hposition]
  retreat_retreat m n := by
    simp only [retreat, Nat.sub_sub]
  retreat_advance n := by
    -- cut short by the end, the reader is fewer than `n` places ahead, so the step back leads to
    -- an earlier place than it started from, unless there is none
    have hsize := h.size_lines
    have hle := h.position_le
    rw [position_retreat, position_advance]
    omega

/-- **A reader keeps to its lines.** After any moves it shows the lines from its position on,
the position is that of the moves cut short one by one, and further moves in one direction add
up. A step ahead is taken back by the same step exactly when it was not cut short or the reader
stood at the first place. -/
theorem observed_moveAll (ls : List α) (moves : List Move) :
    Observed ls ((ofList ls).moveAll moves) ∧
      ((ofList ls).moveAll moves).position = moves.foldl (Move.target ls.length) 0 ∧
      Composes ((ofList ls).moveAll moves) := by
  have h := (over_ofList ls).moveAll moves
  exact ⟨h.observed, (over_ofList ls).position_moveAll moves, h.composes⟩

/-- At the first place a step ahead is taken back even where the end has cut it short. -/
theorem taken_back_cut_short :
    ¬((((ofList [['a']]).advance 2).retreat 2).position = (ofList [['a']]).position ↔
      ((ofList [['a']]).advance 2).position = (ofList [['a']]).position + 2) := by
  decide

end LineReader

end JFlexReport
