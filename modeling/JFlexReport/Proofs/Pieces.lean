import Mathlib.Data.List.Basic
import Mathlib.Tactic.Lemma
import JFlexReport.Text.Lines

/-!
The pieces of a list between its separators, where each separator counts.

A separator keeps what stands in front of it and what stands behind it apart, so the pieces of a
list can be found from any of its separators on. A piece is exactly what holds no separator and
is as long as it can be.
-/

namespace JFlexReport.Text

variable {α : Type} {sep : α → Bool}

variable (sep) in
lemma splitEach_ne_nil (s : List α) : splitEach sep s ≠ [] := by
  induction s with
  | nil => simp [splitEach]
  | cons c s ih =>
    obtain ⟨p, ps, hs⟩ := List.exists_cons_of_ne_nil ih
    rw [splitEach, hs]
    split <;> simp

lemma splitEach_append_sep {c : α} (hc : sep c) (a b : List α) :
    splitEach sep (a ++ c :: b) = splitEach sep a ++ splitEach sep b := by
  induction a with
  | nil => simp [splitEach, hc]
  | cons x a ih =>
    obtain ⟨p, ps, ha⟩ := List.exists_cons_of_ne_nil (splitEach_ne_nil sep a)
    rw [List.cons_append, splitEach, splitEach, ih, ha]
    split <;> rfl

lemma splitEach_eq_singleton {l : List α} (hl : ∀ x ∈ l, sep x = false) :
    splitEach sep l = [l] := by
  induction l with
  | nil => rfl
  | cons x l ih =>
    have hx : sep x = false := hl x List.mem_cons_self
    rw [splitEach, if_neg (by simp [hx]), ih fun y hy => hl y (List.mem_cons_of_mem x hy)]
    rfl

lemma splitEach_piece {l : List α} {c : α} (hl : ∀ x ∈ l, sep x = false) (hc : sep c)
    (s : List α) : splitEach sep (l ++ c :: s) = l :: splitEach sep s := by
  rw [splitEach_append_sep hc, splitEach_eq_singleton hl, List.singleton_append]

variable (sep) in
lemma exists_first_sep (s : List α) :
    (∀ x ∈ s, sep x = false) ∨
      ∃ l c r, s = l ++ c :: r ∧ (∀ x ∈ l, sep x = false) ∧ sep c := by
  induction s with
  | nil => exact .inl fun x hx => absurd hx List.not_mem_nil
  | cons x s ih =>
    rcases hx : sep x with _ | _
    · rcases ih with hs | ⟨l, c, r, rfl, hl, hc⟩
      · exact .inl (List.forall_mem_cons.mpr ⟨hx, hs⟩)
      · exact .inr ⟨x :: l, c, r, rfl, List.forall_mem_cons.mpr ⟨hx, hl⟩, hc⟩
    · exact .inr ⟨[], x, s, rfl, fun y hy => absurd hy List.not_mem_nil, hx⟩

/-- Where a piece stands: between separators or at the ends of the list. -/
structure Separates (sep : α → Bool) (a w b s : List α) : Prop where
  eq : s = a ++ w ++ b
  before : ∀ x ∈ a.getLast?, sep x
  behind : ∀ x ∈ b.head?, sep x

lemma exists_separates {w s : List α} (h : w ∈ splitEach sep s) :
    ∃ a b, Separates sep a w b s := by
  -- by the pieces behind the first separator
  induction hn : s.length using Nat.strongRecOn generalizing s with
  | ind n ih =>
    rcases exists_first_sep sep s with hs | ⟨l, c, r, rfl, hl, hc⟩
    · rw [splitEach_eq_singleton hs, List.mem_singleton] at h
      exact ⟨[], [], by simp [h], by simp, by simp⟩
    · rw [splitEach_piece hl hc, List.mem_cons] at h
      rcases h with rfl | h
      · exact ⟨[], c :: r, by simp, by simp, by simpa using hc⟩
      · have hlt : r.length < n := by
          rw [← hn, List.length_append, List.length_cons]
          omega
        obtain ⟨a, b, rfl, ha, hb⟩ := ih _ hlt h rfl
        refine ⟨l ++ c :: a, b, by simp, ?_, hb⟩
        intro x hx
        rw [List.getLast?_append_cons] at hx
        rcases List.eq_nil_or_concat a with rfl | ⟨a', y, rfl⟩
        · obtain rfl : c = x := by simpa using hx
          exact hc
        · exact ha x (by simpa [List.getLast?_cons] using hx)

end JFlexReport.Text
