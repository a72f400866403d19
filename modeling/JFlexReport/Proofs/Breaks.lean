import Mathlib.Data.List.Basic
import Mathlib.Data.List.TakeWhile
import Mathlib.Tactic.Lemma
import JFlexReport.Text.Lines
import JFlexReport.Text.Numeral

/-!
The lines of a text, put together from its parts.

Lines that are printed with a break behind each come back as they were, with an empty line
at the end, whatever breaks were chosen. When a text grows, its last line may grow and
further lines may follow; all other lines stay. What follows a break has lines of its own.
-/

namespace JFlexReport.Text

variable {α : Type} {sep : α → Bool}

lemma splitRuns_run {b s : List α} (hne : b ≠ []) (hb : ∀ c ∈ b, sep c)
    (hs : ∀ c ∈ s.head?, sep c = false) : splitRuns sep (b ++ s) = [] :: splitRuns sep s := by
  induction b with
  | nil => exact absurd rfl hne
  | cons c b ih =>
    have hc : sep c := hb c (by simp)
    cases b with
    | nil =>
      have hs' : s.head?.any sep = false := by
        cases s with
        | nil => rfl
        | cons x s => simpa using hs x
      simp [splitRuns, hc, hs']
    | cons d b =>
      have hd : sep d := hb d (by simp)
      have ih := ih (by simp) fun x hx => hb x (List.mem_cons_of_mem _ hx)
      rw [List.cons_append, splitRuns, if_pos hc, if_pos (by simp [hd]), ih]

lemma splitRuns_append {l : List α} (hl : ∀ c ∈ l, sep c = false) (s : List α) :
    splitRuns sep (l ++ s) = (splitRuns sep s).modifyHead (l ++ ·) := by
  induction l with
  | nil => cases h : splitRuns sep s <;> simp [h]
  | cons c l ih =>
    have hc : sep c = false := hl c (by simp)
    rw [List.cons_append, splitRuns, if_neg (by simp [hc]),
      ih fun x hx => hl x (List.mem_cons_of_mem _ hx)]
    cases splitRuns sep s <;> simp

lemma splitRuns_piece {l b s : List α} (hl : ∀ c ∈ l, sep c = false) (hne : b ≠ [])
    (hb : ∀ c ∈ b, sep c) (hs : ∀ c ∈ s.head?, sep c = false) :
    splitRuns sep (l ++ (b ++ s)) = l :: splitRuns sep s := by
  rw [splitRuns_append hl, splitRuns_run hne hb hs]
  simp

lemma splitRuns_of_sep {c : α} (hc : sep c) (s : List α) :
    ∃ p ps, splitRuns sep (c :: s) = [] :: p :: ps := by
  induction s generalizing c with
  | nil => exact ⟨[], [], by simp [splitRuns, hc]⟩
  | cons d s ih =>
    rw [splitRuns, if_pos hc]
    split
    · next hd => exact ih (by simpa using hd)
    · obtain ⟨p, ps, h⟩ := List.exists_cons_of_ne_nil (splitRuns_ne_nil sep (d :: s))
      exact ⟨p, ps, by rw [h]⟩

lemma splitRuns_dropWhile {s : List α} (hs : s.takeWhile sep ≠ []) :
    splitRuns sep s = [] :: splitRuns sep (s.dropWhile sep) := by
  have hrest : ∀ c ∈ (s.dropWhile sep).head?, sep c = false := by
    intro c hc
    have := List.head?_dropWhile_not sep s
    rw [Option.mem_def] at hc
    simpa [hc] using this
  have h := splitRuns_run hs (fun c hc => List.mem_takeWhile_imp hc) hrest
  rwa [List.takeWhile_append_dropWhile] at h

/-- **Behind a separator a text is split on its own**, less the separators that follow. -/
theorem splitRuns_append_sep {c : α} (hc : sep c) (a : List α) :
    ∃ p ps, ∀ b, splitRuns sep (a ++ c :: b) = p :: ps ++ splitRuns sep (b.dropWhile sep) := by
  induction a with
  | nil =>
    refine ⟨[], [], fun b => ?_⟩
    rw [List.nil_append, splitRuns_dropWhile (by simp [hc]), List.dropWhile_cons_of_pos hc]
    rfl
  | cons d a ih =>
    obtain ⟨p, ps, h⟩ := ih
    -- what follows `c` does not change which character follows `d`
    have hhead (b : List α) : (a ++ c :: b).head? = a.head?.or (some c) := by
      rw [List.head?_append, List.head?_cons]
    by_cases hd : sep d
    · by_cases hs : (a.head?.or (some c)).any sep
      · exact ⟨p, ps, fun b => by
          rw [List.cons_append, splitRuns, if_pos hd, hhead, if_pos hs, h]⟩
      · exact ⟨[], p :: ps, fun b => by
          rw [List.cons_append, splitRuns, if_pos hd, hhead, if_neg hs, h]; rfl⟩
    · exact ⟨d :: p, ps, fun b => by
        rw [List.cons_append, splitRuns, if_neg hd, h]; rfl⟩

variable (sep) in
lemma flatten_splitRuns (s : List α) : (splitRuns sep s).flatten = s.filter (!sep ·) := by
  induction s with
  | nil => rfl
  | cons c s ih =>
    rw [splitRuns]
    by_cases hc : sep c
    · rw [if_pos hc, List.filter_cons_of_neg (by simp [hc]), ← ih]
      split <;> simp
    · obtain ⟨p, ps, hs⟩ := List.exists_cons_of_ne_nil (splitRuns_ne_nil sep s)
      rw [if_neg hc, List.filter_cons_of_pos (by simpa using hc), ← ih, hs]
      simp

lemma mem_of_mem_splitRuns {s l : List α} {c : α} (hl : l ∈ splitRuns sep s) (hc : c ∈ l) :
    c ∈ s ∧ sep c = false := by
  have h := List.mem_flatten_of_mem hl hc
  rw [flatten_splitRuns, List.mem_filter] at h
  simpa using h

lemma exists_mem_splitRuns {s : List α} {c : α} (hc : c ∈ s) (h : sep c = false) :
    ∃ l ∈ splitRuns sep s, c ∈ l := by
  rw [← List.mem_flatten, flatten_splitRuns, List.mem_filter]
  exact ⟨hc, by simp [h]⟩

variable (sep) in
/-- Between the first and the last piece none is empty: separators in a row are one run. -/
lemma ne_nil_of_mem_inner (s : List α) :
    (∀ l ∈ (splitRuns sep s).tail.dropLast, l ≠ []) ∧
      ((∀ c ∈ s.head?, sep c = false) → ∀ l ∈ (splitRuns sep s).dropLast, l ≠ []) := by
  induction s with
  | nil => simp [splitRuns]
  | cons c s ih =>
    obtain ⟨p, ps, hs⟩ := List.exists_cons_of_ne_nil (splitRuns_ne_nil sep s)
    by_cases hc : sep c
    · refine ⟨?_, fun h => absurd (h c rfl) (by simp [hc])⟩
      rw [splitRuns, if_pos hc]
      split
      · exact ih.1
      · next hrest => exact ih.2 fun d hd => by simpa [Option.mem_def.mp hd] using hrest
    · rw [splitRuns, if_neg hc, hs, List.modifyHead_cons]
      rw [hs, List.tail_cons] at ih
      refine ⟨ih.1, fun _ l hl => ?_⟩
      rcases ps with _ | ⟨q, ps⟩
      · simp at hl
      · rw [List.dropLast_cons_cons, List.mem_cons] at hl
        rcases hl with rfl | hl
        · exact List.cons_ne_nil c p
        · exact ih.1 l hl

lemma ne_nil_of_inner {s l : List α} {i : ℕ} (h : (splitRuns sep s)[i + 1]? = some l)
    (hi : i + 2 < (splitRuns sep s).length) : l ≠ [] := by
  refine (ne_nil_of_mem_inner sep s).1 l (List.mem_of_getElem? (i := i) ?_)
  rw [List.getElem?_dropLast, if_pos (by rw [List.length_tail]; omega), List.getElem?_tail, h]

lemma splitRuns_append_run {s b : List α} (hs : ∀ c ∈ s.getLast?, sep c = false) (hne : b ≠ [])
    (hb : ∀ c ∈ b, sep c) : splitRuns sep (s ++ b) = splitRuns sep s ++ [[]] := by
  induction s with
  | nil =>
    have h := splitRuns_run (s := []) hne hb (by simp)
    rwa [List.append_nil] at h
  | cons c s ih =>
    rcases s with _ | ⟨d, s⟩
    · have hc : sep c = false := hs c rfl
      have h := splitRuns_piece (l := [c]) (s := []) (by simpa using hc) hne hb (by simp)
      rw [List.append_nil] at h
      rw [h]
      simp [splitRuns, hc]
    · have ih := ih (by simpa using hs)
      rw [List.cons_append, splitRuns, splitRuns, List.cons_append, List.head?_cons,
        ← List.cons_append, ih, List.head?_cons]
      obtain ⟨p, ps, hp⟩ := List.exists_cons_of_ne_nil (splitRuns_ne_nil sep (d :: s))
      split
      · split <;> rfl
      · rw [hp]; rfl

variable (sep) in
/-- **Growth**: behind the last piece of `a` nothing is fixed, in front of it everything. -/
theorem splitRuns_append_right (a b : List α) :
    ∃ ps x y qs, splitRuns sep a = ps ++ [x] ∧ splitRuns sep (a ++ b) = ps ++ (x ++ y) :: qs := by
  induction a with
  | nil =>
    obtain ⟨y, qs, h⟩ := List.exists_cons_of_ne_nil (splitRuns_ne_nil sep b)
    exact ⟨[], [], y, qs, rfl, h⟩
  | cons c a ih =>
    obtain ⟨ps, x, y, qs, ha, hab⟩ := ih
    by_cases hc : sep c
    · rcases a with _ | ⟨d, a⟩
      · -- the break may go on into `b`, but the line behind it is empty so far either way
        obtain ⟨y, qs, h⟩ := splitRuns_of_sep hc b
        exact ⟨[[]], [], y, qs, by simp [splitRuns, hc], h⟩
      · by_cases hd : sep d
        · refine ⟨ps, x, y, qs, ?_, ?_⟩
          · rw [splitRuns, if_pos hc, if_pos (by simpa using hd), ha]
          · rw [List.cons_append, splitRuns, if_pos hc, if_pos (by simpa using hd), hab]
        · refine ⟨[] :: ps, x, y, qs, ?_, ?_⟩
          · rw [splitRuns, if_pos hc, if_neg (by simpa using hd), ha, List.cons_append]
          · rw [List.cons_append, splitRuns, if_pos hc, if_neg (by simpa using hd), hab,
              List.cons_append]
    · have h (s : List α) : splitRuns sep (c :: s) = (splitRuns sep s).modifyHead (c :: ·) := by
        rw [splitRuns, if_neg hc]
      rw [List.cons_append, h, h, ha, hab]
      rcases ps with _ | ⟨p, ps⟩
      · exact ⟨[], c :: x, y, qs, by simp, by simp⟩
      · exact ⟨(c :: p) :: ps, x, y, qs, by simp, by simp⟩

/-! ### Printed lines -/

/-- A line break: one or more line-end characters. -/
structure Break where
  run : List Char
  ne_nil : run ≠ []
  isBreak_of_mem : ∀ c ∈ run, isBreak c

/-- Lines with their breaks, as one text. -/
def printed (ls : List (Line × Break)) : List Char := ls.flatMap fun l => l.1 ++ l.2.run

/-- No break stands inside. -/
def IsUnbroken (l : Line) : Prop := ∀ c ∈ l, isBreak c = false

instance (l : Line) : Decidable (IsUnbroken l) := List.decidableBAll _ l

lemma IsUnbroken.append {l l' : Line} (h : IsUnbroken l) (h' : IsUnbroken l') :
    IsUnbroken (l ++ l') :=
  List.forall_mem_append.mpr ⟨h, h'⟩

lemma isUnbroken_numeral (n : ℕ) : IsUnbroken (numeral n) := by
  intro c hc
  have hd := isDigit_of_mem_numeral hc
  have h1 : c ≠ '\n' := by rintro rfl; exact absurd hd (by decide)
  have h2 : c ≠ '\r' := by rintro rfl; exact absurd hd (by decide)
  simp [isBreak, h1, h2]

/-- A line that can be told from its breaks. -/
def IsSolid (l : Line) : Prop := l ≠ [] ∧ IsUnbroken l

instance (l : Line) : Decidable (IsSolid l) :=
  inferInstanceAs (Decidable (l ≠ [] ∧ IsUnbroken l))

lemma isBreak_head_printed {ls : List (Line × Break)} (h : ∀ l ∈ ls, IsSolid l.1) :
    ∀ c ∈ (printed ls).head?, isBreak c = false := by
  rcases ls with _ | ⟨l, ls⟩
  · simp [printed]
  · obtain ⟨hne, hl⟩ := h l (by simp)
    obtain ⟨c, s, hc⟩ := List.exists_cons_of_ne_nil hne
    simpa [printed, hc] using hl c (by simp [hc])

/-- **Printed lines come back**, with an empty one behind the last break. -/
theorem lines_printed {ls : List (Line × Break)} (h : ∀ l ∈ ls, IsSolid l.1) :
    lines (printed ls) = ls.map Prod.fst ++ [[]] := by
  induction ls with
  | nil => rfl
  | cons l ls ih =>
    have hls : ∀ x ∈ ls, IsSolid x.1 := fun x hx => h x (List.mem_cons_of_mem _ hx)
    have hp := splitRuns_piece (h l (by simp)).2 l.2.ne_nil l.2.isBreak_of_mem
      (isBreak_head_printed hls)
    rw [List.map_cons, List.cons_append, ← ih hls, lines, lines, ← hp]
    simp [printed]

end JFlexReport.Text
