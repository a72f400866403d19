import Mathlib.Data.List.TakeWhile
import Mathlib.Tactic.Lemma
import JFlexReport.ErrorBlock

/-!
The line number at the end of a marker.

A suffix `(line <digits>):` holds one opening parenthesis, its first character. So no
earlier parenthesis of the marker can begin a suffix, and the number read is that of the
last one, whatever stands in front.
-/

namespace JFlexReport

open Text

/-- A text that is a suffix with the digits `ds`, blanks behind it included. -/
def IsLineSuffix (ds s : List Char) : Prop :=
  ∃ b blanks, s = "(line".toList ++ b :: ds ++ "):".toList ++ blanks ∧
    isAsciiBlank b ∧ ds ≠ [] ∧ (∀ d ∈ ds, d.isDigit) ∧ ∀ c ∈ blanks, isAsciiBlank c

lemma lineSuffix?_digits {ds : List Char} (hds : ∀ d ∈ ds, d.isDigit) (b : Char)
    (s : List Char) :
    lineSuffix? ("(line".toList ++ b :: ds ++ "):".toList ++ s) =
      if isAsciiBlank b && !ds.isEmpty && s.all isAsciiBlank then some ds else none := by
  have htake : (ds ++ ')' :: ':' :: s).takeWhile Char.isDigit = ds := by
    rw [List.takeWhile_append_of_pos hds]; simp
  have hdrop : (ds ++ ')' :: ':' :: s).dropWhile Char.isDigit = ')' :: ':' :: s := by
    rw [List.dropWhile_append_of_pos hds]; rfl
  simp [lineSuffix?, htake, hdrop]

lemma lineSuffix?_of_isLineSuffix {ds s : List Char} (h : IsLineSuffix ds s) :
    lineSuffix? s = some ds := by
  obtain ⟨b, blanks, rfl, hb, hne, hds, hblanks⟩ := h
  rw [lineSuffix?_digits hds]
  simpa [hb, hne] using hblanks

lemma isLineSuffix_of_lineSuffix? {ds s : List Char} (h : lineSuffix? s = some ds) :
    IsLineSuffix ds s := by
  revert h
  fun_cases lineSuffix? s with
  | case1 b s digits blanks hdrop hcond =>
    intro h
    rw [Option.some.injEq] at h
    subst h
    simp only [Bool.and_eq_true, Bool.not_eq_true', List.isEmpty_eq_false_iff,
      List.all_eq_true] at hcond
    obtain ⟨⟨hb, hne⟩, hblanks⟩ := hcond
    refine ⟨b, blanks, ?_, hb, hne, fun d hd => List.mem_takeWhile_imp hd, hblanks⟩
    have hs : digits ++ ')' :: ':' :: blanks = s := by
      rw [← hdrop]; exact List.takeWhile_append_dropWhile
    rw [← hs]
    simp
  | case2 | case3 | case4 => simp

lemma paren_notMem_tail {ds s : List Char} (h : IsLineSuffix ds s) : '(' ∉ s.tail := by
  obtain ⟨b, blanks, rfl, hb, -, hds, hblanks⟩ := h
  have hb' : '(' ≠ b := by rintro rfl; exact absurd hb (by decide)
  have hds' : '(' ∉ ds := fun hd => absurd (hds _ hd) (by decide)
  have hblanks' : '(' ∉ blanks := fun hc => absurd (hblanks _ hc) (by decide)
  simp [hb', hds', hblanks']

/-- **The last parenthesis decides.** -/
theorem lineDigits?_append (pre s : List Char) :
    lineDigits? (pre ++ '(' :: s) = lineDigits? ('(' :: s) := by
  induction pre with
  | nil => rfl
  | cons c pre ih =>
    have hnone : lineSuffix? (c :: (pre ++ '(' :: s)) = none := by
      by_contra hsome
      obtain ⟨ds, hds⟩ := Option.ne_none_iff_exists'.mp hsome
      exact paren_notMem_tail (isLineSuffix_of_lineSuffix? hds) (by simp)
    rw [List.cons_append, lineDigits?, hnone, Option.none_or, ih]

/-- **The digits are those of a suffix**, wherever it begins. -/
theorem lineDigits?_eq_some_iff {ds s : List Char} :
    lineDigits? s = some ds ↔ ∃ t, t <:+ s ∧ IsLineSuffix ds t := by
  constructor
  · intro h
    induction s with
    | nil => cases h
    | cons c s ih =>
      rw [lineDigits?, Option.or_eq_some_iff] at h
      rcases h with h | ⟨-, h⟩
      · exact ⟨c :: s, List.suffix_rfl, isLineSuffix_of_lineSuffix? h⟩
      · obtain ⟨t, ht, hds⟩ := ih h
        exact ⟨t, ht.trans (List.suffix_cons c s), hds⟩
  · rintro ⟨t, ⟨pre, rfl⟩, hds⟩
    obtain ⟨t', rfl⟩ : ∃ t', t = '(' :: t' := by
      obtain ⟨b, blanks, rfl, -⟩ := hds
      exact ⟨_, rfl⟩
    rw [lineDigits?_append, lineDigits?, lineSuffix?_of_isLineSuffix hds, Option.some_or]

lemma line?_ofMarker_eq_some {s ds : List Char} (h : lineDigits? s = some ds) (v : UInt32) :
    (LineNumber.ofMarker s).line? = some v ↔ digitsValue ds = v.toNat := by
  rw [LineNumber.ofMarker, h]
  by_cases hlt : digitsValue ds < UInt32.size
  · simp only [if_pos hlt, LineNumber.line?, Option.some.injEq]
    rw [← UInt32.toNat_inj, UInt32.toNat_ofNat_of_lt' hlt]
  · have := v.toNat_lt_size
    simp only [if_neg hlt, LineNumber.line?]
    exact iff_of_false (by simp) (by omega)

lemma ofMarker_eq_tooLarge {s ds : List Char} (h : lineDigits? s = some ds) :
    LineNumber.ofMarker s = .tooLarge ↔ UInt32.size ≤ digitsValue ds := by
  rw [LineNumber.ofMarker, h, ← Nat.not_lt]
  by_cases hlt : digitsValue ds < UInt32.size <;> simp [hlt]

lemma ofMarker_of_none {s : List Char} (h : lineDigits? s = none) :
    LineNumber.ofMarker s = .absent := by
  rw [LineNumber.ofMarker, h]

/-- The marker of a block about a line of a file. -/
def markerLine (name : List Char) (line : UInt32) : Line :=
  errorMarker.toList ++ " \"".toList ++ name ++ "\" (line ".toList ++ numeral line.toNat ++
    "):".toList

lemma lineDigits?_markerLine (name : List Char) (line : UInt32) :
    lineDigits? (markerLine name line) = some (numeral line.toNat) := by
  have hpre : markerLine name line =
      (errorMarker.toList ++ " \"".toList ++ name ++ "\" ".toList) ++
        '(' :: ("line ".toList ++ numeral line.toNat ++ "):".toList) := by
    simp [markerLine]
  have hsuffix : IsLineSuffix (numeral line.toNat)
      ('(' :: ("line ".toList ++ numeral line.toNat ++ "):".toList)) :=
    ⟨' ', [], by simp, by decide, numeral_ne_nil _, fun d hd => isDigit_of_mem_numeral hd,
      by simp⟩
  rw [hpre, lineDigits?_append, lineDigits?, lineSuffix?_of_isLineSuffix hsuffix, Option.some_or]

/-- **The line of a marker is read back**, whatever the name of the file looks like. -/
theorem ofMarker_markerLine (name : List Char) (line : UInt32) :
    LineNumber.ofMarker (markerLine name line) = .known line := by
  have hlt : line.toNat < UInt32.size := line.toNat_lt_size
  simp [LineNumber.ofMarker, lineDigits?_markerLine, digitsValue_numeral, hlt]

end JFlexReport
