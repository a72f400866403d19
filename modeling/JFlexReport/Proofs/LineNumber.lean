import Mathlib.Data.List.DropRight
import JFlexReport.Proofs.Breaks
import JFlexReport.Proofs.LineSuffix

/-!
The line number of a marker, read from its right end.

A marker gives a line when it ends, blanks aside, in `(line <digits>):` with exactly one blank
before the digits, and the number fits in 32 bits. Only this end counts: a number that stands
anywhere else in the marker is passed over, however often it occurs.
-/

namespace JFlexReport

open Text

/-- Tab, vertical tab, form feed and space: the blanks of ASCII that a line can hold. -/
def inlineBlanks : List Char := ['\t', '\x0b', '\x0c', ' ']

lemma isAsciiBlank_of_mem {c : Char} (h : c ∈ inlineBlanks) : isAsciiBlank c := by
  have hall : inlineBlanks.all isAsciiBlank := by decide
  exact List.all_eq_true.mp hall c h

lemma mem_inlineBlanks_iff {c : Char} (h : isBreak c = false) :
    c ∈ inlineBlanks ↔ isAsciiBlank c := by
  refine ⟨isAsciiBlank_of_mem, fun hc => ?_⟩
  rw [isAsciiBlank, Bool.or_eq_true, beq_iff_eq, Bool.and_eq_true, decide_eq_true_eq,
    decide_eq_true_eq] at hc
  rcases hc with rfl | ⟨hlow, hhigh⟩
  · decide
  · have hcode : ∀ d : Char, c.toNat = d.toNat → c = d := fun _ => Char.toNat_inj.mp
    have hcases : c.toNat = 9 ∨ c.toNat = 10 ∨ c.toNat = 11 ∨ c.toNat = 12 ∨ c.toNat = 13 := by
      omega
    rcases hcases with h' | h' | h' | h' | h'
    · rw [hcode '\t' h']; decide
    · rw [hcode '\n' h'] at h; exact absurd h (by decide)
    · rw [hcode '\x0b' h']; decide
    · rw [hcode '\x0c' h']; decide
    · rw [hcode '\r' h'] at h; exact absurd h (by decide)

/-- The text `(line <digits>):`, with any blank before the digits. -/
def IsLineNumber (ds t : List Char) : Prop :=
  ∃ b ∈ inlineBlanks, t = "(line".toList ++ b :: ds ++ "):".toList ∧
    ds ≠ [] ∧ ∀ d ∈ ds, d.isDigit

/-- The line ends in a number with the digits `ds`, blanks aside. -/
def EndsInLineNumber (ds : List Char) (s : Line) : Prop :=
  ∃ t, t <:+ s.rdropWhile (· ∈ inlineBlanks) ∧ IsLineNumber ds t

lemma rdropWhile_lineNumber {ds t : List Char} (ht : IsLineNumber ds t) (pre : List Char)
    {blanks : List Char} (hblanks : ∀ c ∈ blanks, c ∈ inlineBlanks) :
    (pre ++ t ++ blanks).rdropWhile (· ∈ inlineBlanks) = pre ++ t := by
  obtain ⟨b, -, rfl, -⟩ := ht
  have hdrop : ∀ c ∈ blanks.reverse, decide (c ∈ inlineBlanks) = true := fun c hc => by
    simpa using hblanks c (by simpa using hc)
  rw [List.rdropWhile, List.reverse_append, List.dropWhile_append_of_pos hdrop,
    ← List.rdropWhile]
  have hlast : pre ++ ("(line".toList ++ b :: ds ++ "):".toList) =
      pre ++ ("(line".toList ++ b :: ds ++ [')']) ++ [':'] := by simp
  rw [hlast]
  exact List.rdropWhile_concat_neg _ _ _ (by decide)

lemma isLineSuffix_iff {ds t : List Char} (h : IsUnbroken t) :
    IsLineSuffix ds t ↔
      ∃ u blanks, t = u ++ blanks ∧ IsLineNumber ds u ∧ ∀ c ∈ blanks, c ∈ inlineBlanks := by
  constructor
  · rintro ⟨b, blanks, rfl, hb, hne, hds, hblanks⟩
    refine ⟨_, blanks, rfl, ⟨b, ?_, rfl, hne, hds⟩, fun c hc => ?_⟩
    · exact (mem_inlineBlanks_iff (h b (by simp))).mpr hb
    · exact (mem_inlineBlanks_iff (h c (by simp [hc]))).mpr (hblanks c hc)
  · rintro ⟨u, blanks, rfl, ⟨b, hb, rfl, hne, hds⟩, hblanks⟩
    exact ⟨b, blanks, rfl, isAsciiBlank_of_mem hb, hne, hds,
      fun c hc => isAsciiBlank_of_mem (hblanks c hc)⟩

/-- **The digits of a line stand at its end.** -/
theorem lineDigits?_eq_some_iff_endsInLineNumber {s : Line} (h : IsUnbroken s) (ds : List Char) :
    lineDigits? s = some ds ↔ EndsInLineNumber ds s := by
  rw [lineDigits?_eq_some_iff]
  constructor
  · rintro ⟨t, ⟨pre, rfl⟩, ht⟩
    have htail : IsUnbroken t := fun c hc => h c (List.mem_append_right _ hc)
    obtain ⟨u, blanks, rfl, hu, hblanks⟩ := (isLineSuffix_iff htail).mp ht
    refine ⟨u, ?_, hu⟩
    rw [← List.append_assoc, rdropWhile_lineNumber hu pre hblanks]
    exact List.suffix_append pre u
  · rintro ⟨u, ⟨pre, hpre⟩, hu⟩
    have hs : pre ++ (u ++ s.rtakeWhile (· ∈ inlineBlanks)) = s := by
      rw [← List.append_assoc, hpre, List.rdropWhile_append_rtakeWhile]
    refine ⟨_, ⟨pre, hs⟩, (isLineSuffix_iff fun c hc => h c ?_).mpr ⟨u, _, rfl, hu, ?_⟩⟩
    · rw [← hs]
      exact List.mem_append_right _ hc
    · intro c hc
      simpa using List.mem_rtakeWhile_imp hc

/-! ### Numbers that do not stand at the end -/

lemma lineSuffix?_cons_of_ne {c : Char} (hc : c ≠ '(') (s : List Char) :
    lineSuffix? (c :: s) = none := by
  rw [lineSuffix?]
  rintro b s' h
  exact hc (List.cons.inj h).1

lemma lineDigits?_append_of_notMem {u : List Char} (hu : '(' ∉ u) (s : List Char) :
    lineDigits? (u ++ s) = lineDigits? s := by
  induction u with
  | nil => rfl
  | cons c u ih =>
    rw [List.mem_cons, not_or] at hu
    rw [List.cons_append, lineDigits?, lineSuffix?_cons_of_ne (Ne.symm hu.1), Option.none_or,
      ih hu.2]

lemma lineDigits?_passed {ds t r : List Char} (ht : IsLineNumber ds t)
    (hr : ∃ c ∈ r, ¬isAsciiBlank c) (pre : List Char) :
    lineDigits? (pre ++ t ++ r) = lineDigits? r := by
  obtain ⟨b, hb, rfl, -, hds⟩ := ht
  -- the number is no suffix because of what stands behind it, and none begins inside it
  have hnone : lineSuffix? ("(line".toList ++ b :: ds ++ "):".toList ++ r) = none := by
    rw [lineSuffix?_digits hds]
    simpa using fun _ _ => hr
  have hparen : '(' ∉ "line".toList ++ b :: ds ++ "):".toList := by
    have hb' : '(' ≠ b := by rintro rfl; exact absurd hb (by decide)
    have hds' : '(' ∉ ds := fun hd => absurd (hds _ hd) (by decide)
    simp [hb', hds']
  have hshape : "(line".toList ++ b :: ds ++ "):".toList ++ r =
      '(' :: ("line".toList ++ b :: ds ++ "):".toList ++ r) := by
    simp
  rw [List.append_assoc, hshape, lineDigits?_append, lineDigits?, ← hshape, hnone,
    Option.none_or, lineDigits?_append_of_notMem hparen]

/-- **A marker gives the line that it ends in**, blanks aside, if that fits in 32 bits, and no
line otherwise. Numbers that do not stand at the end have no say. -/
theorem line?_ofMarker_iff {s : Line} (h : IsUnbroken s) :
    (∀ v : UInt32, (LineNumber.ofMarker s).line? = some v ↔
        ∃ ds, EndsInLineNumber ds s ∧ digitsValue ds = v.toNat) ∧
      ((LineNumber.ofMarker s).line? = none ↔
        ∀ ds, EndsInLineNumber ds s → UInt32.size ≤ digitsValue ds) ∧
      ∀ pre t r ds, s = pre ++ t ++ r → IsLineNumber ds t → (∃ c ∈ r, c ∉ inlineBlanks) →
        LineNumber.ofMarker s = LineNumber.ofMarker r := by
  have hends := lineDigits?_eq_some_iff_endsInLineNumber h
  have hvalue : ∀ v : UInt32, (LineNumber.ofMarker s).line? = some v ↔
      ∃ ds, EndsInLineNumber ds s ∧ digitsValue ds = v.toNat := by
    intro v
    simp only [← hends]
    rcases hd : lineDigits? s with _ | ds
    · simp [ofMarker_of_none hd, LineNumber.line?]
    · simp [line?_ofMarker_eq_some hd]
  refine ⟨hvalue, ?_, ?_⟩
  · rw [Option.eq_none_iff_forall_ne_some]
    constructor
    · intro hnone ds hds
      by_contra hlt
      have hfit : digitsValue ds = (UInt32.ofNat (digitsValue ds)).toNat :=
        (UInt32.toNat_ofNat_of_lt' (Nat.not_le.mp hlt)).symm
      exact hnone _ ((hvalue _).mpr ⟨ds, hds, hfit⟩)
    · intro hlarge v hv
      obtain ⟨ds, hds, hdv⟩ := (hvalue v).mp hv
      have := hlarge ds hds
      have := v.toNat_lt_size
      omega
  · rintro pre t r ds rfl ht ⟨c, hc, hvisible⟩
    have hr : ∃ c ∈ r, ¬isAsciiBlank c :=
      ⟨c, hc, by rwa [← mem_inlineBlanks_iff (h c (List.mem_append_right _ hc))]⟩
    rw [LineNumber.ofMarker, LineNumber.ofMarker, lineDigits?_passed ht hr]

/-- The name of the file ends in a number of its own, and the last number has leading zeros. -/
theorem line?_ofMarker_imitation :
    let name := "Error in file \"(line 7):".toList
    let tail := "\" (line\t0042): \x0b".toList
    IsUnbroken (name ++ tail) ∧ (LineNumber.ofMarker (name ++ tail)).line? = some 42 ∧
      EndsInLineNumber "0042".toList (name ++ tail) ∧
      LineNumber.ofMarker (name ++ tail) = LineNumber.ofMarker tail := by
  intro name tail
  have hunbroken : IsUnbroken (name ++ tail) := by decide
  have hlast : EndsInLineNumber "0042".toList (name ++ tail) :=
    ⟨"(line\t0042):".toList, by decide, '\t', by decide, rfl, by decide,
      List.all_eq_true.mp (by decide)⟩
  have hfirst : IsLineNumber "7".toList "(line 7):".toList :=
    ⟨' ', by decide, rfl, by decide, List.all_eq_true.mp (by decide)⟩
  obtain ⟨hvalue, -, hpassed⟩ := line?_ofMarker_iff hunbroken
  refine ⟨hunbroken, (hvalue 42).mpr ⟨_, hlast, by decide⟩, hlast, ?_⟩
  exact hpassed "Error in file \"".toList "(line 7):".toList tail _ (by decide) hfirst
    ⟨'"', by decide, by decide⟩

end JFlexReport
