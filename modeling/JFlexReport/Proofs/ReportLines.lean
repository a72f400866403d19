import Mathlib.Data.List.Infix
import JFlexReport.Proofs.Explanation
import JFlexReport.Proofs.Pieces
import JFlexReport.Proofs.Shape
import JFlexReport.Report.Plain

/-!
The lines of a text report, and how they can be told apart.

A report is the chatter of the run and then either its errors or, where there are none, the
last word on it. Lines without a break come back when the report is cut at its breaks. How a
report ends can be told even where a source or a command holds breaks of its own: behind the
last of them an error still has its location and its text, which no last word looks like.
-/

namespace JFlexReport.Report

open Text

/-! ### Lines in a row -/

lemma toList_unlines (ls : List String) :
    (unlines ls).toList = ls.flatMap fun l => l.toList ++ ['\n'] := by
  induction ls with
  | nil => rfl
  | cons l ls ih => simp [unlines, ih]

lemma unlines_append (ls ls' : List String) : unlines (ls ++ ls') = unlines ls ++ unlines ls' := by
  rw [← String.toList_inj, String.toList_append]
  simp only [toList_unlines, List.flatMap_append]

/-- **Unbroken lines come back**, with an empty one behind the last break. -/
theorem splitEach_unlines {ls : List String} (h : ∀ l ∈ ls, IsUnbroken l.toList) :
    splitEach isBreak (unlines ls).toList = ls.map String.toList ++ [[]] := by
  rw [toList_unlines]
  induction ls with
  | nil => rfl
  | cons l ls ih =>
    rw [List.flatMap_cons, List.append_assoc, List.singleton_append,
      splitEach_piece (h l List.mem_cons_self) (by decide),
      ih fun x hx => h x (List.mem_cons_of_mem l hx), List.map_cons, List.cons_append]

lemma unlines_inj {ls ls' : List String} (h : ∀ l ∈ ls, IsUnbroken l.toList)
    (h' : ∀ l ∈ ls', IsUnbroken l.toList) (heq : unlines ls = unlines ls') : ls = ls' := by
  have hs := splitEach_unlines h
  rw [heq, splitEach_unlines h'] at hs
  have hinj : Function.Injective String.toList := fun _ _ => String.toList_inj.mp
  exact (List.map_injective_iff.mpr hinj (List.append_cancel_right hs)).symm

/-- The text is made of lines, and these are the last of them. -/
def EndsInLines (text : String) (ls : List String) : Prop := ∃ front, text = unlines (front ++ ls)

/-- What lines end in ends in a line feed, unless it is nothing. -/
lemma eq_nil_or_concat_of_unlines {ls : List String} {x s : List Char}
    (h : (unlines ls).toList = x ++ s) : s = [] ∨ ∃ t, s = t ++ ['\n'] := by
  rcases List.eq_nil_or_concat s with rfl | ⟨t, c, rfl⟩
  · exact .inl rfl
  · right
    rcases List.eq_nil_or_concat ls with rfl | ⟨ls, l, rfl⟩
    · simp [unlines] at h
    · simp only [List.concat_eq_append, unlines_append, String.toList_append, toList_unlines [l],
        List.flatMap_singleton, ← List.append_assoc] at h ⊢
      have hc : '\n' = c := List.singleton_inj.mp (List.append_inj' h rfl).2
      exact ⟨t, by rw [hc]⟩

/-- Two last lines of one text: one of them may hold the other behind a break of its own. -/
lemma last_eq_or_suffix {f g : List String} {l l' : String} (hl : IsUnbroken l.toList)
    (h : unlines (f ++ [l]) = unlines (g ++ [l'])) :
    l' = l ∨ ∃ s, l'.toList = s ++ '\n' :: l.toList := by
  have heq : (unlines g).toList ++ l'.toList = (unlines f).toList ++ l.toList := by
    have := congrArg String.toList h
    simp only [unlines_append, String.toList_append, toList_unlines [l], toList_unlines [l'],
      List.flatMap_singleton, ← List.append_assoc] at this
    exact (List.append_cancel_right this).symm
  rcases List.append_eq_append_iff.mp heq with ⟨s, hf, hs⟩ | ⟨s, hg, hs⟩
  · rcases eq_nil_or_concat_of_unlines hf with rfl | ⟨s, rfl⟩
    · exact .inl (String.toList_inj.mp (by simpa using hs))
    · exact .inr ⟨s, by simpa using hs⟩
  · rcases eq_nil_or_concat_of_unlines hg with rfl | ⟨s, rfl⟩
    · exact .inl (String.toList_inj.mp (by simpa using hs.symm))
    · -- the break would stand inside `l`
      have hfeed : '\n' ∈ l.toList := by simp [hs]
      exact absurd (hl '\n' hfeed) (by decide)

/-! ### Single lines -/

lemma isUnbroken_append {s t : String} (hs : IsUnbroken s.toList) (ht : IsUnbroken t.toList) :
    IsUnbroken (s ++ t).toList := by
  rw [String.toList_append]
  exact hs.append ht

lemma isUnbroken_paint {p : Palette} {t : Tone} {text : String} (h : IsUnbroken text.toList) :
    IsUnbroken (paint p t text).toList := by
  cases p with
  | plain => exact h
  | colored =>
    have hstart : IsUnbroken (sgr t.start).toList := by cases t <;> decide
    have hstop : IsUnbroken (sgr t.stop).toList := by cases t <;> decide
    exact isUnbroken_append (isUnbroken_append hstart h) hstop

lemma isUnbroken_signedNumeral (n : ℤ) : IsUnbroken (signedNumeral n) := by
  cases n with
  | ofNat n => exact isUnbroken_numeral n
  | negSucc n => exact List.forall_mem_cons.mpr ⟨by decide, isUnbroken_numeral (n + 1)⟩

/-- A line that no error ends in. -/
structure IsClosing (l : String) : Prop where
  unbroken : IsUnbroken l.toList
  dashless : ¬" - ".toList <:+: l.toList
  start : ¬"  [".toList <+: l.toList

lemma isClosing_successLine (p : Palette) : IsClosing (successLine p) := by
  cases p <;> exact ⟨by decide, by decide, by decide⟩

/-- The last line of an unexplained failure. -/
def exitLine (exitCode : Int32) : String := "   exit code: " ++ exitCodeText exitCode

lemma blank_notMem_signedNumeral (n : ℤ) : ' ' ∉ signedNumeral n := by
  have hdigits (n : ℕ) : ' ' ∉ numeral n := fun h =>
    absurd (isDigit_of_mem_numeral h) (by decide)
  cases n with
  | ofNat n => exact hdigits n
  | negSucc n =>
    rw [signedNumeral, List.mem_cons, not_or]
    exact ⟨by decide, hdigits (n + 1)⟩

lemma isClosing_exitLine (exitCode : Int32) : IsClosing (exitLine exitCode) := by
  have hl : (exitLine exitCode).toList =
      "   exit code: ".toList ++ signedNumeral exitCode.toInt := by
    simp [exitLine, exitCodeText]
  have hlabel : IsUnbroken "   exit code: ".toList := by decide
  refine ⟨?_, ?_, ?_⟩ <;> rw [hl]
  · exact hlabel.append (isUnbroken_signedNumeral _)
  · -- a minus sign only stands in front of digits
    rintro ⟨s, t, h⟩
    have hblank := blank_notMem_signedNumeral exitCode.toInt
    have h' : (s ++ [' ']) ++ '-' :: ' ' :: t =
        "   exit code: ".toList ++ signedNumeral exitCode.toInt := by
      rw [← h]; simp
    rcases List.append_eq_append_iff.mp h' with ⟨u, hu, hn⟩ | ⟨u, -, hn⟩
    · rcases u with _ | ⟨c, u⟩
      · exact hblank (by rw [← List.nil_append (signedNumeral _), ← hn]; simp)
      · have hc : '-' = c := (List.cons.inj hn).1
        have hmem : '-' ∈ "   exit code: ".toList := by rw [hu, ← hc]; simp
        exact absurd hmem (by decide)
    · exact hblank (by rw [hn]; simp)
  · rintro ⟨t, h⟩
    simp at h

/-! ### Errors at the end -/

section Errors

variable {p : Palette} {ms : Messages} {source : Option String} {e : Message} {l : String}

variable (p source e) in
lemma exists_head_formatError :
    ∃ head, (formatError p e source).toList = "  [".toList ++ head ++ e.text.toList ∧
      (IsUnbroken head ∨ ∃ location, head = location ++ " - ".toList) := by
  have hsev : IsUnbroken (paint p .error (paint p .emphasis Category.error.name)).toList :=
    isUnbroken_paint (isUnbroken_paint (by decide))
  rw [formatError]
  split
  · next location _ =>
    refine ⟨(paint p .error (paint p .emphasis Category.error.name)).toList ++ "] ".toList ++
      (paint p .code location).toList ++ " - ".toList, by simp, .inr ⟨_, rfl⟩⟩
  · refine ⟨(paint p .error (paint p .emphasis Category.error.name)).toList ++ "] ".toList,
      by simp, .inl (hsev.append (by decide))⟩

lemma dash_ne_closing (hl : IsClosing l) {t : List Char} (ht : IsUnbroken t) (a s : List Char) :
    a ++ (" - ".toList ++ t) ≠ s ++ '\n' :: l.toList := by
  intro h
  have hfeed : '\n' ∉ " - ".toList ++ t := fun hn =>
    absurd ((IsUnbroken.append (by decide) ht) '\n' hn) (by decide)
  have hdash : " - ".toList ++ t <:+ s ++ '\n' :: l.toList := by
    rw [← h]; exact List.suffix_append _ _
  have hclosing : '\n' :: l.toList <:+ s ++ '\n' :: l.toList := List.suffix_append _ _
  rcases List.suffix_or_suffix_of_suffix hdash hclosing with h | h
  · rcases List.suffix_cons_iff.mp h with h | h
    · exact hfeed (by rw [h]; simp)
    · exact hl.dashless ((List.prefix_append _ _).isInfix.trans h.isInfix)
  · exact hfeed (h.subset List.mem_cons_self)

/-- **No error looks like a last word**, not even behind a break in its location. -/
theorem closing_ne_error (hl : IsClosing l) (he : IsUnbroken e.text.toList)
    (f g : List String) : unlines (f ++ [l]) ≠ unlines (g ++ [formatError p e source]) := by
  intro h
  obtain ⟨head, hform, hhead⟩ := exists_head_formatError p source e
  rcases last_eq_or_suffix hl.unbroken h with heq | ⟨s, hs⟩
  · refine hl.start ?_
    rw [← heq, hform, List.append_assoc]
    exact List.prefix_append _ _
  · rw [hform] at hs
    rcases hhead with hhead | ⟨location, rfl⟩
    · have hunbroken : IsUnbroken ("  [".toList ++ head ++ e.text.toList) :=
        (IsUnbroken.append (by decide) hhead).append he
      exact absurd (hunbroken '\n' (by rw [hs]; simp)) (by decide)
    · refine dash_ne_closing hl he ("  [".toList ++ location) s ?_
      simpa using hs

/-- What sets the errors off from chatter. -/
def gap (ms : Messages) : List String := if ms.informational.isEmpty then [] else [""]

def errorTitle (ms : Messages) : String :=
  "JFlex reported " ++ countText ms.errors.length ++ " error(s)"

lemma errorLines_eq (h : ms.errors ≠ []) :
    errorLines p ms source =
      gap ms ++ headerLines p (errorTitle ms) ++ ms.errors.map fun e => formatError p e source := by
  have hhas : ms.hasErrors := by simp [Messages.hasErrors, h]
  rw [errorLines, if_pos hhas]
  rfl

variable (p source) in
lemma exists_last_errorLines (h : ms.errors ≠ []) :
    ∃ front, ∃ e ∈ ms.errors, errorLines p ms source = front ++ [formatError p e source] := by
  obtain ⟨es, e, hes⟩ := (List.eq_nil_or_concat ms.errors).resolve_left h
  refine ⟨gap ms ++ headerLines p (errorTitle ms) ++ es.map fun e => formatError p e source, e,
    by simp [hes], ?_⟩
  rw [errorLines_eq h, hes]
  simp

lemma closing_ne_errorLines (hl : IsClosing l) (hms : ms.WellShaped) (he : ms.errors ≠ [])
    (f g : List String) : unlines (f ++ [l]) ≠ unlines (g ++ errorLines p ms source) := by
  obtain ⟨front, e, hmem, hlast⟩ := exists_last_errorLines p source he
  rw [hlast, ← List.append_assoc]
  exact closing_ne_error hl (hms.errors e hmem).1 f (g ++ front)

end Errors

end JFlexReport.Report

namespace JFlexReport

/-- The ending of an evaluated run. -/
def Ending.ofResult : Except UnexplainedFailure Outcome → Ending
  | .ok o => o.ending
  | .error _ => .unexplainedFailure

/-- The failure of an evaluated run, if it is one. -/
def UnexplainedFailure.ofResult? : Except UnexplainedFailure Outcome → Option UnexplainedFailure
  | .ok _ => none
  | .error f => some f

namespace Report

/-- The text report of a run with these messages. -/
def ofRun (p : Palette) (exitCode : Int32) (command : String) (source : Option String)
    (ms : Messages) : String :=
  let result := (evaluate exitCode ms command).value
  plainText p (.ofResult result) ms source (UnexplainedFailure.ofResult? result)

/-- What a report ends in where there are no errors. -/
def lastWord (p : Palette) (exitCode : Int32) (command : String) : List String :=
  if exitCode = 0 then [successLine p] else failureLines p (some { command, exitCode })

section OfRun

variable (p : Palette) (exitCode : Int32) (command : String) (source : Option String)
variable (ms : Messages)

/-- **A report is chatter**, and behind it errors or else a last word. -/
theorem ofRun_eq :
    ofRun p exitCode command source ms = unlines (ms.informational.map Message.text ++
      if ms.errors = [] then lastWord p exitCode command else errorLines p ms source) := by
  have hno (h : ms.errors = []) : errorLines p ms source = [] := by
    simp [errorLines, Messages.hasErrors, h]
  rw [ofRun, plainText, reportLines]
  by_cases h0 : exitCode = 0
  · rw [evaluate_zero h0]
    by_cases he : ms.errors = []
    · simp [Ending.ofResult, Outcome.ending, endingLines, lastWord, Messages.hasErrors, hno he, he,
        h0]
    · simp [Ending.ofResult, Outcome.ending, endingLines, Messages.hasErrors, he]
  · by_cases he : ms.errors = []
    · rw [evaluate_unexplained h0 he]
      simp [Ending.ofResult, UnexplainedFailure.ofResult?, endingLines, lastWord, hno he, he, h0]
    · rw [evaluate_errors h0 he]
      simp [Ending.ofResult, Outcome.ending, endingLines, he]

lemma failureLines_eq :
    failureLines p (some { command, exitCode }) =
      [paint p .error Symbol.error ++ " JFlex failed without reporting an error",
        "   command: " ++ paint p .code command] ++ [exitLine exitCode] := rfl

lemma exists_last_lastWord :
    ∃ front l, lastWord p exitCode command = front ++ [l] ∧ IsClosing l := by
  by_cases h0 : exitCode = 0
  · exact ⟨[], successLine p, by rw [lastWord, if_pos h0]; rfl, isClosing_successLine p⟩
  · exact ⟨_, exitLine exitCode, by rw [lastWord, if_neg h0, failureLines_eq],
      isClosing_exitLine exitCode⟩

lemma successLine_ne_exitLine (f g : List String) :
    unlines (f ++ [successLine p]) ≠ unlines (g ++ [exitLine exitCode]) := by
  intro h
  have hexit := (isClosing_exitLine exitCode).unbroken
  rcases last_eq_or_suffix (isClosing_successLine p).unbroken h with heq | ⟨s, hs⟩
  · have hhead : (exitLine exitCode).toList.head? = some ' ' := by simp [exitLine]
    rw [heq] at hhead
    cases p <;> exact absurd hhead (by decide)
  · exact absurd (hexit '\n' (by rw [hs]; simp)) (by decide)

variable {ms} in
/-- **A report ends in the success line** exactly for a clean run. -/
theorem endsInLines_successLine_iff (hms : ms.WellShaped) :
    EndsInLines (ofRun p exitCode command source ms) [successLine p] ↔
      exitCode = 0 ∧ ms.errors = [] := by
  rw [ofRun_eq]
  by_cases he : ms.errors = []
  · rw [if_pos he, lastWord]
    by_cases h0 : exitCode = 0
    · rw [if_pos h0]
      exact iff_of_true ⟨_, rfl⟩ ⟨h0, he⟩
    · rw [if_neg h0, failureLines_eq, ← List.append_assoc]
      exact iff_of_false (fun ⟨front, h⟩ => successLine_ne_exitLine p exitCode _ _ h.symm)
        fun h => h0 h.1
  · rw [if_neg he]
    exact iff_of_false
      (fun ⟨front, h⟩ => closing_ne_errorLines (isClosing_successLine p) hms he _ _ h.symm)
      fun h => he h.2

variable {ms} in
/-- **A report ends in the failure lines** exactly for an unexplained failure. -/
theorem endsInLines_failureLines_iff (hms : ms.WellShaped) :
    EndsInLines (ofRun p exitCode command source ms)
        (failureLines p (some { command, exitCode })) ↔ exitCode ≠ 0 ∧ ms.errors = [] := by
  rw [ofRun_eq]
  by_cases he : ms.errors = []
  · rw [if_pos he, lastWord]
    by_cases h0 : exitCode = 0
    · rw [if_pos h0, failureLines_eq]
      refine iff_of_false (fun ⟨front, h⟩ => ?_) fun h => h.1 h0
      rw [← List.append_assoc] at h
      exact successLine_ne_exitLine p exitCode _ _ h
    · rw [if_neg h0]
      exact iff_of_true ⟨_, rfl⟩ ⟨h0, he⟩
  · rw [if_neg he, failureLines_eq]
    refine iff_of_false (fun ⟨front, h⟩ => ?_) fun h => he h.2
    rw [← List.append_assoc] at h
    exact closing_ne_errorLines (isClosing_exitLine exitCode) hms he _ _ h.symm

end OfRun

end Report

end JFlexReport
