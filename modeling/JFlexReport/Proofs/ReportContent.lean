import JFlexReport.Proofs.Numerals
import JFlexReport.Proofs.ReportLines

/-!
What a plain text report tells about its run.

Everything: two runs with the same exit code, command and source that report alike have the
same messages. The errors are found from the end of the report, where each takes one line and
no such line is a rule; the last rule stands in front of them, whatever chatter imitates. In
a line the source is known, so the position behind it and the text can be told apart.
-/

namespace JFlexReport.Report

open Text

/-! ### One error -/

/-- A line or a column behind its colon. -/
def coordinate : Option UInt32 → List Char
  | some n => ':' :: numeral n.toNat
  | none => []

lemma isUnbroken_coordinate (c : Option UInt32) : IsUnbroken (coordinate c) := by
  cases c with
  | none => exact List.forall_mem_nil _
  | some n => exact List.forall_mem_cons.mpr ⟨by decide, isUnbroken_numeral n.toNat⟩

lemma isDigit_head_coordinate (c : Option UInt32) (s : List Char) :
    ∀ x ∈ (coordinate c ++ ' ' :: s).head?, x.isDigit = false := by
  cases c <;> simp [coordinate]

lemma coordinate_append_inj {c c' : Option UInt32} {s s' : List Char}
    (h : coordinate c ++ ' ' :: s = coordinate c' ++ ' ' :: s') : c = c' ∧ s = s' := by
  rcases c with _ | n <;> rcases c' with _ | n'
  · exact ⟨rfl, (List.cons.inj h).2⟩
  · simp [coordinate] at h
  · simp [coordinate] at h
  · obtain ⟨hn, hs⟩ :=
      numeral_append_inj (by simp) (by simp) (List.cons.inj h).2
    exact ⟨congrArg some (UInt32.toNat_inj.mp hn), (List.cons.inj hs).2⟩

lemma coordinates_append_inj {l l' c c' : Option UInt32} {s s' : List Char}
    (hc : l = none → c = none) (hc' : l' = none → c' = none)
    (h : coordinate l ++ (coordinate c ++ ' ' :: s) =
      coordinate l' ++ (coordinate c' ++ ' ' :: s')) : l = l' ∧ c = c' ∧ s = s' := by
  rcases l with _ | n <;> rcases l' with _ | n'
  · exact ⟨rfl, coordinate_append_inj h⟩
  · rw [hc rfl] at h
    simp [coordinate] at h
  · rw [hc' rfl] at h
    simp [coordinate] at h
  · obtain ⟨hn, hrest⟩ := numeral_append_inj (isDigit_head_coordinate c s)
      (isDigit_head_coordinate c' s') (List.cons.inj h).2
    exact ⟨congrArg some (UInt32.toNat_inj.mp hn), coordinate_append_inj hrest⟩

section FormatError

variable {e e' : Message} {source : String}

lemma toList_formatError (he : e.line = none → e.column = none) :
    (formatError .plain e (some source)).toList =
      "  [Error] ".toList ++ source.toList ++
        (coordinate e.line ++ (coordinate e.column ++ ' ' :: '-' :: ' ' :: e.text.toList)) := by
  rcases hl : e.line with _ | n
  · rw [he hl]
    simp [formatError, Message.location?, Message.position?, hl, paint, coordinate, Category.name]
  · rcases hc : e.column with _ | k <;>
      simp [formatError, Message.location?, Message.position?, hl, hc, paint, coordinate,
        Category.name]

/-- **A line tells its error** when the source is known. -/
theorem formatError_inj (he : e.line = none → e.column = none)
    (he' : e'.line = none → e'.column = none)
    (h : formatError .plain e (some source) = formatError .plain e' (some source)) : e = e' := by
  have h := congrArg String.toList h
  rw [toList_formatError he, toList_formatError he'] at h
  obtain ⟨hline, hcolumn, htext⟩ := coordinates_append_inj he he' (List.append_cancel_left h)
  have htext : e.text = e'.text := String.toList_inj.mp (by simpa using htext)
  rcases e with ⟨_, _, _⟩
  rcases e' with ⟨_, _, _⟩
  simp_all

lemma isUnbroken_formatError (hs : IsUnbroken source.toList) (ht : IsUnbroken e.text.toList)
    (he : e.line = none → e.column = none) :
    IsUnbroken (formatError .plain e (some source)).toList := by
  have hdash : IsUnbroken (' ' :: '-' :: ' ' :: e.text.toList) :=
    IsUnbroken.append (l := [' ', '-', ' ']) (by decide) ht
  rw [toList_formatError he]
  exact (IsUnbroken.append (by decide) hs).append
    ((isUnbroken_coordinate _).append ((isUnbroken_coordinate _).append hdash))

lemma toList_separator : (separator .plain).toList = List.replicate 80 '─' := String.toList_ofList

lemma separator_ne_formatError (he : e.line = none → e.column = none) :
    separator .plain ≠ formatError .plain e (some source) := by
  intro h
  have hrule : (separator .plain).toList.head? = some '─' := by
    rw [toList_separator, List.head?_replicate, if_neg (by decide)]
  have herror : (formatError .plain e (some source)).toList.head? = some ' ' := by
    rw [toList_formatError he]
    rfl
  rw [h, herror] at hrule
  exact absurd hrule (by decide)

end FormatError

/-! ### The errors of a report -/

/-- The last place of a value fixes both sides. -/
lemma append_cons_inj_of_notMem_right {α : Type} {x : α} {a a' b b' : List α} (hb : x ∉ b)
    (hb' : x ∉ b') (h : a ++ x :: b = a' ++ x :: b') : a = a' ∧ b = b' := by
  rcases List.append_eq_append_iff.mp h with ⟨u, rfl, hu⟩ | ⟨u, rfl, hu⟩
  · rcases u with _ | ⟨y, u⟩
    · exact ⟨by simp, (List.cons.inj hu).2⟩
    · exact absurd (by rw [(List.cons.inj hu).2]; simp) hb
  · rcases u with _ | ⟨y, u⟩
    · exact ⟨by simp, (List.cons.inj hu).2.symm⟩
    · exact absurd (by rw [(List.cons.inj hu).2]; simp) hb'

lemma map_inj_of_mem {α β : Type} {f : α → β} {l l' : List α}
    (hf : ∀ a ∈ l, ∀ b ∈ l', f a = f b → a = b) (h : l.map f = l'.map f) : l = l' := by
  induction l generalizing l' with
  | nil => exact (List.map_eq_nil_iff.mp h.symm).symm
  | cons a l ih =>
    rcases l' with _ | ⟨b, l'⟩
    · cases h
    · obtain ⟨hab, hl⟩ := List.cons.inj h
      rw [hf a List.mem_cons_self b List.mem_cons_self hab,
        ih (fun x hx y hy => hf x (List.mem_cons_of_mem a hx) y (List.mem_cons_of_mem b hy)) hl]

section Content

variable {ms ms' : Messages} {source : String} {exitCode : Int32} {command : String}

lemma eq_of_texts_of_errors (hms : ms.WellShaped) (hms' : ms'.WellShaped)
    (htexts : ms.informational.map Message.text = ms'.informational.map Message.text)
    (herrors : ms.errors = ms'.errors) : ms = ms' := by
  have hinf : ms.informational = ms'.informational := by
    refine map_inj_of_mem (fun m hm m' hm' htext => ?_) htexts
    obtain ⟨-, hline, hcolumn⟩ := hms.informational m hm
    obtain ⟨-, hline', hcolumn'⟩ := hms'.informational m' hm'
    rcases m with ⟨_, _, _⟩
    rcases m' with ⟨_, _, _⟩
    simp_all
  rcases ms with ⟨_, _⟩
  rcases ms' with ⟨_, _⟩
  simp_all

lemma isUnbroken_of_mem_texts (hms : ms.WellShaped) :
    ∀ l ∈ ms.informational.map Message.text, IsUnbroken l.toList :=
  List.forall_mem_map.mpr fun m hm => (hms.informational m hm).1.2

/-- The first two lines of a header. -/
def headerFront (title : String) : List String :=
  [separator .plain, paint .plain .emphasis (" " ++ title ++ " ")]

lemma reportLines_of_errors (he : ms.errors ≠ []) :
    ms.informational.map Message.text ++ errorLines .plain ms (some source) =
      ms.informational.map Message.text ++ gap ms ++ headerFront (errorTitle ms) ++
        separator .plain :: ms.errors.map fun e => formatError .plain e (some source) := by
  rw [errorLines_eq he, headerLines, headerFront]
  simp only [List.append_assoc, List.cons_append, List.nil_append]

/-- The empty line behind chatter stands there exactly when there is chatter. -/
lemma texts_inj_of_gap
    (h : ms.informational.map Message.text ++ gap ms =
      ms'.informational.map Message.text ++ gap ms') :
    ms.informational.map Message.text = ms'.informational.map Message.text := by
  rcases hi : ms.informational with _ | ⟨m, is⟩ <;>
    rcases hi' : ms'.informational with _ | ⟨m', is'⟩
  · rfl
  · simp [gap, hi, hi'] at h
  · simp [gap, hi, hi'] at h
  · rw [gap, gap, hi, hi'] at h
    exact (List.append_inj' h rfl).1

lemma isUnbroken_separator : IsUnbroken (separator .plain).toList := by
  rw [toList_separator]
  intro c hc
  rw [List.eq_of_mem_replicate hc]
  decide

lemma isUnbroken_errorTitle : IsUnbroken (errorTitle ms).toList := by
  have hcount : IsUnbroken (countText ms.errors.length).toList := by
    rw [countText, String.toList_ofList]
    exact isUnbroken_numeral _
  exact isUnbroken_append (isUnbroken_append (by decide) hcount) (by decide)

lemma isUnbroken_of_mem_headerFront {l : String} (hl : l ∈ headerFront (errorTitle ms)) :
    IsUnbroken l.toList := by
  rcases List.mem_pair.mp hl with rfl | rfl
  · exact isUnbroken_separator
  · exact isUnbroken_paint
      (isUnbroken_append (isUnbroken_append (by decide) isUnbroken_errorTitle) (by decide))

lemma isUnbroken_of_mem_gap {l : String} (hl : l ∈ gap ms) : IsUnbroken l.toList := by
  rw [gap] at hl
  split at hl
  · cases hl
  · rw [List.mem_singleton.mp hl]
    decide

lemma isUnbroken_of_mem_reportLines (hs : IsUnbroken source.toList) (hms : ms.WellShaped) :
    ∀ l ∈ ms.informational.map Message.text ++ gap ms ++ headerFront (errorTitle ms) ++
        separator .plain :: ms.errors.map fun e => formatError .plain e (some source),
      IsUnbroken l.toList := by
  simp only [List.forall_mem_append, List.forall_mem_cons, List.forall_mem_map]
  exact ⟨⟨⟨fun m hm => (hms.informational m hm).1.2, fun _ => isUnbroken_of_mem_gap⟩,
      fun _ => isUnbroken_of_mem_headerFront⟩, isUnbroken_separator,
    fun e he => isUnbroken_formatError hs (hms.errors e he).1 (hms.errors e he).2⟩

lemma separator_notMem (hms : ms.WellShaped) :
    separator .plain ∉ ms.errors.map fun e => formatError .plain e (some source) := by
  intro hmem
  obtain ⟨e, he, h⟩ := List.mem_map.mp hmem
  exact separator_ne_formatError (hms.errors e he).2 h.symm

/-- **A report that ends in errors tells its messages.** -/
theorem eq_of_unlines_errorLines (hs : IsUnbroken source.toList) (hms : ms.WellShaped)
    (hms' : ms'.WellShaped) (he : ms.errors ≠ []) (he' : ms'.errors ≠ [])
    (h : unlines (ms.informational.map Message.text ++ errorLines .plain ms (some source)) =
      unlines (ms'.informational.map Message.text ++ errorLines .plain ms' (some source))) :
    ms = ms' := by
  rw [reportLines_of_errors he, reportLines_of_errors he'] at h
  have hlines :=
    unlines_inj (isUnbroken_of_mem_reportLines hs hms) (isUnbroken_of_mem_reportLines hs hms') h
  obtain ⟨hfront, herrors⟩ :=
    append_cons_inj_of_notMem_right (separator_notMem hms) (separator_notMem hms') hlines
  have htexts := texts_inj_of_gap (List.append_inj' hfront rfl).1
  exact eq_of_texts_of_errors hms hms' htexts (map_inj_of_mem
    (fun e he e' he' => formatError_inj (hms.errors e he).2 (hms'.errors e' he').2) herrors)

/-- **A report that ends in a last word tells its messages.** -/
lemma eq_of_unlines_lastWord (hms : ms.WellShaped) (hms' : ms'.WellShaped) (he : ms.errors = [])
    (he' : ms'.errors = [])
    (h : unlines (ms.informational.map Message.text ++ lastWord .plain exitCode command) =
      unlines (ms'.informational.map Message.text ++ lastWord .plain exitCode command)) :
    ms = ms' := by
  rw [unlines_append, unlines_append] at h
  have htexts := unlines_inj (isUnbroken_of_mem_texts hms) (isUnbroken_of_mem_texts hms')
    (String.append_left_inj _ |>.mp h)
  exact eq_of_texts_of_errors hms hms' htexts (he.trans he'.symm)

/-- **A report tells its messages**, when they are those of a text. -/
theorem ofRun_inj (hs : IsUnbroken source.toList) (hms : ms.WellShaped) (hms' : ms'.WellShaped)
    (h : ofRun .plain exitCode command (some source) ms =
      ofRun .plain exitCode command (some source) ms') : ms = ms' := by
  rw [ofRun_eq, ofRun_eq] at h
  obtain ⟨front, l, hlast, hl⟩ := exists_last_lastWord .plain exitCode command
  by_cases he : ms.errors = [] <;> by_cases he' : ms'.errors = []
  · rw [if_pos he, if_pos he'] at h
    exact eq_of_unlines_lastWord hms hms' he he' h
  · rw [if_pos he, if_neg he', hlast, ← List.append_assoc] at h
    exact absurd h (closing_ne_errorLines hl hms' he' _ _)
  · rw [if_neg he, if_pos he', hlast, ← List.append_assoc] at h
    exact absurd h.symm (closing_ne_errorLines hl hms he _ _)
  · rw [if_neg he, if_neg he'] at h
    exact eq_of_unlines_errorLines hs hms hms' he he' h

end Content

/-- **The text report loses nothing**: runs that report alike were read alike. -/
theorem parseStreams_eq_of_report {exitCode : Int32} {command source : String}
    (hs : IsUnbroken source.toList) {stdout stderr stdout' stderr' : String}
    (h : ofRun .plain exitCode command (some source) (Console.parseStreams stdout stderr).value =
      ofRun .plain exitCode command (some source) (Console.parseStreams stdout' stderr').value) :
    (Console.parseStreams stdout stderr).value = (Console.parseStreams stdout' stderr').value :=
  ofRun_inj hs (Console.wellShaped_parseStreams stdout stderr)
    (Console.wellShaped_parseStreams stdout' stderr') h

/-- An error whose text imitates another error, and chatter that imitates the last word. -/
theorem parseStreams_eq_of_report_imitations :
    let stdout := "✓ JFlex finished successfully\nReading skeleton file \"s\"\n"
    let stderr := "Error in file \"a\" (line 7):\n  [Error] a.flex:7 - m\nc\n ^\n"
    let joined := "Error in file \"b\" (line 7):\r  [Error] a.flex:7 - m\rc\r ^\r" ++
      "✓ JFlex finished successfully"
    ofRun .plain 0 "jflex" (some "a.flex") (Console.parseStreams stdout stderr).value =
        ofRun .plain 0 "jflex" (some "a.flex") (Console.parseStreams joined "").value ∧
      (Console.parseStreams stdout stderr).value = (Console.parseStreams joined "").value := by
  intro stdout stderr joined
  have hread : (Console.parseStreams stdout stderr).value =
      (Console.parseStreams joined "").value := by
    rw [Console.value_parseStreams, Console.value_parseStreams,
      Console.parse_of_visible ⟨'J', by decide, by decide⟩,
      Console.parse_of_visible ⟨'E', by decide, by decide⟩,
      Console.parse_of_visible ⟨'E', by decide, by decide⟩, Console.parse_empty]
    simp only [← Console.messagesOf_eq_collect]
    decide +kernel
  have hsame : ofRun .plain 0 "jflex" (some "a.flex") (Console.parseStreams stdout stderr).value =
      ofRun .plain 0 "jflex" (some "a.flex") (Console.parseStreams joined "").value := by
    rw [hread]
  exact ⟨hsame, parseStreams_eq_of_report (by decide) hsame⟩

end JFlexReport.Report
