import JFlexReport.Proofs.Rendition
import JFlexReport.Proofs.ReportLines

/-!
Colors decorate a report and say nothing.

A text that is written on either palette is decorated when its colored form is the plain one
with sequences in between, of which the last takes everything back. Painted spans are
decorated, also one in another, and so is what is put together from decorated texts. So a
report reads the same without its sequences, and between its decorated spans, where messages
stand, a terminal is in its default rendition.
-/

namespace JFlexReport

open Text

namespace Terminal

/-- The colored form is the plain one and sequences that leave nothing behind. -/
structure Decorated (f : Palette → String) : Prop where
  closed : Closed (f .colored)
  stripped : stripped (f .colored) = f .plain
  rendition : rendition (f .colored) = {}

section Decorated

variable {f g : Palette → String} {a : String}

lemma decorated_of_isPlain (h : IsPlain a) : Decorated fun _ => a where
  closed := closed_of_isPlain h
  stripped := stripped_plain h
  rendition := rendition_plain h

lemma Decorated.append (hf : Decorated f) (hg : Decorated g) : Decorated fun p => f p ++ g p where
  closed := hf.closed.append hg.closed
  stripped := by rw [stripped_append hf.closed, hf.stripped, hg.stripped]
  rendition := by rw [rendition_append hf.closed hf.rendition, hg.rendition]

lemma tokens_sgr {parameter : String} (hne : parameter.toList ≠ [])
    (hds : ∀ d ∈ parameter.toList, d.isDigit = true) (s : List Char) :
    tokens ((sgr parameter).toList ++ s) = .select (digitsValue parameter.toList) :: tokens s := by
  have hform : (sgr parameter).toList ++ s =
      '\x1b' :: '[' :: (parameter.toList ++ 'm' :: s) := by
    simp [sgr]
  rw [hform, tokens_sequence hne hds]

lemma digits_tone (t : Tone) :
    (t.start.toList ≠ [] ∧ t.start.toList.all Char.isDigit) ∧
      t.stop.toList ≠ [] ∧ t.stop.toList.all Char.isDigit := by
  cases t <;> decide

lemma tokens_paint (t : Tone) (ha : Closed a) (s : List Char) :
    tokens ((paint .colored t a).toList ++ s) =
      .select (digitsValue t.start.toList) :: (tokens a.toList ++
        .select (digitsValue t.stop.toList) :: tokens s) := by
  have hform : (paint .colored t a).toList ++ s =
      (sgr t.start).toList ++ (a.toList ++ ((sgr t.stop).toList ++ s)) := by
    simp [paint]
  obtain ⟨hstart, hstop⟩ := digits_tone t
  rw [hform, tokens_sgr hstart.1 (List.all_eq_true.mp hstart.2), ha,
    tokens_sgr hstop.1 (List.all_eq_true.mp hstop.2)]

lemma tokens_paint_alone (t : Tone) (ha : Closed a) :
    tokens (paint .colored t a).toList =
      .select (digitsValue t.start.toList) :: (tokens a.toList ++
        [.select (digitsValue t.stop.toList)]) := by
  have h := tokens_paint t ha []
  rwa [List.append_nil, tokens_nil] at h

lemma closed_paint (t : Tone) (ha : Closed a) : Closed (paint .colored t a) := fun s => by
  rw [tokens_paint t ha, tokens_paint_alone t ha, List.cons_append, List.append_assoc,
    List.singleton_append]

lemma stripped_paint (t : Tone) (ha : Closed a) : stripped (paint .colored t a) = stripped a := by
  rw [stripped, tokens_paint_alone t ha, List.filterMap_cons_none rfl, List.filterMap_append,
    List.filterMap_cons_none rfl, List.filterMap_nil, List.append_nil, stripped]

lemma last_paint (t : Tone) (ha : Closed a) (r : Rendition) :
    last r (tokens (paint .colored t a).toList) =
      (last (r.select (digitsValue t.start.toList)) (tokens a.toList)).select
        (digitsValue t.stop.toList) := by
  rw [tokens_paint_alone t ha, last, last_append]
  rfl

/-- **A painted text is decorated.** -/
theorem decorated_paint (t : Tone) (h : IsPlain a) : Decorated fun p => paint p t a where
  closed := closed_paint t (closed_of_isPlain h)
  stripped := by rw [stripped_paint t (closed_of_isPlain h), stripped_plain h, paint]
  rendition := by
    rw [rendition, last_paint t (closed_of_isPlain h), tokens_plain h, last_chars]
    cases t <;> decide

/-- **So is a text in two tones**, although the inner one takes more back than it selected. -/
theorem decorated_severity :
    Decorated fun p => paint p .error (paint p .emphasis Category.error.name) := by
  have hname : IsPlain Category.error.name := by decide
  have hinner := closed_paint .emphasis (closed_of_isPlain hname)
  refine ⟨closed_paint .error hinner, ?_, ?_⟩
  · rw [stripped_paint .error hinner, stripped_paint .emphasis (closed_of_isPlain hname),
      stripped_plain hname]
    rfl
  · rw [rendition, last_paint .error hinner, last_paint .emphasis (closed_of_isPlain hname),
      tokens_plain hname, last_chars]
    decide

/-! ### Lines -/

variable {ls ls' : Palette → List String}

lemma decorated_unlines_append (h : Decorated fun p => Report.unlines (ls p))
    (h' : Decorated fun p => Report.unlines (ls' p)) :
    Decorated fun p => Report.unlines (ls p ++ ls' p) := by
  have heq : (fun p => Report.unlines (ls p ++ ls' p)) =
      fun p => Report.unlines (ls p) ++ Report.unlines (ls' p) :=
    funext fun p => Report.unlines_append (ls p) (ls' p)
  rw [heq]
  exact h.append h'

lemma decorated_unlines_nil : Decorated fun _ => Report.unlines [] :=
  decorated_of_isPlain (by decide)

lemma decorated_unlines_cons (h : Decorated f) (h' : Decorated fun p => Report.unlines (ls p)) :
    Decorated fun p => Report.unlines (f p :: ls p) :=
  (h.append (decorated_of_isPlain (by decide))).append h'

lemma decorated_unlines_map {α : Type} {xs : List α} (line : Palette → α → String)
    (h : ∀ x ∈ xs, Decorated fun p => line p x) :
    Decorated fun p => Report.unlines (xs.map (line p)) := by
  induction xs with
  | nil => exact decorated_unlines_nil
  | cons x xs ih =>
    exact decorated_unlines_cons (h x List.mem_cons_self)
      (ih fun y hy => h y (List.mem_cons_of_mem x hy))

end Decorated

end Terminal

namespace Report

open Terminal

/-! ### Reports -/

lemma isPlain_numeral (n : ℕ) : '\x1b' ∉ numeral n := fun h =>
  absurd (isDigit_of_mem_numeral h) (by decide)

lemma isPlain_countText (n : ℕ) : IsPlain (countText n) := by
  rw [IsPlain, countText, String.toList_ofList]
  exact isPlain_numeral n

lemma isPlain_exitCodeText (n : Int32) : IsPlain (exitCodeText n) := by
  rw [IsPlain, exitCodeText, String.toList_ofList]
  cases n.toInt with
  | ofNat k => exact isPlain_numeral k
  | negSucc k =>
    rw [signedNumeral, List.mem_cons, not_or]
    exact ⟨by decide, isPlain_numeral (k + 1)⟩

lemma isPlain_separator : IsPlain (String.ofList (List.replicate 80 '─')) := by
  rw [IsPlain, String.toList_ofList, List.mem_replicate]
  decide

section Parts

variable {m : Message} {source : Option String} {title : String}

lemma isPlain_position {position : String} (h : m.position? = some position) :
    IsPlain position := by
  obtain ⟨line, -, rfl⟩ := Option.map_eq_some_iff.mp h
  rw [IsPlain, String.toList_ofList, List.mem_append, not_or]
  refine ⟨isPlain_numeral _, ?_⟩
  cases m.column with
  | none => exact List.not_mem_nil
  | some column =>
    rw [List.mem_cons, not_or]
    exact ⟨by decide, isPlain_numeral _⟩

lemma isPlain_location (hs : ∀ s ∈ source, IsPlain s) {location : String}
    (h : m.location? source = some location) : IsPlain location := by
  rw [Message.location?.eq_def] at h
  split at h
  · next s position hp =>
    obtain rfl := Option.some.inj h
    exact ((hs s rfl).append (by decide)).append (isPlain_position hp)
  · next s hp =>
    obtain rfl := Option.some.inj h
    exact hs s rfl
  · exact isPlain_position h

/-- The line of an error up to its text. -/
def errorHead (p : Palette) (m : Message) (source : Option String) : String :=
  formatError p { m with text := "" } source

lemma formatError_eq (p : Palette) (m : Message) (source : Option String) :
    formatError p m source = errorHead p m source ++ m.text := by
  have hlocation : ({ m with text := "" } : Message).location? source = m.location? source := rfl
  rw [errorHead, formatError, formatError, hlocation]
  cases m.location? source <;> simp [String.append_assoc]

/-- **An error is decorated** up to its text. -/
theorem decorated_errorHead (hs : ∀ s ∈ source, IsPlain s) :
    Decorated fun p => errorHead p m source := by
  have hlocation : ({ m with text := "" } : Message).location? source = m.location? source := rfl
  have hopen : Decorated fun p =>
      "  [" ++ paint p .error (paint p .emphasis Category.error.name) ++ "] " :=
    ((decorated_of_isPlain (by decide)).append decorated_severity).append
      (decorated_of_isPlain (by decide))
  have hdash : Decorated fun _ => " - " := decorated_of_isPlain (by decide)
  have hempty : Decorated fun _ => "" := decorated_of_isPlain (by decide)
  unfold errorHead formatError
  rw [hlocation]
  cases hl : m.location? source with
  | none => exact hopen.append hempty
  | some location =>
    have hpaint := decorated_paint .code (isPlain_location hs hl)
    exact ((hopen.append hpaint).append hdash).append hempty

lemma decorated_formatError (hm : IsPlain m.text) (hs : ∀ s ∈ source, IsPlain s) :
    Decorated fun p => formatError p m source := by
  simp only [formatError_eq]
  exact (decorated_errorHead hs).append (decorated_of_isPlain hm)

lemma decorated_header (h : IsPlain title) : Decorated fun p => header p title := by
  have hrule : Decorated separator := decorated_paint .info isPlain_separator
  have hbreak : Decorated fun _ => "\n" := decorated_of_isPlain (by decide)
  have htitle : Decorated fun p => paint p .emphasis (" " ++ title ++ " ") :=
    decorated_paint .emphasis ((IsPlain.append (by decide) h).append (by decide))
  exact (((hrule.append hbreak).append htitle).append hbreak).append hrule

lemma unlines_headerLines (p : Palette) (title : String) :
    unlines (headerLines p title) = header p title ++ "\n" := by
  simp [unlines, headerLines, header, String.append_assoc]

lemma decorated_headerLines (h : IsPlain title) :
    Decorated fun p => unlines (headerLines p title) := by
  simp only [unlines_headerLines]
  exact (decorated_header h).append (decorated_of_isPlain (by decide))

end Parts

section Whole

variable {ms : Messages} {source : Option String} {failure : Option UnexplainedFailure}

/-- The errors, as far as the given ones, with what stands in front of them. -/
def errorFront (p : Palette) (ms : Messages) (source : Option String) (es : List Message) :
    String :=
  unlines (ms.informational.map Message.text ++ gap ms ++ headerLines p (errorTitle ms) ++
    es.map fun e => formatError p e source)

lemma isPlain_errorTitle (ms : Messages) : IsPlain (errorTitle ms) :=
  (IsPlain.append (by decide) (isPlain_countText _)).append (by decide)

lemma decorated_texts {is : List Message} (h : ∀ m ∈ is, IsPlain m.text) :
    Decorated fun _ => unlines (is.map Message.text) :=
  decorated_unlines_map (fun _ => Message.text) fun m hm => decorated_of_isPlain (h m hm)

lemma decorated_errorFront {es : List Message} (hi : ∀ m ∈ ms.informational, IsPlain m.text)
    (he : ∀ e ∈ es, IsPlain e.text) (hs : ∀ s ∈ source, IsPlain s) :
    Decorated fun p => errorFront p ms source es := by
  have hgap : Decorated fun _ => unlines (gap ms) := by
    unfold gap
    split
    · exact decorated_unlines_nil
    · exact decorated_of_isPlain (by decide)
  have hfront := decorated_unlines_append (decorated_texts hi) hgap
  have hheader := decorated_headerLines (isPlain_errorTitle ms)
  have herrors := decorated_unlines_map (fun p e => formatError p e source) fun e h =>
    decorated_formatError (he e h) hs
  exact decorated_unlines_append (decorated_unlines_append hfront hheader) herrors

lemma decorated_failureLines (hf : ∀ f ∈ failure, IsPlain f.command) :
    Decorated fun p => unlines (failureLines p failure) := by
  have hfirst : Decorated fun p =>
      paint p .error Symbol.error ++ " JFlex failed without reporting an error" :=
    (decorated_paint .error (by decide)).append (decorated_of_isPlain (by decide))
  cases failure with
  | none => exact decorated_unlines_cons hfirst decorated_unlines_nil
  | some f =>
    have hcommand : Decorated fun p => "   command: " ++ paint p .code f.command :=
      (decorated_of_isPlain (by decide)).append (decorated_paint .code (hf f rfl))
    have hcode : Decorated fun _ => "   exit code: " ++ exitCodeText f.exitCode :=
      decorated_of_isPlain (IsPlain.append (by decide) (isPlain_exitCodeText f.exitCode))
    exact decorated_unlines_cons hfirst (decorated_unlines_cons hcommand
      (decorated_unlines_cons hcode decorated_unlines_nil))

lemma decorated_endingLines (ending : Ending) (ms : Messages)
    (hf : ∀ f ∈ failure, IsPlain f.command) :
    Decorated fun p => unlines (endingLines p ending ms failure) := by
  cases ending with
  | success =>
    by_cases h : ms.hasErrors
    · simp only [endingLines, if_pos h]
      exact decorated_unlines_nil
    · have hlast : Decorated successLine :=
        (decorated_paint .success (by decide)).append (decorated_of_isPlain (by decide))
      simp only [endingLines, if_neg h]
      exact decorated_unlines_cons hlast decorated_unlines_nil
  | successWithErrors => exact decorated_unlines_nil
  | unexplainedFailure => exact decorated_failureLines hf

lemma plainText_of_errors (p : Palette) (ending : Ending) (he : ms.errors ≠ []) :
    plainText p ending ms source failure =
      errorFront p ms source ms.errors ++ unlines (endingLines p ending ms failure) := by
  rw [plainText, reportLines, errorLines_eq he, errorFront, ← unlines_append]
  simp only [List.append_assoc]

lemma plainText_of_no_errors (p : Palette) (ending : Ending) (he : ms.errors = []) :
    plainText p ending ms source failure =
      unlines (ms.informational.map Message.text) ++
        unlines (endingLines p ending ms failure) := by
  have hno : errorLines p ms source = [] := by simp [errorLines, Messages.hasErrors, he]
  rw [plainText, reportLines, hno, List.append_nil, ← unlines_append]

/-- **A report is decorated.** -/
theorem decorated_plainText (ending : Ending) (hi : ∀ m ∈ ms.informational, IsPlain m.text)
    (he : ∀ e ∈ ms.errors, IsPlain e.text) (hs : ∀ s ∈ source, IsPlain s)
    (hf : ∀ f ∈ failure, IsPlain f.command) :
    Decorated fun p => plainText p ending ms source failure := by
  have hending := decorated_endingLines ending ms hf
  by_cases hno : ms.errors = []
  · simp only [plainText_of_no_errors _ ending hno]
    exact (decorated_texts hi).append hending
  · simp only [plainText_of_errors _ ending hno]
    exact (decorated_errorFront hi he hs).append hending

/-! ### Where messages stand -/

/-- The text ends a line behind `front`, and a terminal shows it in the default rendition, all of
it and what follows it too. -/
def Unstyled (report front text : String) : Prop :=
  ∃ rest, report = front ++ text ++ "\n" ++ rest ∧
    display report =
      display front ++ (text ++ "\n").toList.map (fun c => (c, ({} : Rendition))) ++ display rest

lemma unstyled_of_closed {report front text : String} (hclosed : Closed front)
    (hfront : Terminal.rendition front = {}) (htext : IsPlain text)
    (h : ∃ rest, report = front ++ text ++ "\n" ++ rest) : Unstyled report front text := by
  obtain ⟨rest, rfl⟩ := h
  have hline : IsPlain (text ++ "\n") := htext.append (by decide)
  have hparts : front ++ text ++ "\n" ++ rest = front ++ (text ++ "\n" ++ rest) := by
    simp only [String.append_assoc]
  refine ⟨rest, rfl, ?_⟩
  rw [hparts, display_append hclosed hfront,
    display_append (closed_of_isPlain hline) (rendition_plain hline), display_plain hline,
    List.append_assoc]

lemma exists_rest_of_informational (p : Palette) (ending : Ending) (source : Option String)
    (failure : Option UnexplainedFailure) {before after : List Message} {m : Message}
    (h : ms.informational = before ++ m :: after) :
    ∃ rest, plainText p ending ms source failure =
      unlines (before.map Message.text) ++ m.text ++ "\n" ++ rest := by
  refine ⟨unlines (after.map Message.text ++ errorLines p ms source ++
    endingLines p ending ms failure), ?_⟩
  rw [plainText, reportLines, h, List.map_append, List.map_cons]
  simp only [List.append_assoc, List.cons_append, unlines_append, unlines, String.append_assoc]

lemma exists_rest_of_errors (p : Palette) (ending : Ending) (source : Option String)
    (failure : Option UnexplainedFailure) {before after : List Message} {e : Message}
    (h : ms.errors = before ++ e :: after) :
    ∃ rest, plainText p ending ms source failure =
      errorFront p ms source before ++ errorHead p e source ++ e.text ++ "\n" ++ rest := by
  have hne : ms.errors ≠ [] := by simp [h]
  refine ⟨unlines (after.map fun e => formatError p e source) ++
    unlines (endingLines p ending ms failure), ?_⟩
  rw [plainText_of_errors p ending hne, errorFront, errorFront, h, List.map_append, List.map_cons,
    formatError_eq p e]
  simp only [unlines_append, unlines, String.append_assoc]

/-- **Colors decorate a report and nothing else**: without its sequences it is the plain one, every
message stands in the default rendition, and so does what follows the report. -/
theorem plainText_colored (ending : Ending) (ms : Messages) (source : Option String)
    (failure : Option UnexplainedFailure) (hi : ∀ m ∈ ms.informational, IsPlain m.text)
    (he : ∀ e ∈ ms.errors, IsPlain e.text) (hs : ∀ s ∈ source, IsPlain s)
    (hf : ∀ f ∈ failure, IsPlain f.command) :
    let report := plainText .colored ending ms source failure
    stripped report = plainText .plain ending ms source failure ∧
      (∀ m : Message, IsPlain m.text →
        stripped (formatError .colored m source) = formatError .plain m source) ∧
      (∀ title, IsPlain title → stripped (header .colored title) = header .plain title) ∧
      (∀ before m after, ms.informational = before ++ m :: after →
        Unstyled report (unlines (before.map Message.text)) m.text) ∧
      (∀ before e after, ms.errors = before ++ e :: after →
        Unstyled report (errorFront .colored ms source before ++ errorHead .colored e source)
          e.text) ∧
      rendition report = {} := by
  intro report
  have hreport := decorated_plainText ending hi he hs hf
  refine ⟨hreport.stripped, fun m hm => (decorated_formatError hm hs).stripped,
    fun title ht => (decorated_header ht).stripped, fun before m after h => ?_,
    fun before e after h => ?_, hreport.rendition⟩
  · have hbefore : ∀ x ∈ before, IsPlain x.text := fun x hx => hi x (by simp [h, hx])
    have hfront := decorated_texts hbefore
    exact unstyled_of_closed hfront.closed hfront.rendition (hi m (by simp [h]))
      (exists_rest_of_informational .colored ending source failure h)
  · have hbefore : ∀ x ∈ before, IsPlain x.text := fun x hx => he x (by simp [h, hx])
    have hfront : Decorated fun p => errorFront p ms source before ++ errorHead p e source :=
      (decorated_errorFront hi hbefore hs).append (decorated_errorHead hs)
    exact unstyled_of_closed hfront.closed hfront.rendition (he e (by simp [h]))
      (exists_rest_of_errors .colored ending source failure h)

/-- Chatter that looks like a sequence without its escape, and an error at a place. -/
theorem plainText_colored_imitation :
    let e := Message.positioned "Syntax error." (some 72) (some 7)
    let ms : Messages := { informational := [.plain "[31m"], errors := [e] }
    let source := some "x.flex"
    let failure : Option UnexplainedFailure := some { command := "jflex", exitCode := 1 }
    let report := plainText .colored .unexplainedFailure ms source failure
    (∀ m ∈ ms.informational, IsPlain m.text) ∧ (∀ e ∈ ms.errors, IsPlain e.text) ∧
      (∀ s ∈ source, IsPlain s) ∧ (∀ f ∈ failure, IsPlain f.command) ∧
      stripped report = plainText .plain .unexplainedFailure ms source failure ∧
      Unstyled report (errorFront .colored ms source [] ++ errorHead .colored e source) e.text ∧
      rendition report = {} := by
  intro e ms source failure report
  have hi : ∀ m ∈ ms.informational, IsPlain m.text := by decide
  have he : ∀ e ∈ ms.errors, IsPlain e.text := by decide
  have hs : ∀ s ∈ source, IsPlain s := by decide
  have hf : ∀ f ∈ failure, IsPlain f.command := by decide
  obtain ⟨hstripped, -, -, -, herrors, hlast⟩ :=
    plainText_colored .unexplainedFailure ms source failure hi he hs hf
  exact ⟨hi, he, hs, hf, hstripped, herrors [] e [] rfl, hlast⟩

end Whole

end Report

end JFlexReport
