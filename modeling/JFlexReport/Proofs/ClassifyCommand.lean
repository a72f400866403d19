import JFlexReport.CommandLine.Run
import JFlexReport.Proofs.ReportLines

/-!
The classify command against the functions that it is made of.

The command reads its files, classifies the run and reports on it in one of two formats. All
that it says is what the classification of the captured streams says: the exit status tells
how the run ended, the output is the report with that ending and the messages of both
streams. When a file cannot be read, nothing is reported at all.
-/

namespace JFlexReport

def Json.field? : Json → String → Option Json
  | .object fields, name => fields.lookup name
  | _, _ => none

namespace CommandLine

open Text

/-- What a captured stream holds: nothing without a file, or else the text of the file with
every sequence that is no character replaced. -/
inductive Captured (files : FileView) : Option Path → String → Prop
  | absent : Captured files none ""
  | file {p : Path} {bytes : List UInt8} (h : files.readBytes p = .ok bytes) :
    Captured files (some p) (String.ofList (Utf8.decodeLossy bytes))

/-- What the answer to a request says about the result of the run and its messages. -/
structure Agrees (p : Palette) (r : ClassifyRequest) (result : Except UnexplainedFailure Outcome)
    (ms : Messages) (a : Answer) : Prop where
  success : a.status = 0 ↔ ∃ ms', result = .ok (.success ms')
  successWithErrors : a.status = 1 ↔ ∃ ms', result = .ok (.successWithErrors ms')
  unexplainedFailure : a.status = 2 ↔ ∃ f, result = .error f
  json : r.format = .json →
    let j := Report.json (.ofResult result) ms (UnexplainedFailure.ofResult? result)
    a.output = j.text ++ "\n" ∧
      ((∃ f, result = .error f) → j.field? "command" = some (.string r.command) ∧
        j.field? "exit_code" = some (.number r.exitCode.toInt)) ∧
      ((∀ f, result ≠ .error f) → j.field? "command" = none ∧ j.field? "exit_code" = none)
  text : r.format = .text →
    a.output = Report.plainText p (.ofResult result) ms r.source
      (UnexplainedFailure.ofResult? result)
  successLine : r.format = .text →
    (Report.EndsInLines a.output [Report.successLine p] ↔ r.exitCode = 0 ∧ ms.errors = [])
  failureLines : r.format = .text →
    (Report.EndsInLines a.output
        (Report.failureLines p (some { command := r.command, exitCode := r.exitCode })) ↔
      ∃ f, result = .error f)

/-! ### The streams -/

lemma capture?_of_captured {files : FileView} {file : Option Path} {s : String}
    (h : Captured files file s) : capture? files file = some s := by
  cases h with
  | absent => rfl
  | file h => simp only [capture?, h]

lemma capture?_of_error {files : FileView} {p : Path} {e : ReadError}
    (h : files.readBytes p = .error e) : capture? files (some p) = none := by
  simp only [capture?, h]

lemma classify_of_captured {w : Surroundings} {r : ClassifyRequest} {stdout stderr : String}
    (hout : Captured w.files r.stdout stdout) (herr : Captured w.files r.stderr stderr) :
    classify w r = report (palette w.env) r stdout stderr := by
  rw [classify, capture?_of_captured hout, capture?_of_captured herr]

lemma classify_of_error {w : Surroundings} {r : ClassifyRequest} {p : Path} {e : ReadError}
    (hp : r.stdout = some p ∨ r.stderr = some p) (h : w.files.readBytes p = .error e) :
    classify w r = pure { status := statusFailed } := by
  rw [classify]
  rcases hp with hp | hp
  · rw [hp, capture?_of_error h]
  · rw [hp, capture?_of_error h]
    cases capture? w.files r.stdout <;> rfl

/-! ### The report -/

section Report

variable (p : Palette) (r : ClassifyRequest)

lemma value_report (stdout stderr : String) :
    (report p r stdout stderr).value =
      let ms := (Console.parseStreams stdout stderr).value
      let result := (evaluate r.exitCode ms r.command).value
      { status := endingStatus (.ofResult result)
        output := render p r (.ofResult result) ms (UnexplainedFailure.ofResult? result) } := by
  simp only [report, Log.Logged.value_bind]
  by_cases h0 : r.exitCode = 0
  · rw [evaluate_zero h0]
    rfl
  · by_cases he : (Console.parseStreams stdout stderr).value.errors = []
    · rw [evaluate_unexplained h0 he]
      rfl
    · rw [evaluate_errors h0 he]
      rfl

variable {p r} {ms : Messages}

lemma endingStatus_ofResult (result : Except UnexplainedFailure Outcome) :
    (endingStatus (.ofResult result) = 0 ↔ ∃ ms', result = .ok (.success ms')) ∧
      (endingStatus (.ofResult result) = 1 ↔ ∃ ms', result = .ok (.successWithErrors ms')) ∧
      (endingStatus (.ofResult result) = 2 ↔ ∃ f, result = .error f) := by
  rcases result with f | o
  · simp [Ending.ofResult, endingStatus, statusUnexplained]
  · cases o <;> simp [Ending.ofResult, Outcome.ending, endingStatus, statusFailed]

lemma field?_json (ending : Ending) (failure : Option UnexplainedFailure) :
    (Report.json ending ms failure).field? "command" = failure.map (.string ·.command) ∧
      (Report.json ending ms failure).field? "exit_code" =
        failure.map (.number ·.exitCode.toInt) := by
  cases failure <;> exact ⟨rfl, rfl⟩

/-- **A report agrees with the evaluation of its messages.** -/
theorem agrees_evaluate {result : Except UnexplainedFailure Outcome} {a : Answer}
    (hms : ms.WellShaped) (hresult : (evaluate r.exitCode ms r.command).value = result)
    (hstatus : a.status = endingStatus (.ofResult result))
    (houtput : a.output =
      render p r (.ofResult result) ms (UnexplainedFailure.ofResult? result)) :
    Agrees p r result ms a where
  success := hstatus ▸ (endingStatus_ofResult result).1
  successWithErrors := hstatus ▸ (endingStatus_ofResult result).2.1
  unexplainedFailure := hstatus ▸ (endingStatus_ofResult result).2.2
  json hf := by
    refine ⟨by rw [houtput, render, hf]; rfl, ?_, ?_⟩
    · rintro ⟨f, rfl⟩
      obtain ⟨h0, he⟩ := (evaluate_eq_error_iff _ _ _).mp ⟨f, hresult⟩
      rw [evaluate_unexplained h0 he] at hresult
      cases hresult
      exact field?_json _ _
    · intro hno
      rcases result with f | o
      · exact absurd rfl (hno f)
      · exact field?_json _ none
  text hf := by rw [houtput, render, hf]
  successLine hf := by
    have h := Report.endsInLines_successLine_iff p r.exitCode r.command r.source hms
    rwa [Report.ofRun, hresult, show Report.plainText p _ ms r.source _ = a.output by
      rw [houtput, render, hf]] at h
  failureLines hf := by
    have h := Report.endsInLines_failureLines_iff p r.exitCode r.command r.source hms
    rwa [← evaluate_eq_error_iff r.exitCode ms r.command, Report.ofRun, hresult,
      show Report.plainText p _ ms r.source _ = a.output by rw [houtput, render, hf]] at h

end Report

/-- **The classify command says what the classification says**, or nothing when a file cannot
be read. -/
theorem run_classify_agrees {arguments : List String} {w : Surroundings} {n : ℕ}
    {r : ClassifyRequest}
    (h : Request.ofArguments w.env arguments = .ok { verbosity := n, command := .classify r }) :
    (∀ p e, r.stdout = some p ∨ r.stderr = some p → w.files.readBytes p = .error e →
        (run arguments w).status = 1 ∧ (run arguments w).output = "") ∧
      ∀ stdout stderr, Captured w.files r.stdout stdout → Captured w.files r.stderr stderr →
        Agrees (palette w.env) r (classifyRun stdout stderr r.exitCode r.command).value
          (Console.parseStreams stdout stderr).value (run arguments w) := by
  have hrun : (run arguments w).status = (classify w r).value.status ∧
      (run arguments w).output = (classify w r).value.output := by
    rw [run, h]
    exact ⟨rfl, rfl⟩
  refine ⟨fun p e hp he => ?_, fun stdout stderr hout herr => ?_⟩
  · rw [hrun.1, hrun.2, classify_of_error hp he]
    exact ⟨rfl, rfl⟩
  · rw [classify_of_captured hout herr, value_report] at hrun
    exact agrees_evaluate (Console.wellShaped_parseStreams stdout stderr) rfl hrun.1 hrun.2

/-- An unexplained failure whose captured output is not all text. -/
theorem run_classify_agrees_unexplained :
    let arguments := ["-v", "classify", "--exit-code", "-1", "--command", "jflex", "--stderr=log"]
    let w : Surroundings :=
      { files := fun p =>
          if p.text = "log" then .ok (.file (.ok [0x45, 0xFF, 0x0A])) else .error .notFound
        directory := ⟨"/"⟩
        env := fun _ => none }
    let r : ClassifyRequest := { exitCode := -1, command := "jflex", stderr := some ⟨"log"⟩ }
    Request.ofArguments w.env arguments = .ok { verbosity := 1, command := .classify r } ∧
      Captured w.files r.stdout "" ∧ Captured w.files r.stderr "E\ufffd\n" ∧
      (run arguments w).status = 2 ∧
      Report.EndsInLines (run arguments w).output
        (Report.failureLines .plain (some { command := "jflex", exitCode := -1 })) := by
  intro arguments w r
  have h : Request.ofArguments w.env arguments =
      .ok { verbosity := 1, command := .classify r } := by
    decide +kernel
  have hout : Captured w.files r.stdout "" := .absent
  have hread : w.files.readBytes ⟨"log"⟩ = .ok [0x45, 0xFF, 0x0A] := by decide
  have herr : Captured w.files r.stderr "E\ufffd\n" := .file hread
  have hagrees := (run_classify_agrees h).2 _ _ hout herr
  have herrors : (Console.parseStreams "" "E\ufffd\n").value.errors = [] := by
    rw [Console.value_parseStreams, Console.parse_empty,
      Console.parse_of_visible ⟨'E', by decide, by decide⟩]
    simp only [← Console.messagesOf_eq_collect]
    decide
  have hfails : ∃ f, (classifyRun "" "E\ufffd\n" (-1) "jflex").value = .error f :=
    (evaluate_eq_error_iff _ _ _).mpr ⟨by decide, herrors⟩
  exact ⟨h, hout, herr, hagrees.unexplainedFailure.mpr hfails,
    (hagrees.failureLines rfl).mpr hfails⟩

end CommandLine

end JFlexReport
