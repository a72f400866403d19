import Mathlib.Data.List.Basic
import Mathlib.Logic.Function.Basic
import JFlexReport.CommandLine.Run
import JFlexReport.Proofs.Arguments

/-!
The detail that a run is asked for.

Flags and the filter of the environment choose among the log records of a run and do nothing
else. The arguments name a command, the command is performed with its whole log, and only
then does a filter drop records. So a run is told by its command, and two runs of one command
differ in no more than the level up to which they write their records.
-/

namespace JFlexReport.CommandLine

open Text Log

/-- The surroundings with another log filter in them, or with none. -/
def Surroundings.withFilter (w : Surroundings) (value : Option String) : Surroundings :=
  { w with env := Function.update w.env filterVariable value }

/-- The command that the arguments ask for, or why they ask for none. -/
def asked (env : String → Option String) (arguments : List String) : Except Stop Command :=
  (Request.ofArguments env arguments).map Request.command

/-- The answer of a run whose log is not filtered. -/
def unfiltered (arguments : List String) (w : Surroundings) : Answer :=
  match asked w.env arguments with
  | .ok c => { (perform w c).value with records := (perform w c).records }
  | .error stop => stopAnswer w.env stop

/-! ### Filters -/

section Filter

variable {n m : ℕ}

lemma passes_ofVerbosity (n : ℕ) (r : Record) :
    (Filter.ofVerbosity n).passes r = r.level.passes (some (Filter.levelFor n)) := by
  simp [Filter.passes, Filter.ofVerbosity, Filter.directiveFor?, Directive.speaksFor]

lemma rank_levelFor (n : ℕ) : (Filter.levelFor n).rank = min n 3 + 2 := by
  match n with
  | 0 | 1 | 2 => rfl
  | n + 3 => simp [Filter.levelFor, Level.rank]

lemma apply_ofVerbosity_sublist (h : n ≤ m) (rs : List Record) :
    ((Filter.ofVerbosity n).apply rs).Sublist ((Filter.ofVerbosity m).apply rs) := by
  refine List.monotone_filter_right rs fun r hr => ?_
  rw [passes_ofVerbosity] at hr ⊢
  simp only [Level.passes, Option.map_some, Option.getD_some, decide_eq_true_eq] at hr ⊢
  rw [rank_levelFor] at hr ⊢
  omega

lemma apply_trace (rs : List Record) : (Filter.ofVerbosity 3).apply rs = rs := by
  refine List.filter_eq_self.mpr fun r _ => ?_
  rw [passes_ofVerbosity]
  cases r.level <;> rfl

end Filter

section

variable (w : Surroundings) (value : Option String) (n : ℕ)

lemma logFilter_without : logFilter (w.withFilter none).env n = .ofVerbosity n := by
  simp [logFilter, Surroundings.withFilter]

lemma logFilter_trace : logFilter (w.withFilter (some "trace")).env n = .ofVerbosity 3 := by
  have h : Filter.ofText? "trace" = some (.ofVerbosity 3) := by decide
  simp [logFilter, Surroundings.withFilter, h]

lemma env_withFilter {name : String} (h : name ≠ filterVariable) :
    (w.withFilter value).env name = w.env name :=
  Function.update_of_ne h _ _

lemma palette_withFilter : palette (w.withFilter value).env = palette w.env := by
  simp (disch := decide) only [palette, Color.isDemanded, Color.isOn, Color.isOffered,
    Color.isRefused, env_withFilter]
  rfl

lemma perform_withFilter (c : Command) : perform (w.withFilter value) c = perform w c := by
  cases c with
  | classify r =>
    simp only [perform, classify, palette_withFilter]
    rfl
  | checkConfig file =>
    have hoverrides : ∀ s : Settings,
        s.withOverrides (w.withFilter value).env = s.withOverrides w.env := fun s => by
      simp (disch := decide) only [Settings.withOverrides, Settings.override?, env_withFilter]
    simp only [perform, checkConfig, palette_withFilter, hoverrides]
    rfl

/-- Of all variables, only the one that names a settings file is shown by help. -/
lemma stopAnswer_withFilter (stop : Stop) :
    stopAnswer (w.withFilter value).env stop = stopAnswer w.env stop := by
  have hconfig : standInNote (w.withFilter value).env configVariable =
      standInNote w.env configVariable := by
    rw [standInNote, env_withFilter w value (by decide), standInNote]
  rcases stop with - | topic | -
  · rfl
  · cases topic with
    | checkConfig =>
      simp only [stopAnswer, helpText, Topic.tables, checkConfigRules, optionRows, OptionRule.row,
        Option.map_some, hconfig]
      rfl
    | program | classify | help => rfl
  · rfl

end

/-! ### Arguments -/

section Arguments

variable {env env' : String → Option String}

lemma map_bind {α β γ : Type} (x : Except Stop α) (f : α → Except Stop β) (g : β → γ) :
    (x >>= f).map g = x >>= fun a => (f a).map g := by
  cases x <;> rfl

lemma map_command (n m : ℕ) (name : String) (args : List String) :
    (command env n name args).map Request.command =
      (command env m name args).map Request.command := by
  unfold command
  split_ifs
  · simp only [map_bind]
    rfl
  · simp only [map_bind]
    rfl
  · rfl
  · rfl

lemma map_readFrom (n m : ℕ) (args : List String) :
    (readFrom env n args).map Request.command = (readFrom env m args).map Request.command := by
  induction args generalizing n m with
  | nil => rfl
  | cons a rest ih =>
    unfold readFrom
    split
    · exact map_command n m _ rest
    · split
      · exact ih _ _
      · rfl
    · exact ih _ _
    · rfl
    · rfl
    · rfl

lemma command_congr (h : env configVariable = env' configVariable) (n : ℕ) (name : String)
    (args : List String) : command env n name args = command env' n name args := by
  have hfile : configFile? env = configFile? env' := by
    funext g
    rw [configFile?, configFile?, h]
  rw [command, command, hfile]

lemma readFrom_congr (h : env configVariable = env' configVariable) (n : ℕ) (args : List String) :
    readFrom env n args = readFrom env' n args := by
  induction args generalizing n with
  | nil => rfl
  | cons a rest ih => simp only [readFrom, command_congr h, ih]

lemma readFrom_flags (n k : ℕ) (args : List String) :
    readFrom env n (List.replicate k "-v" ++ args) = readFrom env (n + k) args := by
  induction k generalizing n with
  | zero => rfl
  | succ k ih =>
    have hstep : readFrom env n ("-v" :: (List.replicate k "-v" ++ args)) =
        readFrom env (n + 1) (List.replicate k "-v" ++ args) := by
      rfl
    rw [List.replicate_succ, List.cons_append, hstep, ih, Nat.add_assoc, Nat.add_comm 1]

lemma detail_flags (k : ℕ) : detail (List.replicate k "-v") = k := by
  induction k with
  | zero => rfl
  | succ k ih =>
    have hone : requests "-v" = 1 := by decide
    rw [List.replicate_succ, detail_cons, ih, hone, Nat.add_comm]

lemma effectiveDetail_flags (k : ℕ) (arguments : List String) :
    effectiveDetail (List.replicate k "-v" ++ arguments) =
      totalVerbosity (k + detail (front arguments)) (detail (behind arguments)) := by
  have hword : ∀ a ∈ List.replicate k "-v", decide (Argument.ofText a ≠ .word a) = true := by
    intro a ha
    rw [List.eq_of_mem_replicate ha]
    decide
  rw [effectiveDetail, front, behind, List.takeWhile_append_of_pos hword,
    List.dropWhile_append_of_pos hword, detail_append, detail_flags]
  rfl

lemma effectiveDetail_le (k : ℕ) (arguments : List String) :
    effectiveDetail arguments ≤ effectiveDetail (List.replicate k "-v" ++ arguments) := by
  rw [effectiveDetail_flags, effectiveDetail, totalVerbosity, totalVerbosity]
  split <;> omega

end Arguments

/-! ### Runs -/

section Run

variable (arguments : List String) (w : Surroundings)

/-- A run is the run with its whole log, filtered. -/
lemma run_eq : run arguments w =
    { unfiltered arguments w with
      records := (logFilter w.env (effectiveDetail arguments)).apply
        (unfiltered arguments w).records } := by
  unfold run unfiltered asked
  rcases h : Request.ofArguments w.env arguments with stop | r
  · cases stop <;> rfl
  · rw [← verbosity_eq_effectiveDetail h]
    rfl

lemma unfiltered_withFilter (value : Option String) :
    unfiltered arguments (w.withFilter value) = unfiltered arguments w := by
  have hasked : asked (w.withFilter value).env arguments = asked w.env arguments := by
    rw [asked, asked, Request.ofArguments, Request.ofArguments,
      readFrom_congr (env_withFilter w value (by decide))]
  simp only [unfiltered, hasked, perform_withFilter, stopAnswer_withFilter]

lemma asked_flags (env : String → Option String) (k : ℕ) :
    asked env (List.replicate k "-v" ++ arguments) = asked env arguments := by
  rw [asked, asked, Request.ofArguments, Request.ofArguments, readFrom_flags, map_readFrom]

variable {arguments w}

lemma unfiltered_of_asked {arguments' : List String}
    (h : asked w.env arguments = asked w.env arguments') :
    unfiltered arguments w = unfiltered arguments' w := by
  simp only [unfiltered, h]

lemma records_sublist {arguments' : List String}
    (hasked : asked w.env arguments = asked w.env arguments')
    (hle : effectiveDetail arguments ≤ effectiveDetail arguments') :
    (run arguments (w.withFilter none)).records.Sublist
      (run arguments' (w.withFilter none)).records := by
  rw [run_eq, run_eq, unfiltered_withFilter, unfiltered_withFilter, unfiltered_of_asked hasked,
    logFilter_without, logFilter_without]
  exact apply_ofVerbosity_sublist hle _

end Run

/-- **Detail only chooses among log records.** Flags in front and the filter of the environment
change neither the status nor the output of a run. The filter for everything shows the whole
log; without any filter, the log is cut off at the level of the effective detail, which is the
number of all flags where they stand on one side of the command. So of two runs of one command
the one with less detail writes a part of what the other writes, in the same order. -/
theorem run_detail (arguments : List String) (w : Surroundings) :
    (∀ k value,
      let more := run (List.replicate k "-v" ++ arguments) (w.withFilter value)
      more.status = (run arguments w).status ∧ more.output = (run arguments w).output) ∧
    (run arguments (w.withFilter (some "trace"))).records = (unfiltered arguments w).records ∧
    (run arguments (w.withFilter none)).records = (unfiltered arguments w).records.filter
      (·.level.passes (some (Filter.levelFor (effectiveDetail arguments)))) ∧
    (detail (front arguments) = 0 ∨ detail (behind arguments) = 0 →
      effectiveDetail arguments = detail arguments) ∧
    (∀ k, (run arguments (w.withFilter none)).records.Sublist
      (run (List.replicate k "-v" ++ arguments) (w.withFilter none)).records) ∧
    ∀ arguments', asked w.env arguments = asked w.env arguments' →
      effectiveDetail arguments ≤ effectiveDetail arguments' →
      (run arguments (w.withFilter none)).records.Sublist
        (run arguments' (w.withFilter none)).records := by
  refine ⟨fun k value => ?_, ?_, ?_, effectiveDetail_eq_detail, fun k => ?_, fun arguments' => ?_⟩
  · rw [run_eq, run_eq arguments w, unfiltered_withFilter,
      unfiltered_of_asked (asked_flags arguments w.env k)]
    exact ⟨rfl, rfl⟩
  · rw [run_eq, unfiltered_withFilter, logFilter_trace, apply_trace]
  · rw [run_eq, unfiltered_withFilter, logFilter_without, Filter.apply]
    exact List.filter_congr fun r _ => passes_ofVerbosity _ r
  · exact records_sublist (asked_flags arguments w.env k).symm (effectiveDetail_le k arguments)
  · exact records_sublist

/-- A failing check of settings, without flags and with flags on both sides. -/
theorem run_detail_failing :
    let quiet := ["check-config"]
    let loud := ["-v", "check-config", "--verbose", "-v"]
    let w : Surroundings :=
      { files := fun _ => .error .notFound
        directory := ⟨"/work"⟩
        env := fun name => if name = "JFLEX_SKELETON" then some "s" else none }
    let record : Record := ⟨.warn, .settings, "No JFlex home configured"⟩
    asked w.env quiet = asked w.env loud ∧
      effectiveDetail quiet = 0 ∧ effectiveDetail loud = 2 ∧
      (run quiet (w.withFilter none)).records.Sublist (run loud (w.withFilter none)).records ∧
      (run quiet w).records = [record] ∧
      (run loud w).records =
        [⟨.debug, .settings, "JFLEX_SKELETON overrides configured skeleton"⟩, record] := by
  intro quiet loud w record
  have hasked : asked w.env quiet = asked w.env loud := by decide +kernel
  have hquiet : effectiveDetail quiet = 0 := by decide +kernel
  have hloud : effectiveDetail loud = 2 := by decide +kernel
  have hsublist := (run_detail quiet w).2.2.2.2.2 loud hasked (by rw [hquiet]; exact Nat.zero_le _)
  exact ⟨hasked, hquiet, hloud, hsublist, by decide +kernel, by decide +kernel⟩

/-- A flag behind the command keeps the one in front of it from counting: the log of two
requests for more lacks what two requests for more should show. -/
theorem detail_on_both_sides :
    let arguments := ["-v", "classify", "--exit-code", "0", "--command", "c", "-v"]
    let w : Surroundings :=
      { files := fun _ => .error .notFound
        directory := ⟨"/"⟩
        env := fun _ => none }
    detail arguments = 2 ∧ (run arguments w).records = [] ∧
      (unfiltered arguments w).records.filter
          (·.level.passes (some (Filter.levelFor (detail arguments)))) =
        [⟨.debug, .program, "Parsed 0 informational line(s) and 0 error(s)"⟩,
          ⟨.debug, .outcome, "JFlex finished cleanly (0 informational lines)"⟩] := by
  decide +kernel

end JFlexReport.CommandLine
