import JFlexReport.CommandLine.Color
import JFlexReport.CommandLine.Help
import JFlexReport.Log.Filter
import JFlexReport.Report.Machine
import JFlexReport.Report.Plain
import JFlexReport.Settings.Check
import JFlexReport.Settings.Reading

/-!
What the program does. A run is a function of its arguments and of its surroundings, which
are the files that it can see, its current directory and its environment; it ends with an
exit status, an output and the log records that its filter lets through. The arguments and
the log filter have no part in each other's work: the filter decides on records alone.
-/

namespace JFlexReport.CommandLine

open Text Log

def version : String := "0.1.0"

structure Surroundings where
  files : FileView
  directory : Path
  env : String → Option String

structure Answer where
  status : Nat
  output : String := ""
  records : List Record := []
  deriving DecidableEq

def statusFailed : Nat := 1

def statusUnexplained : Nat := 2

def statusUsage : Nat := 2

/-! ### Classifying a run -/

/-- A captured stream. Without a file the stream was empty. -/
def capture? (files : FileView) : Option Path → Option String
  | some p =>
    match files.readBytes p with
    | .ok bytes => some (String.ofList (Utf8.decodeLossy bytes))
    | .error _ => none
  | none => some ""

def endingStatus : Ending → Nat
  | .success => 0
  | .successWithErrors => statusFailed
  | .unexplainedFailure => statusUnexplained

def render (p : Palette) (r : ClassifyRequest) (ending : Ending) (ms : Messages)
    (failure : Option UnexplainedFailure) : String :=
  match r.format with
  | .text => Report.plainText p ending ms r.source failure
  | .json => Report.jsonText ending ms failure ++ "\n"

def report (p : Palette) (r : ClassifyRequest) (stdout stderr : String) : Logged Answer := do
  let ms ← Console.parseStreams stdout stderr
  Logged.note .debug .program ("Parsed " ++ countText ms.informational.length ++
    " informational line(s) and " ++ countText ms.errors.length ++ " error(s)")
  match ← evaluate r.exitCode ms r.command with
  | .ok o =>
    return { status := endingStatus o.ending, output := render p r o.ending o.messages none }
  | .error f =>
    return { status := statusUnexplained, output := render p r .unexplainedFailure ms (some f) }

def classify (w : Surroundings) (r : ClassifyRequest) : Logged Answer :=
  match capture? w.files r.stdout, capture? w.files r.stderr with
  | some stdout, some stderr => report (palette w.env) r stdout stderr
  | _, _ => pure { status := statusFailed }

/-! ### Checking settings -/

def settings? (w : Surroundings) : Option Path → Option (Logged Settings)
  | some p =>
    match Settings.load? w.files p with
    | .ok s => some (pure s)
    | .error _ => none
  | none => some (Settings.loadNearest w.files w.directory)

def advice (p : Palette) (s : Settings) (verdict : Settings.Verdict) : String :=
  match verdict, s.launcher, s.effectiveSkeleton with
  | .skeletonMissing, _, some skeleton => "   skeleton: " ++ paint p .code skeleton.text
  | _, some launcher, _ => "   expected launcher: " ++ paint p .code launcher.text
  | _, none, _ => "   set `home` in jfx.toml or the JFLEX_HOME environment variable"

def verdictAnswer (p : Palette) (s : Settings) (verdict : Settings.Verdict) : Answer :=
  match verdict with
  | .valid =>
    { status := 0, output := paint p .success Symbol.success ++ " " ++ verdict.message ++ "\n" }
  | _ =>
    { status := statusFailed,
      output := paint p .warning Symbol.warning ++ " " ++ verdict.message ++ "\n" ++
        advice p s verdict ++ "\n" }

def checkConfig (w : Surroundings) (file : Option Path) : Logged Answer :=
  match settings? w file with
  | some loaded => do
    let s ← loaded
    let s ← s.withOverrides w.env
    let verdict ← s.check w.files
    return verdictAnswer (palette w.env) s verdict
  | none => pure { status := statusFailed }

/-! ### The program -/

def perform (w : Surroundings) : Command → Logged Answer
  | .classify r => classify w r
  | .checkConfig file => checkConfig w file

def filterVariable : String := "RUST_LOG"

/-- The filter of the environment where it has a readable one, or else the one for the
requested detail. -/
def logFilter (env : String → Option String) (verbosity : Nat) : Filter :=
  ((env filterVariable).bind Filter.ofText?).getD (.ofVerbosity verbosity)

def stopAnswer (env : String → Option String) : Stop → Answer
  | .version => { status := 0, output := programName ++ " " ++ version ++ "\n" }
  | .help topic => { status := 0, output := helpText env topic }
  | .usage => { status := statusUsage }

def run (arguments : List String) (w : Surroundings) : Answer :=
  match Request.ofArguments w.env arguments with
  | .ok r =>
    let x := perform w r.command
    { x.value with records := (logFilter w.env r.verbosity).apply x.records }
  | .error stop => stopAnswer w.env stop

end JFlexReport.CommandLine
