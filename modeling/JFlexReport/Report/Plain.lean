import JFlexReport.Outcome
import JFlexReport.Style

/-!
The report for a reader: the chatter of the run first, then its errors under a header, then
one line on the ending where the errors do not already tell it.
-/

namespace JFlexReport.Report

/-- One error, as severity, location and text. -/
def formatError (p : Palette) (m : Message) (source : Option String) : String :=
  let severity := paint p .error (paint p .emphasis Category.error.name)
  match m.location? source with
  | some location => "  [" ++ severity ++ "] " ++ paint p .code location ++ " - " ++ m.text
  | none => "  [" ++ severity ++ "] " ++ m.text

/-- The errors under their header, set off from chatter by an empty line. -/
def errorLines (p : Palette) (ms : Messages) (source : Option String) : List String :=
  if ms.hasErrors then
    (if ms.informational.isEmpty then [] else [""]) ++
      headerLines p ("JFlex reported " ++ countText ms.errors.length ++ " error(s)") ++
      ms.errors.map fun m => formatError p m source
  else []

def successLine (p : Palette) : String :=
  paint p .success Symbol.success ++ " JFlex finished successfully"

def failureLines (p : Palette) (failure : Option UnexplainedFailure) : List String :=
  (paint p .error Symbol.error ++ " JFlex failed without reporting an error") ::
    match failure with
    | some f =>
      ["   command: " ++ paint p .code f.command, "   exit code: " ++ exitCodeText f.exitCode]
    | none => []

def endingLines (p : Palette) (ending : Ending) (ms : Messages)
    (failure : Option UnexplainedFailure) : List String :=
  match ending with
  | .success => if ms.hasErrors then [] else [successLine p]
  | .successWithErrors => []
  | .unexplainedFailure => failureLines p failure

def reportLines (p : Palette) (ending : Ending) (ms : Messages) (source : Option String)
    (failure : Option UnexplainedFailure) : List String :=
  ms.informational.map Message.text ++ errorLines p ms source ++ endingLines p ending ms failure

/-- Every line with a line feed behind it. -/
def unlines : List String → String
  | [] => ""
  | l :: ls => l ++ "\n" ++ unlines ls

def plainText (p : Palette) (ending : Ending) (ms : Messages) (source : Option String)
    (failure : Option UnexplainedFailure) : String :=
  unlines (reportLines p ending ms source failure)

end JFlexReport.Report
