import JFlexReport.Json
import JFlexReport.Outcome

/-!
The report for a program: one JSON object with the ending and both lists of messages, and
for an unexplained failure also the command and its exit code.
-/

namespace JFlexReport.Report

def positionJson : Option UInt32 → Json
  | some n => .number n.toNat
  | none => .null

def messageJson (m : Message) : Json :=
  .object [("text", .string m.text), ("line", positionJson m.line),
    ("column", positionJson m.column)]

def failureFields : Option UnexplainedFailure → List (String × Json)
  | some f => [("command", .string f.command), ("exit_code", .number f.exitCode.toInt)]
  | none => []

def json (ending : Ending) (ms : Messages) (failure : Option UnexplainedFailure) : Json :=
  .object <|
    [("outcome", .string ending.tag),
      ("informational", .array (ms.informational.map messageJson)),
      ("errors", .array (ms.errors.map messageJson))] ++ failureFields failure

def jsonText (ending : Ending) (ms : Messages) (failure : Option UnexplainedFailure) : String :=
  (json ending ms failure).text

end JFlexReport.Report
