import JFlexReport.Console

/-!
How a run ended. An exit code of zero is success whatever was printed. Any other code is
explained by the errors that the output holds; where it holds none, the command and its exit
code are the only diagnosis left, and the evaluation fails with them.
-/

namespace JFlexReport

open Text Log

inductive Ending
  | success | successWithErrors | unexplainedFailure
  deriving DecidableEq

def Ending.tag : Ending → String
  | .success => "success"
  | .successWithErrors => "success_with_errors"
  | .unexplainedFailure => "unexplained_failure"

def Ending.ofExit (exitCode : Int32) (errors : List Message) : Ending :=
  if exitCode = 0 then .success
  else if errors.isEmpty then .unexplainedFailure
  else .successWithErrors

/-- A run with a non-zero exit code and no errors to show for it. -/
structure UnexplainedFailure where
  command : String
  exitCode : Int32
  deriving DecidableEq

def exitCodeText (exitCode : Int32) : String := String.ofList (signedNumeral exitCode.toInt)

def UnexplainedFailure.message (f : UnexplainedFailure) : String :=
  "Command '" ++ f.command ++ "' execution failed with exit code " ++ exitCodeText f.exitCode

inductive Outcome
  | success (messages : Messages)
  | successWithErrors (messages : Messages)
  deriving DecidableEq

namespace Outcome

def ending : Outcome → Ending
  | .success _ => .success
  | .successWithErrors _ => .successWithErrors

def messages : Outcome → Messages
  | .success ms => ms
  | .successWithErrors ms => ms

end Outcome

def countText (n : Nat) : String := String.ofList (numeral n)

def evaluate (exitCode : Int32) (ms : Messages) (command : String) :
    Logged (Except UnexplainedFailure Outcome) :=
  match Ending.ofExit exitCode ms.errors with
  | .success =>
    ⟨.ok (.success ms), [⟨.debug, .outcome,
      "JFlex finished cleanly (" ++ countText ms.informational.length ++
        " informational lines)"⟩]⟩
  | .successWithErrors =>
    ⟨.ok (.successWithErrors ms), [⟨.debug, .outcome,
      "JFlex exited with code " ++ exitCodeText exitCode ++ " and reported " ++
        countText ms.errors.length ++ " error(s)"⟩]⟩
  | .unexplainedFailure =>
    ⟨.error { command, exitCode }, [⟨.warn, .outcome,
      "Command failed: " ++ command ++ " - Exit Code: " ++ exitCodeText exitCode⟩]⟩

/-- Reads both captured streams and evaluates the run. -/
def classifyRun (stdout stderr : String) (exitCode : Int32) (command : String) :
    Logged (Except UnexplainedFailure Outcome) := do
  let ms ← Console.parseStreams stdout stderr
  evaluate exitCode ms command

end JFlexReport
