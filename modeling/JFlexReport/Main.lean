import JFlexReport.CommandLine.Reach
import JFlexReport.Log.Line

/-!
The program. It gathers the files that the run will look at, runs, and writes the output and
the log records; all decisions are those of `CommandLine.run`.
-/

namespace JFlexReport.Main

open CommandLine

def lookupError : IO.Error → LookupError
  | .noFileOrDirectory .. => .notFound
  | .inappropriateType .. => .notDirectory
  | .permissionDenied .. => .denied
  | e => .other (toString e)

def contentOf (p : Path) : IO Content := do
  try return .ok (← IO.FS.readBinFile p.text).toList
  catch e => return .error (lookupError e)

/-- What the operating system has at a path. -/
def look (p : Path) : IO (Except LookupError FileTree) := do
  if '\x00' ∈ p.text.toList then return .error .nul
  try
    match (← (System.mkFilePath [p.text]).metadata).type with
    | .dir => return .ok .empty
    | .file => return .ok (.file (← contentOf p))
    | _ => return .ok (.device (← contentOf p))
  catch e => return .error (lookupError e)

def variableNames : List String :=
  Color.switches ++
    [filterVariable, configVariable, Settings.homeVariable, Settings.skeletonVariable]

def environment : IO (String → Option String) := do
  let mut values : List (String × String) := []
  for name in variableNames do
    match ← IO.getEnv name with
    | some v => values := (name, v) :: values
    | none => pure ()
  return fun name => values.lookup name

end JFlexReport.Main

open JFlexReport in
def main (arguments : List String) : IO UInt32 := do
  let env ← Main.environment
  let directory ← IO.currentDir
  let w ← CommandLine.surroundings Main.look
    { files := CommandLine.viewOf [], directory := ⟨directory.toString⟩, env } arguments
  let answer := CommandLine.run arguments w
  for r in answer.records do
    (← IO.getStderr).putStrLn r.line
  (← IO.getStdout).putStr answer.output
  return UInt32.ofNat answer.status
