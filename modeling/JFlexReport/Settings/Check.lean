import JFlexReport.Settings

/-!
Whether a generator can be launched with given settings. Its home must be a directory with a
`bin` directory that holds the launcher script; only then does a skeleton that is in effect
have to be a file.
-/

namespace JFlexReport.Settings

open Log

inductive Verdict
  | valid | homeInvalid | skeletonMissing
  deriving DecidableEq

def Verdict.message : Verdict → String
  | .valid => "JFlex configuration is valid"
  | .homeInvalid => "JFlex home path is invalid"
  | .skeletonMissing => "JFlex skeleton file was not found"

def warning (message : String) : Record := ⟨.warn, .settings, message⟩

def checkSkeleton (s : Settings) (v : FileView) : Logged Verdict :=
  match s.effectiveSkeleton with
  | some p =>
    if v.isFile p then ⟨.valid, []⟩
    else ⟨.skeletonMissing, [warning ("Skeleton file " ++ p.text ++ " not found")]⟩
  | none => ⟨.valid, []⟩

def check (s : Settings) (v : FileView) : Logged Verdict :=
  match s.home with
  | none => ⟨.homeInvalid, [warning "No JFlex home configured"]⟩
  | some home =>
    let bin := home.join binDirectoryName
    let script := bin.join launcherName
    if !v.isDirectory home then
      ⟨.homeInvalid, [warning ("JFlex home " ++ home.text ++ " is not a directory")]⟩
    else if !v.isDirectory bin then
      ⟨.homeInvalid,
        [warning ("JFlex home " ++ home.text ++ " has no " ++ binDirectoryName ++ " directory")]⟩
    else if !v.isFile script then
      ⟨.homeInvalid, [warning ("Launcher script " ++ script.text ++ " not found")]⟩
    else s.checkSkeleton v

end JFlexReport.Settings
