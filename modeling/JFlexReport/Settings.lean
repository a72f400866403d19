import JFlexReport.FileTree
import JFlexReport.Log
import JFlexReport.Text.Blank
import JFlexReport.Text.Occurrence

/-!
The settings of a lexer-generator installation: where the generator lives, which skeleton it
should use, and further options as typed. Environment variables override the two paths, but
a blank value counts as none, and so does a blank skeleton. A skeleton that the options name
themselves, as a word `--skel` between spaces, makes the configured one ineffective.
-/

namespace JFlexReport

open Text Log

structure Settings where
  home : Option Path := none
  skeleton : Option Path := none
  options : Option String := none
  deriving DecidableEq

namespace Settings

def fileName : String := "jfx.toml"

def binDirectoryName : String := "bin"

/-- The launcher's name where scripts are run by a shell. -/
def launcherName : String := "jflex.sh"

def homeVariable : String := "JFLEX_HOME"

def skeletonVariable : String := "JFLEX_SKELETON"

/-- A variable counts only when something can be seen in its value. -/
def override? (env : String → Option String) (name : String) : Option Path :=
  match env name with
  | some v => if allBlank v.toList then none else some ⟨v⟩
  | none => none

def withHome (s : Settings) : Option Path → Logged Settings
  | some p =>
    ⟨{ s with home := some p },
      [⟨.debug, .settings, homeVariable ++ " overrides configured home"⟩]⟩
  | none => ⟨s, []⟩

def withSkeleton (s : Settings) : Option Path → Logged Settings
  | some p =>
    ⟨{ s with skeleton := some p },
      [⟨.debug, .settings, skeletonVariable ++ " overrides configured skeleton"⟩]⟩
  | none => ⟨s, []⟩

def withOverrides (s : Settings) (env : String → Option String) : Logged Settings := do
  let s ← s.withHome (override? env homeVariable)
  s.withSkeleton (override? env skeletonVariable)

def optionsText (s : Settings) : String := s.options.getD ""

def skeletonOption : String := " --skel "

/-- Whether the options name a skeleton of their own. Spaces around the options make their
first and last word like any other. -/
def namesSkeleton (s : Settings) : Bool :=
  occursIn skeletonOption.toList (" " ++ s.optionsText ++ " ").toList

/-- The skeleton that still has to be passed on, if any. -/
def effectiveSkeleton (s : Settings) : Option Path :=
  match s.skeleton with
  | some p => if allBlank p.text.toList || s.namesSkeleton then none else some p
  | none => none

def binDirectory (s : Settings) : Option Path := s.home.map (·.join binDirectoryName)

def launcher (s : Settings) : Option Path := s.binDirectory.map (·.join launcherName)

end Settings

end JFlexReport
