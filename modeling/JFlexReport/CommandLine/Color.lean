import JFlexReport.Style
import JFlexReport.Text.Occurrence

/-!
Whether the output of a run is colored, as far as the environment tells. Colors can be
demanded. Without a demand they need a terminal that knows colors; the output goes to a
program, so it counts as a terminal only where the environment says that it does.
-/

namespace JFlexReport.CommandLine

open Text

namespace Color

def switches : List String :=
  ["FORCE_COLOR", "CLICOLOR_FORCE", "NO_COLOR", "IGNORE_IS_TERMINAL", "TERM", "TERM_PROGRAM",
    "COLORTERM", "CLICOLOR", "CI"]

/-- `false` and zero, with or without a plus sign, are no demand. -/
def isNoDemand (value : String) : Bool :=
  value = "false" ||
    match value.toList with
    | '+' :: ds => !ds.isEmpty && ds.all (· == '0')
    | ds => !ds.isEmpty && ds.all (· == '0')

def isDemanded (env : String → Option String) : Bool :=
  match env "FORCE_COLOR", env "CLICOLOR_FORCE" with
  | some v, _ => !isNoDemand v
  | none, some v => v != "0"
  | none, none => false

/-- The variable is set to something but zero. -/
def isOn (env : String → Option String) (name : String) : Bool :=
  match env name with
  | some v => v != "0"
  | none => false

def isColorTerminal (term : String) : Bool :=
  ["screen", "xterm", "vt100", "vt220", "rxvt"].any (beginsWith · term) ||
    ["color", "ansi", "cygwin", "linux"].any (contains · term) ||
    ["direct", "256"].any (endsWith · term)

def isOffered (env : String → Option String) : Bool :=
  (env "COLORTERM").isSome || (env "TERM").any isColorTerminal || isOn env "CLICOLOR" ||
    (env "TERM_PROGRAM").any (fun p => p == "iTerm.app" || p == "Apple_Terminal") ||
    (env "CI").any fun v => v == "true" || v == "1" || v == "woodpecker"

def isRefused (env : String → Option String) : Bool :=
  isOn env "NO_COLOR" || env "TERM" == some "dumb"

end Color

def palette (env : String → Option String) : Palette :=
  if Color.isDemanded env ||
      Color.isOn env "IGNORE_IS_TERMINAL" && !Color.isRefused env && Color.isOffered env then
    .colored
  else .plain

end JFlexReport.CommandLine
