import JFlexReport.CommandLine.Request

/-!
Help about the program and about each of its commands: what it is for, how it is used, and
tables of what can be written. The second column of a table begins two places behind the
longest entry of the first. Options are listed as their rules are, with the flag for more
detail behind the first of them and the request for help behind all. Lines are not broken,
however long a value in them is.
-/

namespace JFlexReport.CommandLine

def programName : String := "jfx"

/-! ### Tables -/

structure Row where
  entry : String
  about : String

def Row.line (width : Nat) (r : Row) : String :=
  "  " ++ r.entry ++ String.ofList (List.replicate (width - r.entry.length + 2) ' ') ++ r.about ++
    "\n"

def table (heading : String) (rows : List Row) : String :=
  let width := rows.foldl (fun n r => max n r.entry.length) 0
  "\n" ++ heading ++ ":\n" ++ String.join (rows.map (Row.line width))

/-! ### Options -/

/-- An option with the name of its value, which is written in capitals. -/
def OptionRule.form (rule : OptionRule) : String :=
  "--" ++ rule.name ++ " <" ++ (rule.name.map fun c => if c = '-' then '_' else c.toUpper) ++ ">"

def standInNote (env : String → Option String) (name : String) : String :=
  "[env: " ++ name ++ "=" ++ (env name).getD "" ++ "]"

def choicesNotes : List String → List String
  | [] => []
  | c :: cs => ["[default: " ++ c ++ "]", "[possible values: " ++ ", ".intercalate (c :: cs) ++ "]"]

/-- Values have no short forms; their place stays empty. -/
def OptionRule.row (env : String → Option String) (rule : OptionRule) : Row :=
  let notes := (rule.standIn.map (standInNote env)).toList ++ choicesNotes rule.choices
  { entry := "    " ++ rule.form
    about := " ".intercalate ((if rule.about.isEmpty then [] else [rule.about]) ++ notes) }

def detailRow : Row := ⟨"-v, --verbose...", "Show more logs (repeat for more detail)"⟩

def helpRow : Row := ⟨"-h, --help", "Print help"⟩

def versionRow : Row := ⟨"-V, --version", "Print version"⟩

def optionRows (env : String → Option String) : List OptionRule → List Row
  | [] => [detailRow, helpRow]
  | rule :: rules => rule.row env :: detailRow :: rules.map (OptionRule.row env) ++ [helpRow]

/-! ### Texts -/

def Topic.about : Topic → String
  | .program =>
    "Classifies the console output of the JFlex lexer generator into structured diagnostics"
  | .classify => "Classify the captured output of a JFlex run"
  | .checkConfig => "Check that JFlex is configured well enough to be launched"
  | .help => "Print this message or the help of the given subcommand(s)"

/-- How a command with options is used. Options that must be given are named. -/
def optionsUsage (name : String) (rules : List OptionRule) : String :=
  let required := (rules.filter OptionRule.isRequired).map fun rule => " " ++ rule.form
  name ++ " [OPTIONS]" ++ String.join required

def Topic.usage : Topic → String
  | .program => "[OPTIONS] <COMMAND>"
  | .classify => optionsUsage classifyName classifyRules
  | .checkConfig => optionsUsage checkConfigName checkConfigRules
  | .help => helpName ++ " [COMMAND]..."

def Topic.tables (env : String → Option String) : Topic → String
  | .program =>
    table "Commands" [⟨classifyName, Topic.classify.about⟩,
      ⟨checkConfigName, Topic.checkConfig.about⟩, ⟨helpName, Topic.help.about⟩] ++
    table "Options" [detailRow, helpRow, versionRow]
  | .classify => table "Options" (optionRows env classifyRules)
  | .checkConfig => table "Options" (optionRows env checkConfigRules)
  | .help => table "Arguments" [⟨"[COMMAND]...", "Print help for the subcommand(s)"⟩]

def helpText (env : String → Option String) (topic : Topic) : String :=
  topic.about ++ "\n\nUsage: " ++ programName ++ " " ++ topic.usage ++ "\n" ++ topic.tables env

end JFlexReport.CommandLine
