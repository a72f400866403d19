import JFlexReport.Path
import JFlexReport.Text.Numeral

/-!
Requests on the command line. Flags and options may be written in any order behind their
command, each option once; a value follows its option as the next argument or behind an
equals sign, and as an argument of its own it may not look like an option unless the option
takes any value. Nothing may be left over. Arguments are read from left to right, and the
first that asks for the version or for help, or that does not fit, settles the request.
-/

namespace JFlexReport.CommandLine

open Text

inductive Format
  | text | json
  deriving DecidableEq

structure ClassifyRequest where
  exitCode : Int32
  command : String
  stdout : Option Path := none
  stderr : Option Path := none
  source : Option String := none
  format : Format := .text
  deriving DecidableEq

inductive Command
  | classify (request : ClassifyRequest)
  | checkConfig (file : Option Path)
  deriving DecidableEq

/-- What help can be asked for about. -/
inductive Topic
  | program | classify | checkConfig | help
  deriving DecidableEq

/-- What ends the reading of arguments early. -/
inductive Stop
  | version
  | help (topic : Topic)
  | usage
  deriving DecidableEq

inductive Argument
  | separator
  | long (name : String) (value : Option String)
  | short (flags : List Char)
  | word (text : String)
  deriving DecidableEq

/-- A single hyphen is a word. -/
def Argument.ofText (s : String) : Argument :=
  match s.toList with
  | ['-'] => .word s
  | ['-', '-'] => .separator
  | '-' :: '-' :: r =>
    .long (String.ofList (r.takeWhile (· != '=')))
      (match r.dropWhile (· != '=') with
        | [] => none
        | _ :: v => some (String.ofList v))
  | '-' :: r => .short r
  | _ => .word s

/-- The number of requests for more detail in a cluster of flags. -/
def flags (topic : Topic) : List Char → Except Stop Nat
  | [] => .ok 0
  | 'v' :: r => (flags topic r).map (· + 1)
  | 'h' :: _ => .error (.help topic)
  | 'V' :: _ => .error (if topic = .program then .version else .usage)
  | _ :: _ => .error .usage

/-! ### Options -/

/-- A whole number that fits into 32 bits with its sign. -/
def exitCode? (s : String) : Option Int32 :=
  match readSigned? s.toList with
  | some n =>
    if Int32.minValue.toInt ≤ n ∧ n ≤ Int32.maxValue.toInt then some (Int32.ofInt n) else none
  | none => none

/-- A path has at least one character. -/
def path? (s : String) : Option Path := if s.isEmpty then none else some ⟨s⟩

def format? (s : String) : Option Format :=
  if s = "text" then some .text else if s = "json" then some .json else none

/-- An option with a value. The value is judged as soon as it is read. What help says about
an option comes from its rule as well: the variable that stands in for it, and the values to
choose from, the first of which counts where none is given. -/
structure OptionRule where
  name : String
  anyForm : Bool := false
  isValid : String → Bool := fun _ => true
  isRequired : Bool := false
  about : String := ""
  standIn : Option String := none
  choices : List String := []

/-- Whether the value may stand in an argument of its own. -/
def OptionRule.accepts (rule : OptionRule) (value : String) : Bool :=
  rule.anyForm ||
    match Argument.ofText value with
    | .word _ => true
    | _ => false

def configVariable : String := "JFX_CONFIG"

def classifyRules : List OptionRule :=
  [{ name := "exit-code", anyForm := true, isValid := fun v => (exitCode? v).isSome,
     isRequired := true, about := "Exit code JFlex finished with" },
    { name := "command", isRequired := true,
      about := "Command line that was run, quoted in failure reports" },
    { name := "stdout", isValid := fun v => (path? v).isSome,
      about := "File holding the captured standard output" },
    { name := "stderr", isValid := fun v => (path? v).isSome,
      about := "File holding the captured standard error" },
    { name := "source",
      about := "Lexer specification the errors refer to, used as the location prefix" },
    { name := "format", isValid := fun v => (format? v).isSome, choices := ["text", "json"] }]

def checkConfigRules : List OptionRule :=
  [{ name := "config", isValid := fun v => (path? v).isSome,
     about := "Config file to use instead of the nearest jfx.toml", standIn := configVariable }]

/-- What the arguments behind a command say. -/
structure Given where
  verbosity : Nat := 0
  values : List (String × String) := []

namespace Given

def value? (g : Given) (name : String) : Option String := g.values.lookup name

def take (g : Given) (rule : OptionRule) (value : String) : Except Stop Given :=
  if rule.isValid value then .ok { g with values := (rule.name, value) :: g.values }
  else .error .usage

end Given

def options (topic : Topic) (rules : List OptionRule) :
    List String → Given → Except Stop Given
  | [], g => .ok g
  | a :: rest, g =>
    match Argument.ofText a with
    | .separator => if rest.isEmpty then .ok g else .error .usage
    | .word _ => .error .usage
    | .short fs =>
      match flags topic fs with
      | .ok n => options topic rules rest { g with verbosity := g.verbosity + n }
      | .error e => .error e
    | .long "verbose" none => options topic rules rest { g with verbosity := g.verbosity + 1 }
    | .long "help" none => .error (.help topic)
    | .long name value =>
      match rules.find? fun r => r.name = name with
      | none => .error .usage
      | some rule =>
        if (g.value? name).isSome then .error .usage
        else
          match value, rest with
          | some v, rest =>
            match g.take rule v with
            | .ok g => options topic rules rest g
            | .error e => .error e
          | none, v :: rest =>
            if rule.accepts v then
              match g.take rule v with
              | .ok g => options topic rules rest g
              | .error e => .error e
            else .error .usage
          | none, [] => .error .usage

def readOptional {α : Type} (read : String → Option α) : Option String → Option (Option α)
  | some v => (read v).map some
  | none => some none

def classifyRequest? (g : Given) : Option ClassifyRequest := do
  let exitCode ← (g.value? "exit-code").bind exitCode?
  let command ← g.value? "command"
  let stdout ← readOptional path? (g.value? "stdout")
  let stderr ← readOptional path? (g.value? "stderr")
  let format ← readOptional format? (g.value? "format")
  return { exitCode, command, stdout, stderr,
           source := g.value? "source", format := format.getD .text }

/-- The file named by an option, or else by the environment. -/
def configFile? (env : String → Option String) (g : Given) : Option (Option Path) :=
  readOptional path? ((g.value? "config").or (env configVariable))

structure Request where
  verbosity : Nat
  command : Command
  deriving DecidableEq

/-- Flags behind the command count instead of those in front of it, where there are any. -/
def totalVerbosity (before behind : Nat) : Nat := if behind = 0 then before else behind

def orUsage {α : Type} : Option α → Except Stop α
  | some a => .ok a
  | none => .error .usage

def classifyName : String := "classify"

def checkConfigName : String := "check-config"

def helpName : String := "help"

def helpAbout : List String → Stop
  | [] => .help .program
  | [name] =>
    if name = classifyName then .help .classify
    else if name = checkConfigName then .help .checkConfig
    else if name = helpName then .help .help
    else .usage
  | _ => .usage

def command (env : String → Option String) (verbosity : Nat) (name : String)
    (arguments : List String) : Except Stop Request :=
  if name = classifyName then do
    let g ← options .classify classifyRules arguments {}
    let r ← orUsage (classifyRequest? g)
    return { verbosity := totalVerbosity verbosity g.verbosity, command := .classify r }
  else if name = checkConfigName then do
    let g ← options .checkConfig checkConfigRules arguments {}
    let file ← orUsage (configFile? env g)
    return { verbosity := totalVerbosity verbosity g.verbosity, command := .checkConfig file }
  else if name = helpName then .error (helpAbout arguments)
  else .error .usage

/-- Reads all arguments, with so many requests for more detail in front of them. -/
def readFrom (env : String → Option String) (verbosity : Nat) :
    List String → Except Stop Request
  | [] => .error .usage
  | a :: rest =>
    match Argument.ofText a with
    | .word name => command env verbosity name rest
    | .short fs =>
      match flags .program fs with
      | .ok n => readFrom env (verbosity + n) rest
      | .error e => .error e
    | .long "verbose" none => readFrom env (verbosity + 1) rest
    | .long "version" none => .error .version
    | .long "help" none => .error (.help .program)
    | _ => .error .usage

def Request.ofArguments (env : String → Option String) (arguments : List String) :
    Except Stop Request :=
  readFrom env 0 arguments

end JFlexReport.CommandLine
