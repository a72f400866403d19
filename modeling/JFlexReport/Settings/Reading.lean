import JFlexReport.Decimal.Shortest
import JFlexReport.Settings
import JFlexReport.Text.Utf8
import JFlexReport.Toml.Document

/-!
Settings from documents. A document may hold the three settings and nothing else, each as a
string; its entries are checked in order, and the first that does not fit decides the
problem. A settings file is looked for in a directory and then in those above it. A file
that was found but cannot be used counts as empty settings, with a record that says so.
-/

namespace JFlexReport.Settings

open Text Log

/-- Why a document holds no settings. -/
inductive Problem
  | malformed
  | unknownField (name : String)
  | invalidType (found : String) (expected : String)
  deriving DecidableEq

/-- What the problem says about itself; how a malformed document is malformed stays open. -/
def Problem.message? : Problem → Option String
  | .malformed => none
  | .unknownField name =>
    some ("unknown field `" ++ name ++ "`, expected one of `home`, `skeleton`, `options`")
  | .invalidType found expected => some ("invalid type: " ++ found ++ ", expected " ++ expected)

/-- The problem under its heading. The place in the document is not pointed out. -/
def Problem.text (p : Problem) : String :=
  "TOML parse error\n" ++ (p.message?.map (· ++ "\n")).getD ""

/-- The kind of a value, with the value where it is short. -/
def kindOf : Toml.Node → String
  | .string s => "string \"" ++ s ++ "\""
  | .integer n => "integer `" ++ String.ofList (signedNumeral n) ++ "`"
  | .float x => "floating point `" ++ String.ofList x.text ++ "`"
  | .boolean true => "boolean `true`"
  | .boolean false => "boolean `false`"
  | .array _ | .tables _ => "sequence"
  | .moment _ | .inlineTable _ | .table .. => "map"

def stringOr (expected : String) : Toml.Node → Except Problem String
  | .string s => .ok s
  | v => .error (.invalidType (kindOf v) expected)

def pathOr (v : Toml.Node) : Except Problem Path :=
  (stringOr "path string" v).map Path.mk

def takeEntry (s : Settings) : String × Toml.Node → Except Problem Settings
  | (k, v) =>
    if k = "home" then (pathOr v).map fun p => { s with home := some p }
    else if k = "skeleton" then (pathOr v).map fun p => { s with skeleton := some p }
    else if k = "options" then
      (stringOr "a string" v).map fun t => { s with options := some t }
    else .error (.unknownField k)

def ofEntries (es : Toml.Entries) : Except Problem Settings := es.foldlM takeEntry {}

def ofDocument (s : List Char) : Except Problem Settings :=
  match Toml.Entries.ofDocument s with
  | some es => ofEntries es
  | none => .error .malformed

/-! ### Files -/

/-- Why a file gives no settings. -/
inductive LoadError
  | read (path : Path) (e : ReadError)
  | parse (path : Path) (problem : Problem)
  deriving DecidableEq

def LoadError.message : LoadError → String
  | .read path e => "Failed to read config file " ++ path.text ++ ": " ++ e.message
  | .parse path problem => "Failed to parse config file " ++ path.text ++ ": " ++ problem.text

def readText (v : FileView) (p : Path) : Except ReadError (List Char) :=
  match v.readBytes p with
  | .ok bytes =>
    match Utf8.decode? bytes with
    | some s => .ok s
    | none => .error .notUtf8
  | .error e => .error e

/-- Settings from a file, or the reason why there are none. -/
def load? (v : FileView) (p : Path) : Except LoadError Settings :=
  match readText v p with
  | .ok s =>
    match ofDocument s with
    | .ok settings => .ok settings
    | .error problem => .error (.parse p problem)
  | .error e => .error (.read p e)

/-- What the log says about a file that gives no settings. -/
def LoadError.record : LoadError → Record
  | .read path (.lookup .notFound) =>
    ⟨.debug, .settings,
      "Config file at " ++ path.text ++ " not found. Using default configuration."⟩
  | e => ⟨.warn, .settings, e.message ++ ". Using default configuration."⟩

/-- Settings from a file, or empty ones. -/
def load (v : FileView) (p : Path) : Logged Settings :=
  match load? v p with
  | .ok settings => ⟨settings, []⟩
  | .error e => ⟨{}, [e.record]⟩

/-- The settings file in a directory or the nearest directory above it that has one. -/
def discover (v : FileView) (start : Path) : Option Path :=
  (start.ancestors.map fun d => d.join fileName).find? v.isFile

/-- Settings from the file nearest to a directory, or empty ones where there is no file. -/
def loadNearest (v : FileView) (start : Path) : Logged Settings :=
  match discover v start with
  | some p =>
    (load v p).after [⟨.debug, .settings, "Using config file " ++ p.text⟩]
  | none => ⟨{}, []⟩

end JFlexReport.Settings
