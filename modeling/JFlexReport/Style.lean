/-!
Terminal styling. A tone says what a span of text means; on a colored palette it is written
as one escape sequence, the text, and the sequence that takes the style back, on a plain
palette as the text alone.
-/

namespace JFlexReport

inductive Palette
  | plain | colored
  deriving DecidableEq

inductive Tone
  | success | error | warning | info | code | emphasis
  deriving DecidableEq

namespace Tone

/-- The parameter of the sequence that starts the style: a foreground color, or bold. -/
def start : Tone → String
  | .success => "32"
  | .error => "31"
  | .warning => "33"
  | .info => "36"
  | .code => "90"
  | .emphasis => "1"

/-- The parameter that takes the style back: default foreground, or everything off. -/
def stop : Tone → String
  | .emphasis => "0"
  | _ => "39"

end Tone

/-- Selects a graphic rendition. -/
def sgr (parameter : String) : String := "\x1b[" ++ parameter ++ "m"

def paint (p : Palette) (t : Tone) (text : String) : String :=
  match p with
  | .plain => text
  | .colored => sgr t.start ++ text ++ sgr t.stop

namespace Symbol

def success : String := "✓"

def error : String := "❌"

def warning : String := "⚠️"

end Symbol

def separator (p : Palette) : String :=
  paint p .info (String.ofList (List.replicate 80 '─'))

def headerLines (p : Palette) (title : String) : List String :=
  [separator p, paint p .emphasis (" " ++ title ++ " "), separator p]

def header (p : Palette) (title : String) : String :=
  separator p ++ "\n" ++ paint p .emphasis (" " ++ title ++ " ") ++ "\n" ++ separator p

end JFlexReport
