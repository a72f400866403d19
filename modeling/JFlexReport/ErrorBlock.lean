import JFlexReport.LineReader
import JFlexReport.Log
import JFlexReport.Message
import JFlexReport.Text.Blank
import JFlexReport.Text.Lines
import JFlexReport.Text.Quoted

/-!
Error blocks in the output of a lexer generator. A block is four lines:

    Error in file "JFlex.flex" (line 72):
    Syntax error.
    <LEXICAL_RULES> {
          ^

the marker, the message, the line of the specification that it is about, and a pointer to
the column. The line number is what stands in `(line <digits>):` at the end of the marker,
blanks aside. The pointer gives a column when nothing but spaces stands before its `^`; a
pointer line of spaces only leaves the column open; anything else is no pointer at all.
-/

namespace JFlexReport

open Text Log

/-- How a marker line begins. -/
def errorMarker : String := "Error in file"

/-- How the notice begins that a run prints about its own skeleton file. -/
def skeletonNotice : String := "Reading skeleton file"

/-- The lines of a block behind its marker. -/
def blockTail : Nat := 3

def isMarker (l : Line) : Bool := errorMarker.toList.isPrefixOf l

def isNotice (l : Line) : Bool := skeletonNotice.toList.isPrefixOf l

/-! ### The line number -/

/-- The digits of `(line <digits>):`, if that and blanks behind it are all of `s`. -/
def lineSuffix? : List Char → Option (List Char)
  | '(' :: 'l' :: 'i' :: 'n' :: 'e' :: b :: s =>
    let digits := s.takeWhile Char.isDigit
    match s.dropWhile Char.isDigit with
    | ')' :: ':' :: blanks =>
      if isAsciiBlank b && !digits.isEmpty && blanks.all isAsciiBlank then some digits else none
    | _ => none
  | _ => none

/-- The digits of the suffix, wherever it begins. -/
def lineDigits? : List Char → Option (List Char)
  | [] => none
  | c :: s => (lineSuffix? (c :: s)).or (lineDigits? s)

inductive LineNumber
  | absent
  | known (line : UInt32)
  | tooLarge
  deriving DecidableEq

namespace LineNumber

def ofMarker (marker : Line) : LineNumber :=
  match lineDigits? marker with
  | none => .absent
  | some digits =>
    let n := digitsValue digits
    if n < UInt32.size then .known (UInt32.ofNat n) else .tooLarge

def line? : LineNumber → Option UInt32
  | .known n => some n
  | _ => none

/-- A number that does not fit is reported to the log and otherwise left out. -/
def records (marker : Line) : LineNumber → List Record
  | .tooLarge =>
    [⟨.debug, .parser, "Ignoring unusable line number in " ++ String.ofList (quoted marker) ++
      ": number too large to fit in target type"⟩]
  | _ => []

end LineNumber

/-! ### The pointer -/

inductive Pointer
  | column (n : UInt32)
  | blank
  | foreign
  deriving DecidableEq

namespace Pointer

/-- Reads a pointer line behind `k` spaces. -/
def behind (k : Nat) : List Char → Pointer
  | [] => .blank
  | ' ' :: s => behind (k + 1) s
  | '^' :: _ => if k + 1 < UInt32.size then .column (UInt32.ofNat (k + 1)) else .blank
  | _ => .foreign

def ofLine (l : Line) : Pointer := behind 0 l

def column? : Pointer → Option UInt32
  | .column n => some n
  | _ => none

end Pointer

/-- The error that a block reports. -/
def blockError (marker text pointer : Line) : Message :=
  .positioned (String.ofList text) (LineNumber.ofMarker marker).line?
    (Pointer.ofLine pointer).column?

end JFlexReport
