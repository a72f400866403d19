import JFlexReport.ErrorBlock

/-!
Classification of console output. The lines of a captured stream are read in order. A marker
with at least three lines behind it opens an error block, which becomes one error; when the
block turns out to have no pointer line, only its marker and message are used up, and the
other two lines are read again as ordinary output. Every other line is chatter, except that
empty lines and the skeleton notice are dropped. Nothing is ever an unreadable input, and a
text without visible characters holds no messages at all.
-/

namespace JFlexReport.Console

open Text Log

/-- Where a scan stands after one unit, and what it has found so far. -/
structure Progress where
  reader : LineReader Line
  messages : Messages
  records : List Record := []

/-- `n` is the pointer line's place among the lines, counted from 1. -/
def foreignPointer (n : Nat) : Record :=
  ⟨.debug, .parser, "Line " ++ String.ofList (numeral n) ++
    " is not a caret pointer, re-reading the block context as output"⟩

def readBlock (r : LineReader Line) (ms : Messages) : Progress :=
  match r.current, r.peek 1, r.peek blockTail with
  | some marker, some text, some pointer =>
    let number := LineNumber.ofMarker marker
    let ms := ms.push .error (blockError marker text pointer)
    let past := r.advance (blockTail + 1)
    if Pointer.ofLine pointer = .foreign then
      { reader := past.retreat 2, messages := ms,
        records := number.records marker ++ [foreignPointer past.position] }
    else { reader := past, messages := ms, records := number.records marker }
  | _, _, _ => { reader := r.advance 1, messages := ms }

def readChatter (r : LineReader Line) (line : Line) (ms : Messages) : Progress :=
  { reader := r.advance 1,
    messages :=
      if isNotice line || line.isEmpty then ms
      else ms.push .information (.plain (String.ofList line)) }

/-- Reads the unit that begins with the current line. -/
def step (r : LineReader Line) (line : Line) (ms : Messages) : Progress :=
  if isMarker line ∧ blockTail ≤ r.remaining then readBlock r ms else readChatter r line ms

theorem lines_step (r : LineReader Line) (line : Line) (ms : Messages) :
    (step r line ms).reader.lines = r.lines := by
  unfold step readBlock readChatter
  repeat' split
  all_goals simp

theorem position_lt_step {r : LineReader Line} {line : Line} (ms : Messages)
    (h : r.current = some line) : r.position < (step r line ms).reader.position := by
  have hr : r.position < r.lines.size := by
    simpa using LineReader.lt_size_of_peek (k := 0) h
  unfold step
  split
  · rename_i hm
    simp only [blockTail, LineReader.remaining] at hm
    unfold readBlock
    repeat' split
    all_goals simp [blockTail]; omega
  · simp [readChatter]; omega

def scan (r : LineReader Line) (ms : Messages) : Logged Messages :=
  match h : r.current with
  | none => ⟨ms, []⟩
  | some line =>
    have := position_lt_step ms h
    let p := step r line ms
    (scan p.reader p.messages).after p.records
termination_by r.lines.size - r.position
decreasing_by
  have h₂ : r.position < r.lines.size := by
    simpa using LineReader.lt_size_of_peek (k := 0) h
  rw [lines_step]
  omega

/-- Adds the messages of a captured text to those of earlier texts. -/
def parseInto (raw : String) (ms : Messages) : Logged Messages :=
  if allBlank raw.toList then ⟨ms, []⟩
  else scan (.ofList (lines raw.toList)) ms

def parse (raw : String) : Logged Messages := parseInto raw .empty

/-- The messages of both streams of a run, those of standard output first. -/
def parseStreams (stdout stderr : String) : Logged Messages := do
  let ms ← parse stdout
  parseInto stderr ms

end JFlexReport.Console
