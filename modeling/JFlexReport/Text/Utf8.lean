/-!
UTF-8, read by a machine that takes one byte at a time. Between characters the machine is
idle; inside one it knows how many bytes are still due and in which range the next one must
lie, which keeps out overlong forms, surrogates and values past U+10FFFF. A byte that cannot
continue the character ends it as one invalid sequence and is then read afresh.
-/

namespace JFlexReport.Text.Utf8

/-- Where the machine stands: idle, or `due` bytes short of a character, the next of them
between `lo` and `hi`, with the bits read so far in `value`. -/
inductive State
  | idle
  | within (due : Nat) (lo hi : UInt8) (value : Nat)
  deriving DecidableEq

/-- A character, or `none` for a sequence that is no character. -/
abbrev Decoded := Option Char

/-- Reads the first byte of a character. -/
def start (b : UInt8) : List Decoded × State :=
  if b < 0x80 then ([some (Char.ofNat b.toNat)], .idle)
  else if b < 0xC2 then ([none], .idle)
  else if b < 0xE0 then ([], .within 1 0x80 0xBF (b.toNat - 0xC0))
  else if b < 0xF0 then
    let lo := if b = 0xE0 then 0xA0 else 0x80
    let hi := if b = 0xED then 0x9F else 0xBF
    ([], .within 2 lo hi (b.toNat - 0xE0))
  else if b < 0xF5 then
    let lo := if b = 0xF0 then 0x90 else 0x80
    let hi := if b = 0xF4 then 0x8F else 0xBF
    ([], .within 3 lo hi (b.toNat - 0xF0))
  else ([none], .idle)

def feed : State → UInt8 → List Decoded × State
  | .idle, b => start b
  | .within due lo hi value, b =>
    if lo ≤ b && b ≤ hi then
      let value := 64 * value + (b.toNat - 0x80)
      if due = 1 then ([some (Char.ofNat value)], .idle)
      else ([], .within (due - 1) 0x80 0xBF value)
    else
      let (read, state) := start b
      (none :: read, state)

/-- What a byte string adds in a state, its end included. -/
def run : State → List UInt8 → List Decoded
  | .idle, [] => []
  | .within .., [] => [none]
  | state, b :: bs =>
    let (read, next) := feed state b
    read ++ run next bs

def decode (bytes : List UInt8) : List Decoded := run .idle bytes

/-- The text, with U+FFFD for each sequence that is no character. -/
def decodeLossy (bytes : List UInt8) : List Char :=
  (decode bytes).map fun c => c.getD '\ufffd'

/-- The text, if all of it is valid. -/
def decode? (bytes : List UInt8) : Option (List Char) :=
  (decode bytes).mapM id

end JFlexReport.Text.Utf8
