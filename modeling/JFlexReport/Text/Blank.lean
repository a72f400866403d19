/-!
Blank characters. A text counts as blank when all its characters have the Unicode property
White_Space; the table lists the 25 code points that have it. The six blanks of ASCII are a
class of their own, for the places where wider spaces do not count.
-/

namespace JFlexReport.Text

/-- The Unicode property White_Space. -/
def isBlank (c : Char) : Bool :=
  let n := c.toNat
  (0x09 ≤ n && n ≤ 0x0D) || n == 0x20 || n == 0x85 || n == 0xA0 || n == 0x1680 ||
    (0x2000 ≤ n && n ≤ 0x200A) || n == 0x2028 || n == 0x2029 || n == 0x202F || n == 0x205F ||
    n == 0x3000

/-- Nothing in the text can be seen. -/
def allBlank (s : List Char) : Bool := s.all isBlank

theorem allBlank_eq_false_iff (s : List Char) : allBlank s = false ↔ ∃ c ∈ s, ¬isBlank c := by
  simp [allBlank]

/-- Tab, line feed, vertical tab, form feed, carriage return and space. -/
def isAsciiBlank (c : Char) : Bool :=
  c == ' ' || (0x09 ≤ c.toNat && c.toNat ≤ 0x0D)

end JFlexReport.Text
