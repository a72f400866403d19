/-!
Sets of characters as ascending ranges of code points, both ends included.
-/

namespace JFlexReport.Text

abbrev CodeRanges := List (Nat × Nat)

def CodeRanges.holds (rs : CodeRanges) (c : Char) : Bool :=
  rs.any fun (lo, hi) => lo ≤ c.toNat && c.toNat ≤ hi

end JFlexReport.Text
