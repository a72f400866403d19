/-!
Decimal numerals. A numeral is written without leading zeros and read with any number of
them; nothing bounds its size. Main statement: a written number reads back.
-/

namespace JFlexReport.Text

def digitChar (d : Nat) : Char := Char.ofNat ('0'.toNat + d)

def digitValue (c : Char) : Nat := c.toNat - '0'.toNat

def numeral (n : Nat) : List Char :=
  if n < 10 then [digitChar n] else numeral (n / 10) ++ [digitChar (n % 10)]
termination_by n

/-- A number with a sign only where it is negative. -/
def signedNumeral : Int → List Char
  | .ofNat n => numeral n
  | .negSucc n => '-' :: numeral (n + 1)

/-- The value of a string of digits, leading zeros included. -/
def digitsValue (ds : List Char) : Nat :=
  ds.foldl (fun n d => 10 * n + digitValue d) 0

/-- An optional sign and at least one digit. -/
def readSigned? (s : List Char) : Option Int :=
  let (negative, ds) := match s with
    | '-' :: r => (true, r)
    | '+' :: r => (false, r)
    | r => (false, r)
  if ds.isEmpty || !ds.all Char.isDigit then none
  else
    let n : Int := digitsValue ds
    some (if negative then -n else n)

/-- An unsigned decimal number: digits with a point perhaps among them and an exponent perhaps
behind them, or the name of infinity or of what is no number, in any case. -/
def isDecimal (s : List Char) : Bool :=
  let name := String.ofList (s.map Char.toLower)
  let whole := s.takeWhile Char.isDigit
  let (part, rest) := match s.dropWhile Char.isDigit with
    | '.' :: r => (r.takeWhile Char.isDigit, r.dropWhile Char.isDigit)
    | r => ([], r)
  name == "inf" || name == "infinity" || name == "nan" ||
    !(whole ++ part).isEmpty &&
      match rest with
      | [] => true
      | e :: r => (e == 'e' || e == 'E') && (readSigned? r).isSome

/-! ### Written numbers read back -/

theorem digitValue_digitChar : ∀ d < 10, digitValue (digitChar d) = d := by decide

theorem isDigit_digitChar : ∀ d < 10, (digitChar d).isDigit = true := by decide

theorem digitsValue_concat (ds : List Char) (d : Char) :
    digitsValue (ds ++ [d]) = 10 * digitsValue ds + digitValue d := by
  simp [digitsValue, List.foldl_append]

theorem digitsValue_numeral (n : Nat) : digitsValue (numeral n) = n := by
  fun_induction numeral n with
  | case1 n h => simp [digitsValue, digitValue_digitChar n h]
  | case2 n h ih =>
    rw [digitsValue_concat, ih, digitValue_digitChar _ (Nat.mod_lt _ (by decide))]
    omega

theorem isDigit_of_mem_numeral {n : Nat} {c : Char} (h : c ∈ numeral n) : c.isDigit = true := by
  fun_induction numeral n with
  | case1 n hn =>
    simp only [List.mem_singleton] at h
    rw [h]
    exact isDigit_digitChar n hn
  | case2 n hn ih =>
    simp only [List.mem_append, List.mem_singleton] at h
    rcases h with h | h
    · exact ih h
    · rw [h]
      exact isDigit_digitChar _ (Nat.mod_lt _ (by decide))

theorem numeral_ne_nil (n : Nat) : numeral n ≠ [] := by
  rw [numeral]
  split <;> simp

end JFlexReport.Text
