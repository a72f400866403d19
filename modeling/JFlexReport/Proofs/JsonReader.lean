import Mathlib.Algebra.Field.Rat
import Mathlib.Tactic.Lemma
import JFlexReport.Json

/-!
Reading JSON texts, whoever wrote them.

A text is one value with blanks around it. The reader takes every layout and every spelling
that the format knows: blanks between any two parts, escapes for any character, two in a row
for one beyond U+FFFF, numbers with a fraction and an exponent. It refuses everything else.
The fields of an object come in the order of the text. A reading leaves less than it was
given, so the loop over the entries of an array or an object ends, and brackets can nest no
deeper than the text is long.
-/

namespace JFlexReport.Json

open Text

/-- What a JSON text says. -/
inductive Value
  | null
  | bool (b : Bool)
  | number (q : ℚ)
  | string (s : String)
  | array (items : List Value)
  | object (fields : List (String × Value))

/-- Reads something at the front of a text, and leaves less of it. -/
structure Reader (α : Type) where
  read? : List Char → Option (α × List Char)
  shorter : ∀ {s r : List Char} {x : α}, read? s = some (x, r) → r.length < s.length

def isSpace (c : Char) : Bool := c == ' ' || c == '\t' || c == '\n' || c == '\r'

def skip (s : List Char) : List Char := s.dropWhile isSpace

lemma exists_of_map {α β : Type} {f : α → β} {o : Option (α × List Char)} {y : β}
    {r : List Char} (h : o.map (Prod.map f id) = some (y, r)) : ∃ x, o = some (x, r) := by
  obtain ⟨⟨x, r⟩, hx, heq⟩ := Option.map_eq_some_iff.mp h
  cases heq
  exact ⟨x, hx⟩

lemma length_skip_le (s : List Char) : (skip s).length ≤ s.length :=
  (List.dropWhile_sublist isSpace).length_le

lemma length_of_skip {s r : List Char} {c : Char} (h : skip s = c :: r) : r.length < s.length := by
  have := length_skip_le s
  rw [h, List.length_cons] at this
  omega

/-! ### Strings -/

/-- A character beyond U+FFFF. The digits of its first half were read before, those of the
second come in an escape of their own. -/
def pair? (first : List Char) : List Char → Option (Char × List Char)
  | '\\' :: 'u' :: a :: b :: c :: d :: s =>
    let second := [a, b, c, d]
    if !(first ++ second).all isHexDigit then none
    else
      let high := valueIn 16 first
      let low := valueIn 16 second
      if 0xD800 ≤ high ∧ high < 0xDC00 ∧ 0xDC00 ≤ low ∧ low < 0xE000 then
        some (Char.ofNat (0x10000 + 0x400 * (high - 0xD800) + (low - 0xDC00)), s)
      else none
  | _ => none

/-- What an escape stands for, read behind its backslash. -/
def escape? : List Char → Option (Char × List Char)
  | '"' :: s => some ('"', s)
  | '\\' :: s => some ('\\', s)
  | '/' :: s => some ('/', s)
  | 'b' :: s => some ('\x08', s)
  | 'f' :: s => some ('\x0c', s)
  | 'n' :: s => some ('\n', s)
  | 'r' :: s => some ('\r', s)
  | 't' :: s => some ('\t', s)
  | 'u' :: a :: b :: c :: d :: s =>
    match charOfHex? [a, b, c, d] with
    | some x => some (x, s)
    | none => pair? [a, b, c, d] s
  | _ => none

lemma pair?_shorter {first s r : List Char} {x : Char} (h : pair? first s = some (x, r)) :
    r.length < s.length := by
  unfold pair? at h
  split at h
  · simp only [Option.ite_none_left_eq_some, Option.ite_none_right_eq_some, Option.some.injEq,
      Prod.mk.injEq] at h
    obtain ⟨-, -, -, rfl⟩ := h
    simp only [List.length_cons]; omega
  · cases h

lemma escape?_shorter {s r : List Char} {x : Char} (h : escape? s = some (x, r)) :
    r.length < s.length := by
  unfold escape? at h
  split at h
  case h_9 a b c d s =>
    have hs : s.length < ('u' :: a :: b :: c :: d :: s).length := by
      simp only [List.length_cons]; omega
    split at h
    · cases h
      exact hs
    · exact (pair?_shorter h).trans hs
  case h_10 => cases h
  all_goals
    cases h
    simp

def chars? (s : List Char) : Option (List Char × List Char) :=
  match s with
  | [] => none
  | '"' :: r => some ([], r)
  | '\\' :: r =>
    match h : escape? r with
    | none => none
    | some (c, r') =>
      have := escape?_shorter h
      (chars? r').map (Prod.map (c :: ·) id)
  | c :: r => if c.toNat < 0x20 then none else (chars? r).map (Prod.map (c :: ·) id)
termination_by s.length

lemma chars?_shorter {s cs r : List Char} (h : chars? s = some (cs, r)) : r.length < s.length := by
  fun_induction chars? s generalizing cs with
  | case1 => cases h
  | case2 s => cases h; simp
  | case3 s he => cases h
  | case4 s c t he hlt ih =>
    obtain ⟨ds, hds⟩ := exists_of_map h
    have := ih hds
    simp only [List.length_cons]; omega
  | case5 c s _ _ hc => cases h
  | case6 c s _ _ hc ih =>
    obtain ⟨ds, hds⟩ := exists_of_map h
    have := ih hds
    simp only [List.length_cons]; omega

/-! ### Numbers -/

def digits? (s : List Char) : Option (List Char × List Char) :=
  if (s.takeWhile Char.isDigit).isEmpty then none
  else some (s.takeWhile Char.isDigit, s.dropWhile Char.isDigit)

/-- The digits in front of the point: behind a zero there are no more. -/
def whole? : List Char → Option (List Char × List Char)
  | '0' :: s => some (['0'], s)
  | s => digits? s

/-- The digits behind the point, if there is one. -/
def fraction? : List Char → Option (List Char × List Char)
  | '.' :: s => digits? s
  | s => some ([], s)

def signed? : List Char → Option (ℤ × List Char)
  | '-' :: s => (digits? s).map (Prod.map (fun ds => -(digitsValue ds : ℤ)) id)
  | '+' :: s => (digits? s).map (Prod.map (fun ds => (digitsValue ds : ℤ)) id)
  | s => (digits? s).map (Prod.map (fun ds => (digitsValue ds : ℤ)) id)

/-- The power of ten, if one is given. -/
def exponent? : List Char → Option (ℤ × List Char)
  | c :: s => if c = 'e' ∨ c = 'E' then signed? s else some (0, c :: s)
  | [] => some (0, [])

def magnitude? (s : List Char) : Option (ℚ × List Char) := do
  let (whole, s) ← whole? s
  let (part, s) ← fraction? s
  let (power, s) ← exponent? s
  return (digitsValue (whole ++ part) * 10 ^ (power - part.length), s)

def number? : List Char → Option (ℚ × List Char)
  | '-' :: s => (magnitude? s).map (Prod.map (-·) id)
  | s => magnitude? s

lemma digits?_shorter {s ds r : List Char} (h : digits? s = some (ds, r)) :
    r.length < s.length := by
  obtain ⟨hne, heq⟩ := Option.ite_none_left_eq_some.mp h
  cases heq
  have := congrArg List.length (List.takeWhile_append_dropWhile (p := Char.isDigit) (l := s))
  rw [List.isEmpty_iff, ← List.length_eq_zero_iff] at hne
  rw [List.length_append] at this
  omega

lemma whole?_shorter {s ds r : List Char} (h : whole? s = some (ds, r)) : r.length < s.length := by
  unfold whole? at h
  split at h
  · cases h
    simp
  · exact digits?_shorter h

lemma length_fraction?_le {s ds r : List Char} (h : fraction? s = some (ds, r)) :
    r.length ≤ s.length := by
  unfold fraction? at h
  split at h
  · have := digits?_shorter h
    simp only [List.length_cons]; omega
  · cases h
    exact le_rfl

lemma signed?_shorter {s r : List Char} {n : ℤ} (h : signed? s = some (n, r)) :
    r.length < s.length := by
  unfold signed? at h
  split at h
  case h_3 =>
    obtain ⟨ds, hds⟩ := exists_of_map h
    exact digits?_shorter hds
  all_goals
    obtain ⟨ds, hds⟩ := exists_of_map h
    have := digits?_shorter hds
    simp only [List.length_cons]; omega

lemma length_exponent?_le {s r : List Char} {n : ℤ} (h : exponent? s = some (n, r)) :
    r.length ≤ s.length := by
  unfold exponent? at h
  split at h
  · split at h
    · have := signed?_shorter h
      simp only [List.length_cons]; omega
    · cases h
      exact le_rfl
  · cases h
    exact le_rfl

lemma magnitude?_shorter {s r : List Char} {q : ℚ} (h : magnitude? s = some (q, r)) :
    r.length < s.length := by
  simp only [magnitude?, bind, Option.bind_eq_some_iff] at h
  obtain ⟨⟨ds, t⟩, ht, ⟨es, u⟩, hu, ⟨n, v⟩, hv, heq⟩ := h
  cases heq
  calc
    v.length ≤ u.length := length_exponent?_le hv
    _ ≤ t.length := length_fraction?_le hu
    _ < s.length := whole?_shorter ht

lemma number?_shorter {s r : List Char} {q : ℚ} (h : number? s = some (q, r)) :
    r.length < s.length := by
  unfold number? at h
  split at h
  · obtain ⟨p, hp⟩ := exists_of_map h
    have := magnitude?_shorter hp
    simp only [List.length_cons]; omega
  · exact magnitude?_shorter h

/-! ### Values -/

def scalar? : List Char → Option (Value × List Char)
  | 'n' :: 'u' :: 'l' :: 'l' :: s => some (.null, s)
  | 't' :: 'r' :: 'u' :: 'e' :: s => some (.bool true, s)
  | 'f' :: 'a' :: 'l' :: 's' :: 'e' :: s => some (.bool false, s)
  | '"' :: s => (chars? s).map (Prod.map (.string <| String.ofList ·) id)
  | s => (number? s).map (Prod.map .number id)

lemma scalar?_shorter {s r : List Char} {v : Value} (h : scalar? s = some (v, r)) :
    r.length < s.length := by
  unfold scalar? at h
  split at h
  case h_4 =>
    obtain ⟨cs, hcs⟩ := exists_of_map h
    have := chars?_shorter hcs
    simp only [List.length_cons]; omega
  case h_5 =>
    obtain ⟨q, hq⟩ := exists_of_map h
    exact number?_shorter hq
  all_goals
    cases h
    simp only [List.length_cons]; omega

section Entries

variable {α : Type} (entry : Reader α) (close : Char)

/-- Entries with commas between them, at least one, up to the closing bracket. -/
def entries? (s : List Char) : Option (List α × List Char) :=
  match _h : entry.read? s with
  | none => none
  | some (x, r) =>
    match _hr : skip r with
    | [] => none
    | c :: t =>
      if c = close then some ([x], t)
      else if c = ',' then (entries? (skip t)).map (Prod.map (x :: ·) id)
      else none
termination_by s.length
decreasing_by
  have := entry.shorter _h
  have := length_of_skip _hr
  have := length_skip_le t
  omega

/-- What stands between brackets, perhaps nothing, read behind the opening one. -/
def enclosed? (s : List Char) : Option (List α × List Char) :=
  match skip s with
  | [] => none
  | c :: r => if c = close then some ([], r) else entries? entry close (c :: r)

variable {entry close}

lemma entries?_shorter {s r : List Char} {xs : List α} (h : entries? entry close s = some (xs, r)) :
    r.length < s.length := by
  fun_induction entries? entry close s generalizing xs with
  | case1 | case2 | case5 => cases h
  | case3 s x t hx u hu =>
    cases h
    exact (length_of_skip hu).trans (entry.shorter hx)
  | case4 s x t hx u hu _ ih =>
    obtain ⟨ys, hys⟩ := exists_of_map h
    have := ih hys
    have := length_skip_le u
    have := length_of_skip hu
    have := entry.shorter hx
    omega

lemma enclosed?_shorter {s r : List Char} {xs : List α}
    (h : enclosed? entry close s = some (xs, r)) : r.length < s.length := by
  unfold enclosed? at h
  split at h
  · cases h
  · next c t hs =>
    split at h
    · cases h
      exact length_of_skip hs
    · have := entries?_shorter h
      have := length_skip_le s
      rw [hs] at this
      omega

end Entries

namespace Reader

/-- A name, a colon and a value. -/
def member (value : Reader Value) : Reader (String × Value) where
  read?
    | '"' :: s =>
      match chars? s with
      | none => none
      | some (cs, r) =>
        match skip r with
        | ':' :: t => (value.read? (skip t)).map (Prod.map (String.ofList cs, ·) id)
        | _ => none
    | _ => none
  shorter {s r x} h := by
    split at h
    · next s =>
      split at h
      · cases h
      · next cs t ht =>
        split at h
        · next u hu =>
          obtain ⟨v, hv⟩ := exists_of_map h
          have := chars?_shorter ht
          have := length_of_skip hu
          have := length_skip_le u
          have := value.shorter hv
          simp only [List.length_cons]; omega
        · cases h
    · cases h

/-- A value with at most `n` brackets open at a time. -/
def value : ℕ → Reader Value
  | 0 => ⟨scalar?, scalar?_shorter⟩
  | n + 1 =>
    { read?
        | '[' :: s => (enclosed? (value n) ']' s).map (Prod.map .array id)
        | '\x7b' :: s => (enclosed? (value n).member '\x7d' s).map (Prod.map .object id)
        | s => scalar? s
      shorter := fun {s r x} h => by
        split at h
        case h_3 => exact scalar?_shorter h
        all_goals
          obtain ⟨xs, hxs⟩ := exists_of_map h
          have := enclosed?_shorter hxs
          simp only [List.length_cons]; omega }

end Reader

/-- The value that a whole text says. -/
def Value.ofText? (s : String) : Option Value :=
  match (Reader.value s.toList.length).read? (skip s.toList) with
  | some (v, r) => if (skip r).isEmpty then some v else none
  | none => none

end JFlexReport.Json
