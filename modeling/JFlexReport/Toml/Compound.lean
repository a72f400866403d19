import JFlexReport.Toml.Key

/-!
TOML values of every kind. Arrays may run over lines and hold comments; inline tables stay
on one line, and their dotted keys obey the rules of tables. A reading carries the proof
that what it leaves is shorter, which is what ends the loops over items.
-/

namespace JFlexReport.Toml

/-- What is left of a text once its front is read. -/
abbrev Rest (s : List Char) := { r : List Char // r.length < s.length }

abbrev NodeReader := (s : List Char) → Option (Node × Rest s)

namespace Compound

/-- The text behind a comment, from its line end on. -/
def afterComment (s : List Char) : List Char := s.dropWhile isTextChar

theorem length_afterComment_lt {c : Char} {s r : List Char} (h : afterComment s = c :: r) :
    r.length < s.length := by
  have hle := Scalar.length_dropWhile_le isTextChar s
  rw [afterComment] at h
  rw [h, List.length_cons] at hle
  omega

/-- Takes blanks, line ends and whole comments away. -/
def skipTrivia (s : List Char) : List Char :=
  match s with
  | ' ' :: r => skipTrivia r
  | '\t' :: r => skipTrivia r
  | '\n' :: r => skipTrivia r
  | '\r' :: '\n' :: r => skipTrivia r
  | '#' :: r =>
    match _h : afterComment r with
    | '\n' :: t => skipTrivia t
    | '\r' :: '\n' :: t => skipTrivia t
    | _ => '#' :: r
  | r => r
termination_by s.length
decreasing_by
  · exact Nat.lt_succ_self _
  · exact Nat.lt_succ_self _
  · exact Nat.lt_succ_self _
  · exact Nat.lt_succ_of_lt (Nat.lt_succ_self _)
  · exact Nat.lt_succ_of_lt (length_afterComment_lt _h)
  · exact Nat.lt_succ_of_lt (Nat.lt_of_succ_lt (length_afterComment_lt _h))

theorem length_skipTrivia_le (s : List Char) : (skipTrivia s).length ≤ s.length := by
  fun_induction skipTrivia s with
  | case5 r t h ih =>
    have := length_afterComment_lt h
    simp only [List.length_cons]
    omega
  | case6 r t h ih =>
    have := length_afterComment_lt h
    simp only [List.length_cons] at *
    omega
  | case1 | case2 | case3 | case4 => simp only [List.length_cons]; omega
  | case7 | case8 => exact Nat.le_refl _

/-- The items of an array behind its opening bracket, and the rest behind the closing one. -/
def items (item : NodeReader) (s : List Char) : Option (List Node × Rest s) :=
  have hs := length_skipTrivia_le s
  match h : skipTrivia s with
  | ']' :: r => some ([], ⟨r, by rw [h, List.length_cons] at hs; omega⟩)
  | t =>
    match item t with
    | none => none
    | some (v, ⟨r, hr⟩) =>
      have hr' := length_skipTrivia_le r
      match h' : skipTrivia r with
      | ']' :: r' =>
        some ([v], ⟨r', by rw [h] at hs; rw [h', List.length_cons] at hr'; omega⟩)
      | ',' :: r' =>
        have hlt : r'.length < s.length := by
          rw [h] at hs; rw [h', List.length_cons] at hr'; omega
        match items item r' with
        | none => none
        | some (vs, ⟨q, hq⟩) => some (v :: vs, ⟨q, by omega⟩)
      | _ => none
termination_by s.length

/-- A key and a value with an equals sign between them, and the rest behind the blanks that
follow the value. -/
def pair? (item : NodeReader) (s : List Char) :
    Option (List String × Node × Rest s) :=
  match hk : Key.read? s with
  | some (ks, '=' :: r) =>
    have h₁ := Key.read?_shorter hk
    have h₂ := Key.length_skipSpace_le r
    match item (Key.skipSpace r) with
    | some (v, ⟨q, hq⟩) =>
      have h₃ := Key.length_skipSpace_le q
      some (ks, v, ⟨Key.skipSpace q, by rw [List.length_cons] at h₁; omega⟩)
    | none => none
  | _ => none

def pairs (item : NodeReader) (s : List Char) : Option (List (List String × Node) × Rest s) :=
  match pair? item s with
  | none => none
  | some (ks, v, r) =>
    have hr := r.2
    match h : r.1 with
    | '\x7d' :: q => some ([(ks, v)], ⟨q, by rw [h, List.length_cons] at hr; omega⟩)
    | ',' :: q =>
      have hlt : q.length < s.length := by rw [h, List.length_cons] at hr; omega
      match pairs item q with
      | none => none
      | some (kvs, ⟨t, ht⟩) => some ((ks, v) :: kvs, ⟨t, by omega⟩)
    | _ => none
termination_by s.length

/-- An inline table behind its opening brace, as its pairs. -/
def inlinePairs (item : NodeReader) (s : List Char) :
    Option (List (List String × Node) × Rest s) :=
  have hs := Key.length_skipSpace_le s
  match h : Key.skipSpace s with
  | '\x7d' :: r => some ([], ⟨r, by rw [h, List.length_cons] at hs; omega⟩)
  | _ => pairs item s

def putKey (es : Entries) (ks : List String) (v : Node) : Option Entries :=
  match ks.getLast? with
  | some k => es.put ks.dropLast k v
  | none => none

def entriesOf (kvs : List (List String × Node)) : Option Entries :=
  kvs.foldlM (fun es (ks, v) => putKey es ks v) []

/-- A value at the front of a text; arrays and inline tables may nest `depth` levels deep. -/
def value (depth : Nat) : NodeReader := fun s =>
  match s, depth with
  | '[' :: r, d + 1 =>
    match items (value d) r with
    | some (vs, ⟨q, hq⟩) => some (.array vs, ⟨q, by rw [List.length_cons]; omega⟩)
    | none => none
  | '\x7b' :: r, d + 1 =>
    match inlinePairs (value d) r with
    | some (kvs, ⟨q, hq⟩) =>
      (entriesOf kvs).map fun es => (.inlineTable es, ⟨q, by rw [List.length_cons]; omega⟩)
    | none => none
  | s, _ =>
    match h : Quoting.read? s with
    | some (cs, r) => some (.string (String.ofList cs), ⟨r, Quoting.read?_shorter h⟩)
    | none =>
      match h' : Scalar.read? s with
      | some (v, r) => some (v, ⟨r, Scalar.read?_shorter h'⟩)
      | none => none

end Compound

def Node.read? : NodeReader := Compound.value (nestingLimit - 1)

end JFlexReport.Toml
