import JFlexReport.Toml.Compound

/-!
TOML documents. A document is a list of statements, each on lines of its own: a key with its
value, or the header of a table or of an element of an array of tables. Its entries are what
the statements build up in order, and a document whose statements clash is no document.
-/

namespace JFlexReport.Toml

inductive Statement
  | pair (key : List String) (value : Node)
  | table (path : List String)
  | element (path : List String)

namespace Statement

def skipComment : List Char → List Char
  | '#' :: r => Compound.afterComment r
  | r => r

theorem length_skipComment_le (s : List Char) : (skipComment s).length ≤ s.length := by
  unfold skipComment
  split
  · rename_i r
    have := Scalar.length_dropWhile_le isTextChar r
    rw [Compound.afterComment, List.length_cons]
    omega
  · exact Nat.le_refl _

/-- The text of the next line, once nothing but blanks and a comment is left of this one. -/
def nextLine? (s : List Char) : Option (List Char) :=
  match skipComment (Key.skipSpace s) with
  | [] => some []
  | '\n' :: r => some r
  | '\r' :: '\n' :: r => some r
  | _ => none

theorem nextLine?_shorter {s r : List Char} (h : nextLine? s = some r) :
    r = [] ∨ r.length < s.length := by
  have h₁ := Key.length_skipSpace_le s
  have h₂ := length_skipComment_le (Key.skipSpace s)
  unfold nextLine? at h
  split at h
  · simp_all
  · rename_i q hq
    rw [hq, List.length_cons] at h₂
    simp only [Option.some.injEq] at h
    rw [← h]
    omega
  · rename_i q hq
    rw [hq, List.length_cons, List.length_cons] at h₂
    simp only [Option.some.injEq] at h
    rw [← h]
    omega
  · simp at h

/-- A header behind its opening bracket, up to the closing one. -/
def header? (s : List Char) : Option (Statement × List Char) :=
  match s with
  | '[' :: r =>
    match Key.read? r with
    | some (path, ']' :: ']' :: q) => some (.element path, q)
    | _ => none
  | r =>
    match Key.read? r with
    | some (path, ']' :: q) => some (.table path, q)
    | _ => none

theorem header?_shorter {s : List Char} {x : Statement} {r : List Char}
    (h : header? s = some (x, r)) : r.length < s.length := by
  unfold header? at h
  split at h
  · split at h
    · rename_i hk
      have := Key.read?_shorter hk
      simp only [Option.some.injEq, Prod.mk.injEq, List.length_cons] at *
      rw [← h.2]
      omega
    · simp at h
  · split at h
    · rename_i hk
      have := Key.read?_shorter hk
      simp only [Option.some.injEq, Prod.mk.injEq, List.length_cons] at *
      rw [← h.2]
      omega
    · simp at h

/-- A statement at the front of a text, and the rest of its line. -/
def read? (s : List Char) : Option (Statement × List Char) :=
  match s with
  | '[' :: r => header? r
  | _ => (Compound.pair? Node.read? s).map fun (ks, v, r) => (.pair ks v, r.1)

theorem read?_shorter {s : List Char} {x : Statement} {r : List Char}
    (h : read? s = some (x, r)) : r.length < s.length := by
  unfold read? at h
  split at h
  · have := header?_shorter h
    rw [List.length_cons]
    omega
  · simp only [Option.map_eq_some_iff, Prod.mk.injEq] at h
    obtain ⟨⟨ks, v, q⟩, -, -, rfl⟩ := h
    exact q.2

def line? (s : List Char) : Option (Option Statement × List Char) :=
  match nextLine? s with
  | some r => some (none, r)
  | none =>
    match read? (Key.skipSpace s) with
    | some (x, r) => (nextLine? r).map fun q => (some x, q)
    | none => none

theorem line?_shorter {s : List Char} {x : Option Statement} {r : List Char}
    (hs : s ≠ []) (h : line? s = some (x, r)) : r.length < s.length := by
  have hpos := List.length_pos_iff.2 hs
  unfold line? at h
  split at h
  · rename_i hn
    simp only [Option.some.injEq, Prod.mk.injEq] at h
    rcases nextLine?_shorter hn with h₀ | h₀ <;> rw [← h.2]
    · rw [h₀, List.length_nil]
      exact hpos
    · exact h₀
  · split at h
    · rename_i hx
      simp only [Option.map_eq_some_iff, Prod.mk.injEq] at h
      obtain ⟨q, hq, -, rfl⟩ := h
      have h₁ := read?_shorter hx
      have h₂ := Key.length_skipSpace_le s
      rcases nextLine?_shorter hq with h₀ | h₀
      · rw [h₀, List.length_nil]
        exact hpos
      · omega
    · simp at h

def readAll? (s : List Char) : Option (List Statement) :=
  if hs : s = [] then some []
  else
    match h : line? s with
    | none => none
    | some (x, r) =>
      have := line?_shorter hs h
      (readAll? r).map (x.toList ++ ·)
termination_by s.length

end Statement

/-- A document under construction: its entries, and the table that pairs go to. -/
structure Draft where
  entries : Entries := []
  path : List String := []

def Draft.add (d : Draft) : Statement → Option Draft
  | .pair key v =>
    (d.entries.atPath (fun es => Compound.putKey es key v) d.path).map fun es =>
      { d with entries := es }
  | .table path =>
    match path.getLast? with
    | some k =>
      (d.entries.atPath (Entries.openTable k) path.dropLast).map fun es =>
        { entries := es, path }
    | none => none
  | .element path =>
    match path.getLast? with
    | some k =>
      (d.entries.atPath (Entries.openElement k) path.dropLast).map fun es =>
        { entries := es, path }
    | none => none

def Entries.ofStatements (xs : List Statement) : Option Entries :=
  (xs.foldlM Draft.add {}).map Draft.entries

/-- The top-level entries of a document in their order. A byte-order mark in front does not
count. -/
def Entries.ofDocument (s : List Char) : Option Entries :=
  let s := match s with
    | '\ufeff' :: r => r
    | r => r
  (Statement.readAll? s).bind Entries.ofStatements

end JFlexReport.Toml
