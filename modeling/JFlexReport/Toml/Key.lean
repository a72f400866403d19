import JFlexReport.Toml.Quoting

/-!
TOML keys: parts with points between them, each bare or a string on one line, with blanks
allowed around each part.
-/

namespace JFlexReport.Toml

/-- How deep values may nest and how many parts a key may have, both exclusive. -/
def nestingLimit : Nat := 80

namespace Key

def isBareChar (c : Char) : Bool := c.isAlphanum || c == '-' || c == '_'

def skipSpace (s : List Char) : List Char := s.dropWhile Quoting.isSpace

def part? (s : List Char) : Option (String × List Char) :=
  match Quoting.line? s with
  | some (k, r) => some (String.ofList k, r)
  | none =>
    let k := s.takeWhile isBareChar
    if k.isEmpty then none else some (String.ofList k, s.dropWhile isBareChar)

theorem part?_shorter {s : List Char} {k : String} {r : List Char}
    (h : part? s = some (k, r)) : r.length < s.length := by
  unfold part? at h
  split at h
  · rename_i k' r' hl
    simp only [Option.some.injEq, Prod.mk.injEq] at h
    rw [← h.2]
    exact Quoting.line?_shorter hl
  · simp only at h
    split at h
    · simp at h
    · rename_i hne
      simp only [Option.some.injEq, Prod.mk.injEq] at h
      have := congrArg List.length (List.takeWhile_append_dropWhile (p := isBareChar) (l := s))
      have hk : s.takeWhile isBareChar ≠ [] := fun h₀ => hne (by rw [h₀]; rfl)
      have := List.length_pos_iff.2 hk
      rw [← h.2]
      simp only [List.length_append] at *
      omega

theorem length_skipSpace_le (s : List Char) : (skipSpace s).length ≤ s.length :=
  Scalar.length_dropWhile_le _ _

/-- The parts of a key, and the rest behind the blanks that follow it. -/
def parts? (s : List Char) : Option (List String × List Char) :=
  match h : part? (skipSpace s) with
  | none => none
  | some (k, r) =>
    match hr : skipSpace r with
    | '.' :: r' =>
      have : r'.length < s.length := by
        have h₁ := part?_shorter h
        have h₂ := length_skipSpace_le s
        have h₃ := length_skipSpace_le r
        rw [hr, List.length_cons] at h₃
        omega
      (parts? r').map fun (ks, rest) => (k :: ks, rest)
    | r' => some ([k], r')
termination_by s.length

theorem parts?_shorter {s : List Char} {ks : List String} {r : List Char}
    (h : parts? s = some (ks, r)) : r.length < s.length := by
  fun_induction parts? s generalizing ks r with
  | case1 => simp at h
  | case2 s k t hk t' hr hlt ih =>
    simp only [Option.map_eq_some_iff, Prod.mk.injEq] at h
    obtain ⟨⟨ks', r'⟩, h', -, rfl⟩ := h
    exact Nat.lt_trans (ih h') hlt
  | case3 s k t hk _ =>
    have h₁ := part?_shorter hk
    have h₂ := length_skipSpace_le s
    have h₃ := length_skipSpace_le t
    simp only [Option.some.injEq, Prod.mk.injEq] at h
    rw [← h.2]
    omega

def read? (s : List Char) : Option (List String × List Char) :=
  match parts? s with
  | some (ks, r) => if ks.length < nestingLimit then some (ks, r) else none
  | none => none

theorem read?_shorter {s : List Char} {ks : List String} {r : List Char}
    (h : read? s = some (ks, r)) : r.length < s.length := by
  unfold read? at h
  split at h
  · rename_i hp
    split at h
    · simp only [Option.some.injEq, Prod.mk.injEq] at h
      rw [← h.2]
      exact parts?_shorter hp
    · simp at h
  · simp at h

end Key

end JFlexReport.Toml
