import JFlexReport.Text.Lines

/-!
File paths as texts. A path is kept as it was written: joining adds a name and at most one
slash, and nothing is ever resolved or normalized. Only the way up reads a path as steps:
empty steps and steps of one point are idle and vanish at the end of a path, except for a
point that begins it.
-/

namespace JFlexReport

open Text

structure Path where
  text : String
  deriving DecidableEq

namespace Path

def isSlash (c : Char) : Bool := c == '/'

def join (p : Path) (name : String) : Path :=
  if p.text.isEmpty || p.text.toList.getLast? == some '/' then ⟨p.text ++ name⟩
  else ⟨p.text ++ "/" ++ name⟩

def isAbsolute (p : Path) : Bool := p.text.toList.head? == some '/'

/-- The steps of a path, idle ones included. -/
def steps (p : Path) : List String := (splitEach isSlash p.text.toList).map String.ofList

/-! ### The way up -/

/-- Takes idle steps away from the end of a path that is spelled backwards. -/
def dropIdle : List Char → List Char
  | '/' :: s => dropIdle s
  | ['.'] => []
  | '.' :: '/' :: s => dropIdle s
  | s => s

theorem length_dropIdle_le (s : List Char) : (dropIdle s).length ≤ s.length := by
  fun_induction dropIdle s <;> simp_all <;> omega

/-- What a path begins with before its steps: the root, a point that stands for the current
directory, or nothing. -/
def splitHead : List Char → List Char × List Char
  | '/' :: s => (['/'], s)
  | ['.'] => (['.'], [])
  | '.' :: '/' :: s => (['.'], '/' :: s)
  | s => ([], s)

theorem length_splitHead (s : List Char) :
    (splitHead s).1.length + (splitHead s).2.length = s.length := by
  unfold splitHead
  split <;> simp <;> omega

def parentChars? (s : List Char) : Option (List Char) :=
  let (head, body) := splitHead s
  match dropIdle body.reverse with
  | [] => if head = ['.'] then some [] else none
  | _ :: r => some (head ++ (dropIdle (r.dropWhile fun c => !isSlash c)).reverse)

theorem parentChars?_shorter {s r : List Char} (h : parentChars? s = some r) :
    r.length < s.length := by
  have hs := length_splitHead s
  unfold parentChars? at h
  simp only at h
  have hd := length_dropIdle_le (splitHead s).2.reverse
  split at h
  · split at h
    · rename_i hh
      simp only [Option.some.injEq] at h
      rw [hh] at hs
      simp only [List.length_cons, List.length_nil] at hs
      rw [← h, List.length_nil]
      omega
    · simp at h
  · rename_i c t ht
    simp only [Option.some.injEq] at h
    have h₁ := length_dropIdle_le (t.dropWhile fun c => !isSlash c)
    have h₂ : (t.dropWhile fun c => !isSlash c).length ≤ t.length :=
      (List.dropWhile_suffix _).length_le
    rw [ht, List.length_cons, List.length_reverse] at hd
    rw [← h, List.length_append, List.length_reverse]
    omega

/-- The directory that a path lies in, as far as the path itself tells. -/
def parent? (p : Path) : Option Path :=
  (parentChars? p.text.toList).map fun s => ⟨String.ofList s⟩

theorem parent?_shorter {p q : Path} (h : p.parent? = some q) :
    q.text.length < p.text.length := by
  simp only [parent?, Option.map_eq_some_iff] at h
  obtain ⟨s, hs, rfl⟩ := h
  have := parentChars?_shorter hs
  rw [String.length_toList] at this
  simpa using this

/-- The path, its parent, the parent of that, and so on. -/
def ancestors (p : Path) : List Path :=
  p :: match h : p.parent? with
    | some q =>
      have := parent?_shorter h
      ancestors q
    | none => []
termination_by p.text.length

end Path

end JFlexReport
