import JFlexReport.Toml.Scalar

/-!
TOML strings. Basic strings stand between double quotes and know escapes; literal strings
stand between apostrophes and know none. Either kind may span lines between three quotes,
where up to two more may stand in front of the closing ones. Line ends inside a string are
line feeds, however they are written.
-/

namespace JFlexReport.Toml

open Text

/-- Visible characters, space, tab and everything beyond ASCII. -/
def isTextChar (c : Char) : Bool := c == '\t' || (0x20 ≤ c.toNat && c != '\x7f')

namespace Quoting

/-- What an escape stands for, read behind its backslash, and the rest. -/
def escape? : List Char → Option (Char × List Char)
  | 'b' :: s => some ('\x08', s)
  | 't' :: s => some ('\t', s)
  | 'n' :: s => some ('\n', s)
  | 'f' :: s => some ('\x0c', s)
  | 'r' :: s => some ('\r', s)
  | '"' :: s => some ('"', s)
  | '\\' :: s => some ('\\', s)
  | 'u' :: a :: b :: c :: d :: s => (charOfHex? [a, b, c, d]).map fun x => (x, s)
  | 'U' :: a :: b :: c :: d :: e :: f :: g :: h :: s =>
    (charOfHex? [a, b, c, d, e, f, g, h]).map fun x => (x, s)
  | _ => none

theorem escape?_shorter {s : List Char} {c : Char} {r : List Char}
    (h : escape? s = some (c, r)) : r.length < s.length := by
  unfold escape? at h
  split at h
  case h_8 | h_9 =>
    simp only [Option.map_eq_some_iff, Prod.mk.injEq] at h
    obtain ⟨x, -, -, rfl⟩ := h
    simp only [List.length_cons]
    omega
  case h_10 => simp at h
  all_goals
    simp only [Option.some.injEq, Prod.mk.injEq] at h
    simp [← h.2]

def basic? (s : List Char) : Option (List Char × List Char) :=
  match s with
  | [] => none
  | '"' :: r => some ([], r)
  | '\\' :: r =>
    match h : escape? r with
    | none => none
    | some (c, r') =>
      have := escape?_shorter h
      (basic? r').map fun (cs, rest) => (c :: cs, rest)
  | c :: r => if isTextChar c then (basic? r).map fun (cs, rest) => (c :: cs, rest) else none
termination_by s.length

def literal? : List Char → Option (List Char × List Char)
  | [] => none
  | '\'' :: r => some ([], r)
  | c :: r => if isTextChar c then (literal? r).map fun (cs, rest) => (c :: cs, rest) else none

/-- Takes spaces, tabs and line ends away. -/
def skipBlank : List Char → List Char
  | ' ' :: s => skipBlank s
  | '\t' :: s => skipBlank s
  | '\n' :: s => skipBlank s
  | '\r' :: '\n' :: s => skipBlank s
  | s => s

theorem length_skipBlank_le (s : List Char) : (skipBlank s).length ≤ s.length := by
  fun_induction skipBlank s <;> simp_all <;> omega

def skipNewline : List Char → List Char
  | '\n' :: s => s
  | '\r' :: '\n' :: s => s
  | s => s

def isSpace (c : Char) : Bool := c == ' ' || c == '\t'

/-- The rest behind a backslash that ends its line: the line end, and all blanks and line
ends that follow, do not count. -/
def joinedLine? (s : List Char) : Option (List Char) :=
  match s.dropWhile isSpace with
  | '\n' :: r => some (skipBlank r)
  | '\r' :: '\n' :: r => some (skipBlank r)
  | _ => none

theorem joinedLine?_shorter {s r : List Char} (h : joinedLine? s = some r) :
    r.length < s.length := by
  have hd : (s.dropWhile isSpace).length ≤ s.length := Scalar.length_dropWhile_le _ _
  unfold joinedLine? at h
  split at h
  all_goals simp only [Option.some.injEq, reduceCtorEq] at h
  all_goals
    rename_i t ht
    have := length_skipBlank_le t
    rw [ht] at hd
    simp only [List.length_cons] at hd
    rw [← h]
    omega

/-- The inside of a string between three quotes, and the rest. -/
def multiline? (quote : Char) (escapes : Bool) (s : List Char) :
    Option (List Char × List Char) :=
  match s with
  | [] => none
  | '\n' :: r => (multiline? quote escapes r).map fun (cs, rest) => ('\n' :: cs, rest)
  | '\r' :: '\n' :: r => (multiline? quote escapes r).map fun (cs, rest) => ('\n' :: cs, rest)
  | c :: r =>
    if c = quote then
      let run := (c :: r).takeWhile (· == quote)
      if run.length < 3 then
        (multiline? quote escapes r).map fun (cs, rest) => (c :: cs, rest)
      else if run.length ≤ 5 then some (run.drop 3, (c :: r).drop run.length)
      else none
    else if c = '\\' ∧ escapes then
      match hj : joinedLine? r with
      | some r' =>
        have := joinedLine?_shorter hj
        multiline? quote escapes r'
      | none =>
        match he : escape? r with
        | none => none
        | some (x, r') =>
          have := escape?_shorter he
          (multiline? quote escapes r').map fun (cs, rest) => (x :: cs, rest)
    else if isTextChar c then
      (multiline? quote escapes r).map fun (cs, rest) => (c :: cs, rest)
    else none
termination_by s.length

def line? : List Char → Option (List Char × List Char)
  | '"' :: s => basic? s
  | '\'' :: s => literal? s
  | _ => none

/-- A string of any kind at the front of a text, and the rest. -/
def read? (s : List Char) : Option (List Char × List Char) :=
  match s with
  | '"' :: '"' :: '"' :: r => multiline? '"' true (skipNewline r)
  | '\'' :: '\'' :: '\'' :: r => multiline? '\'' false (skipNewline r)
  | s => line? s

/-! ### What is left is shorter -/

theorem basic?_shorter {s : List Char} {cs r : List Char} (h : basic? s = some (cs, r)) :
    r.length < s.length := by
  fun_induction basic? s generalizing cs r with
  | case1 => simp at h
  | case2 t => simp only [Option.some.injEq, Prod.mk.injEq] at h; simp [← h.2]
  | case3 => simp at h
  | case4 t c t' he hlt ih =>
    simp only [Option.map_eq_some_iff, Prod.mk.injEq] at h
    obtain ⟨⟨cs', r'⟩, h', -, rfl⟩ := h
    have := ih h'
    simp only [List.length_cons]
    omega
  | case5 c t _ _ _ ih =>
    simp only [Option.map_eq_some_iff, Prod.mk.injEq] at h
    obtain ⟨⟨cs', r'⟩, h', -, rfl⟩ := h
    have := ih h'
    simp only [List.length_cons]
    omega
  | case6 => simp at h

theorem literal?_shorter {s : List Char} {cs r : List Char} (h : literal? s = some (cs, r)) :
    r.length < s.length := by
  fun_induction literal? s generalizing cs r with
  | case1 => simp at h
  | case2 t => simp only [Option.some.injEq, Prod.mk.injEq] at h; simp [← h.2]
  | case3 c t _ _ ih =>
    simp only [Option.map_eq_some_iff, Prod.mk.injEq] at h
    obtain ⟨⟨cs', r'⟩, h', -, rfl⟩ := h
    have := ih h'
    simp only [List.length_cons]
    omega
  | case4 => simp at h

theorem multiline?_shorter {quote : Char} {escapes : Bool} {s cs r : List Char}
    (h : multiline? quote escapes s = some (cs, r)) : r.length < s.length := by
  fun_induction multiline? quote escapes s generalizing cs r with
  | case1 => simp at h
  | case2 t ih =>
    simp only [Option.map_eq_some_iff, Prod.mk.injEq] at h
    obtain ⟨⟨cs', r'⟩, h', -, rfl⟩ := h
    have := ih h'
    simp only [List.length_cons]
    omega
  | case3 t ih =>
    simp only [Option.map_eq_some_iff, Prod.mk.injEq] at h
    obtain ⟨⟨cs', r'⟩, h', -, rfl⟩ := h
    have := ih h'
    simp only [List.length_cons]
    omega
  | case4 t =>
    rename_i ih
    simp only [Option.map_eq_some_iff, Prod.mk.injEq] at h
    obtain ⟨⟨cs', r'⟩, h', -, rfl⟩ := h
    have := ih h'
    simp only [List.length_cons]
    omega
  | case5 t _ _ run _ =>
    simp only [Option.some.injEq, Prod.mk.injEq] at h
    rw [← h.2, List.length_drop, List.length_cons]
    omega
  | case6 => simp at h
  | case7 c t _ _ _ _ t' hj hlt ih =>
    have := ih h
    simp only [List.length_cons]
    omega
  | case8 => simp at h
  | case9 c t _ _ _ _ hj x t' he hlt ih =>
    simp only [Option.map_eq_some_iff, Prod.mk.injEq] at h
    obtain ⟨⟨cs', r'⟩, h', -, rfl⟩ := h
    have := ih h'
    simp only [List.length_cons]
    omega
  | case10 c t _ _ _ _ _ ih =>
    simp only [Option.map_eq_some_iff, Prod.mk.injEq] at h
    obtain ⟨⟨cs', r'⟩, h', -, rfl⟩ := h
    have := ih h'
    simp only [List.length_cons]
    omega
  | case11 => simp at h

theorem line?_shorter {s cs r : List Char} (h : line? s = some (cs, r)) :
    r.length < s.length := by
  unfold line? at h
  split at h
  · have := basic?_shorter h
    simp only [List.length_cons]
    omega
  · have := literal?_shorter h
    simp only [List.length_cons]
    omega
  · simp at h

theorem length_skipNewline_le (s : List Char) : (skipNewline s).length ≤ s.length := by
  unfold skipNewline
  split
  · simp
  · simp only [List.length_cons]
    omega
  · exact Nat.le_refl _

theorem read?_shorter {s cs r : List Char} (h : read? s = some (cs, r)) :
    r.length < s.length := by
  unfold read? at h
  split at h
  · rename_i t
    have h₁ := multiline?_shorter h
    have h₂ := length_skipNewline_le t
    simp only [List.length_cons]
    omega
  · rename_i t
    have h₁ := multiline?_shorter h
    have h₂ := length_skipNewline_le t
    simp only [List.length_cons]
    omega
  · exact line?_shorter h

end Quoting

end JFlexReport.Toml
