import Mathlib.Data.List.Basic
import Mathlib.Data.List.TakeWhile
import JFlexReport.Style
import JFlexReport.Text.Numeral

/-!
What a terminal makes of a text.

A terminal reads a text as characters to show and as sequences that select how the characters
behind them look. It is followed through a text from the default rendition on, so each shown
character comes with the rendition that it is shown in. A text that ends between two sequences
can be read on its own, whatever follows it.
-/

namespace JFlexReport

open Text

namespace Terminal

/-- A character to show, or the selection of a rendition. -/
inductive Token
  | char (c : Char)
  | select (parameter : ℕ)
  deriving DecidableEq

/-- The parameter of a sequence `ESC [ digits m` at the front, and what follows the sequence. -/
def sequence? : List Char → Option (ℕ × List Char)
  | '\x1b' :: '[' :: s =>
    match s.takeWhile Char.isDigit, s.dropWhile Char.isDigit with
    | d :: ds, 'm' :: rest => some (digitsValue (d :: ds), rest)
    | _, _ => none
  | _ => none

lemma sequence?_shorter {s rest : List Char} {n : ℕ} (h : sequence? s = some (n, rest)) :
    rest.length < s.length := by
  unfold sequence? at h
  split at h
  · next s =>
    split at h
    · next hrest =>
      have hle := (List.dropWhile_suffix (l := s) Char.isDigit).length_le
      rw [hrest] at hle
      simp only [Option.some.injEq, Prod.mk.injEq] at h
      obtain ⟨-, rfl⟩ := h
      simp only [List.length_cons] at hle ⊢
      omega
    · exact absurd h (by simp)
  · exact absurd h (by simp)

/-- A text as a terminal reads it. -/
def tokens (s : List Char) : List Token :=
  match h : sequence? s with
  | some (n, rest) =>
    have := sequence?_shorter h
    .select n :: tokens rest
  | none =>
    match s with
    | [] => []
    | c :: s => .char c :: tokens s
termination_by s.length

/-- How characters look: a foreground color by its parameter, or the default one, and bold. -/
structure Rendition where
  foreground : Option ℕ := none
  bold : Bool := false
  deriving DecidableEq

/-- What a parameter selects: everything back to the default, bold or no bold, a color, or the
default color. -/
def Rendition.select (r : Rendition) (n : ℕ) : Rendition :=
  if n = 0 then {}
  else if n = 1 then { r with bold := true }
  else if n = 22 then { r with bold := false }
  else if n = 39 then { r with foreground := none }
  else if 30 ≤ n ∧ n ≤ 37 ∨ 90 ≤ n ∧ n ≤ 97 then { r with foreground := some n }
  else r

/-- Each shown character with its rendition. -/
def shown (r : Rendition) : List Token → List (Char × Rendition)
  | [] => []
  | .char c :: ts => (c, r) :: shown r ts
  | .select n :: ts => shown (r.select n) ts

/-- The rendition behind the last token. -/
def last (r : Rendition) : List Token → Rendition
  | [] => r
  | .char _ :: ts => last r ts
  | .select n :: ts => last (r.select n) ts

def Token.char? : Token → Option Char
  | .char c => some c
  | .select _ => none

/-- The text without its sequences. -/
def stripped (s : String) : String := String.ofList ((tokens s.toList).filterMap Token.char?)

/-- The characters that a terminal shows of the text, each in its rendition. -/
def display (s : String) : List (Char × Rendition) := shown {} (tokens s.toList)

/-- The rendition that the text leaves the terminal in. -/
def rendition (s : String) : Rendition := last {} (tokens s.toList)

/-! ### Reading piece by piece -/

lemma tokens_nil : tokens [] = [] := by
  rw [tokens]
  rfl

lemma tokens_char {c : Char} (hc : c ≠ '\x1b') (s : List Char) :
    tokens (c :: s) = .char c :: tokens s := by
  have hno : sequence? (c :: s) = none := by
    unfold sequence?
    split
    · next h => exact absurd (List.cons.inj h).1 hc
    · rfl
  rw [tokens]
  split
  · next h => rw [hno] at h; cases h
  · rfl

lemma tokens_sequence {ds : List Char} (hne : ds ≠ []) (hds : ∀ d ∈ ds, d.isDigit = true)
    (s : List Char) :
    tokens ('\x1b' :: '[' :: (ds ++ 'm' :: s)) = .select (digitsValue ds) :: tokens s := by
  have hseq : sequence? ('\x1b' :: '[' :: (ds ++ 'm' :: s)) = some (digitsValue ds, s) := by
    obtain ⟨d, ds, rfl⟩ := List.exists_cons_of_ne_nil hne
    have htake : (d :: ds ++ 'm' :: s).takeWhile Char.isDigit = d :: ds := by
      rw [List.takeWhile_append_of_pos hds, List.takeWhile_cons_of_neg (by decide), List.append_nil]
    have hdrop : (d :: ds ++ 'm' :: s).dropWhile Char.isDigit = 'm' :: s := by
      rw [List.dropWhile_append_of_pos hds, List.dropWhile_cons_of_neg (by decide)]
    simp only [sequence?, htake, hdrop]
  rw [tokens]
  split
  · next h =>
    rw [hseq] at h
    cases h
    rfl
  · next h => rw [hseq] at h; cases h

/-- No sequence begins in the text. -/
def IsPlain (s : String) : Prop := '\x1b' ∉ s.toList

instance (s : String) : Decidable (IsPlain s) := inferInstanceAs (Decidable ('\x1b' ∉ s.toList))

lemma IsPlain.append {a b : String} (ha : IsPlain a) (hb : IsPlain b) : IsPlain (a ++ b) := by
  rw [IsPlain, String.toList_append, List.mem_append, not_or]
  exact ⟨ha, hb⟩

/-- What follows the text is read as if it stood alone. -/
def Closed (a : String) : Prop := ∀ s, tokens (a.toList ++ s) = tokens a.toList ++ tokens s

lemma tokens_plain_append {l : List Char} (h : '\x1b' ∉ l) (s : List Char) :
    tokens (l ++ s) = l.map .char ++ tokens s := by
  induction l with
  | nil => rfl
  | cons c l ih =>
    rw [List.mem_cons, not_or] at h
    rw [List.cons_append, tokens_char (Ne.symm h.1), ih h.2, List.map_cons, List.cons_append]

lemma tokens_plain {a : String} (h : IsPlain a) : tokens a.toList = a.toList.map .char := by
  have := tokens_plain_append h []
  rwa [List.append_nil, tokens_nil, List.append_nil] at this

lemma closed_of_isPlain {a : String} (h : IsPlain a) : Closed a := fun s => by
  rw [tokens_plain_append h, tokens_plain h]

lemma Closed.append {a b : String} (ha : Closed a) (hb : Closed b) : Closed (a ++ b) := fun s => by
  rw [String.toList_append, List.append_assoc, ha, hb, ha, List.append_assoc]

lemma tokens_append {a : String} (ha : Closed a) (b : String) :
    tokens (a ++ b).toList = tokens a.toList ++ tokens b.toList := by
  rw [String.toList_append, ha]

/-! ### What is shown -/

section Shown

variable {r : Rendition} {ts ts' : List Token}

lemma last_append : last r (ts ++ ts') = last (last r ts) ts' := by
  induction ts generalizing r with
  | nil => rfl
  | cons t ts ih => cases t <;> exact ih

lemma shown_append : shown r (ts ++ ts') = shown r ts ++ shown (last r ts) ts' := by
  induction ts generalizing r with
  | nil => rfl
  | cons t ts ih =>
    cases t with
    | char c => rw [List.cons_append, shown, shown, ih, last, List.cons_append]
    | select n => rw [List.cons_append, shown, shown, ih, last]

lemma last_chars (l : List Char) : last r (l.map .char) = r := by
  induction l with
  | nil => rfl
  | cons c l ih => exact ih

lemma shown_chars (l : List Char) : shown r (l.map .char) = l.map fun c => (c, r) := by
  induction l with
  | nil => rfl
  | cons c l ih => rw [List.map_cons, List.map_cons, shown, ih]

end Shown

variable {a : String}

lemma stripped_append (ha : Closed a) (b : String) : stripped (a ++ b) = stripped a ++ stripped b := by
  rw [stripped, tokens_append ha, List.filterMap_append, String.ofList_append, stripped, stripped]

lemma rendition_append (ha : Closed a) (hr : rendition a = {}) (b : String) :
    rendition (a ++ b) = rendition b := by
  rw [rendition, tokens_append ha, last_append, ← rendition, hr, rendition]

lemma display_append (ha : Closed a) (hr : rendition a = {}) (b : String) :
    display (a ++ b) = display a ++ display b := by
  rw [display, tokens_append ha, shown_append, ← rendition, hr, display, display]

lemma stripped_plain (h : IsPlain a) : stripped a = a := by
  have hchar : Token.char? ∘ Token.char = some := rfl
  rw [stripped, tokens_plain h, List.filterMap_map, hchar, List.filterMap_some,
    String.ofList_toList]

lemma display_plain (h : IsPlain a) : display a = a.toList.map fun c => (c, {}) := by
  rw [display, tokens_plain h, shown_chars]

lemma rendition_plain (h : IsPlain a) : rendition a = {} := by
  rw [rendition, tokens_plain h, last_chars]

end Terminal

end JFlexReport
