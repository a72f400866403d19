import JFlexReport.Proofs.Pieces
import JFlexReport.Settings

/-!
Options that name a skeleton.

The options are searched for the option between two spaces, with a space put in front of them and
one behind. So the search finds exactly the words of the options, which are their pieces between
single spaces: two spaces in a row have an empty word between them, and no other blank ends a
word.
-/

namespace JFlexReport

open Text

namespace Text

lemma occursIn_iff {part s : List Char} : occursIn part s ↔ part <:+: s := by
  induction s with
  | nil => simp [occursIn]
  | cons c s ih => simp [occursIn, ih, List.infix_cons_iff]

def endsWord (c : Char) : Bool := c == ' '

/-- The pieces of a text between single spaces. -/
def words (s : List Char) : List (List Char) := splitEach endsWord s

/-- What occurs between two spaces is a word, for the spaces that are put around the text have
nothing in front of them and nothing behind. -/
lemma mem_words_of_padded {w s : List Char} (hw : ' ' ∉ w)
    (h : ' ' :: (w ++ [' ']) <:+: ' ' :: (s ++ [' '])) : w ∈ words s := by
  obtain ⟨a, b, h⟩ := h
  have hw' : ∀ x ∈ w, endsWord x = false := by
    intro x hx
    have hne : x ≠ ' ' := fun hspace => hw (hspace ▸ hx)
    simpa [endsWord] using hne
  have hwords : splitEach endsWord a ++ w :: splitEach endsWord b =
      [] :: (splitEach endsWord s ++ [[]]) := by
    have htext : splitEach endsWord (a ++ ' ' :: (w ++ ' ' :: b)) =
        splitEach endsWord ([] ++ ' ' :: (s ++ ' ' :: [])) := by
      rw [← h]
      simp
    simpa only [splitEach_append_sep (show endsWord ' ' from rfl), splitEach_eq_singleton hw',
      List.singleton_append, splitEach] using htext
  obtain ⟨p, ps, ha⟩ := List.exists_cons_of_ne_nil (splitEach_ne_nil endsWord a)
  obtain ⟨qs, q, hb⟩ := List.eq_nil_or_concat' _ |>.resolve_left (splitEach_ne_nil endsWord b)
  rw [ha, hb, List.cons_append, List.cons.injEq] at hwords
  have hinner : (ps ++ w :: qs) ++ [q] = splitEach endsWord s ++ [[]] := by
    simpa using hwords.2
  rw [words, ← (List.append_inj' hinner rfl).1]
  exact List.mem_append_right ps List.mem_cons_self

lemma padded_of_mem_words {w s : List Char} (h : w ∈ words s) :
    ' ' :: (w ++ [' ']) <:+: ' ' :: (s ++ [' ']) := by
  obtain ⟨a, b, rfl, ha, hb⟩ := exists_separates h
  have hspace : ∀ x, endsWord x → x = ' ' := fun x hx => by simpa [endsWord] using hx
  have hfront : ∃ f, ' ' :: a = f ++ [' '] := by
    rcases List.eq_nil_or_concat a with rfl | ⟨a', x, rfl⟩
    · exact ⟨[], rfl⟩
    · have hx : x = ' ' := hspace x (ha x (by simp))
      exact ⟨' ' :: a', by simp [hx]⟩
  have hback : ∃ g, b ++ [' '] = ' ' :: g := by
    rcases b with _ | ⟨x, b⟩
    · exact ⟨[], rfl⟩
    · have hx : x = ' ' := hspace x (hb x rfl)
      exact ⟨b ++ [' '], by simp [hx]⟩
  obtain ⟨f, hf⟩ := hfront
  obtain ⟨g, hg⟩ := hback
  refine ⟨f, g, ?_⟩
  calc f ++ ' ' :: (w ++ [' ']) ++ g
      = (f ++ [' ']) ++ w ++ (' ' :: g) := by simp
    _ = (' ' :: a) ++ w ++ (b ++ [' ']) := by rw [hf, hg]
    _ = ' ' :: (a ++ w ++ b ++ [' ']) := by simp

end Text

namespace Settings

/-- The option that names a skeleton, as a word. -/
def skeletonWord : List Char := "--skel".toList

lemma namesSkeleton_iff_mem (s : Settings) :
    s.namesSkeleton ↔ skeletonWord ∈ words s.optionsText.toList := by
  have hoption : skeletonOption.toList = ' ' :: (skeletonWord ++ [' ']) := by decide
  have htext : (" " ++ s.optionsText ++ " ").toList = ' ' :: (s.optionsText.toList ++ [' ']) := by
    simp
  rw [namesSkeleton, occursIn_iff, hoption, htext]
  exact ⟨mem_words_of_padded (by decide), padded_of_mem_words⟩

lemma effectiveSkeleton_eq_some_iff {s : Settings} {p : Path} :
    s.effectiveSkeleton = some p ↔
      s.skeleton = some p ∧ allBlank p.text.toList = false ∧ s.namesSkeleton = false := by
  unfold effectiveSkeleton
  split
  · next q hq =>
    rw [hq, Option.some.injEq, Option.ite_none_left_eq_some, Bool.not_eq_true, Bool.or_eq_false_iff,
      Option.some.injEq]
    constructor
    · rintro ⟨h, rfl⟩
      exact ⟨rfl, h⟩
    · rintro ⟨rfl, h⟩
      exact ⟨h, rfl⟩
  · next hnone => simp [hnone]

lemma namesSkeleton_append (s : Settings) (x y : String) :
    Settings.namesSkeleton { s with options := some (x ++ " " ++ y) } ↔
      Settings.namesSkeleton { s with options := some x } ∨
        Settings.namesSkeleton { s with options := some y } := by
  have hwords : words (x ++ " " ++ y).toList = words x.toList ++ words y.toList := by
    have htext : (x ++ " " ++ y).toList = x.toList ++ ' ' :: y.toList := by simp
    rw [htext]
    exact splitEach_append_sep (by rfl) _ _
  simp only [namesSkeleton_iff_mem, optionsText, Option.getD_some, hwords, List.mem_append]

/-- Neither a longer word nor one that a tab ends. -/
example : words "x--skel  --skel\t --skeleton --skel=f".toList =
    ["x--skel".toList, [], "--skel\t".toList, "--skeleton".toList, "--skel=f".toList] := by
  decide

end Settings

end JFlexReport
