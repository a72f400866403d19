import Mathlib.Data.List.DropRight
import Mathlib.Data.List.Infix
import JFlexReport.Proofs.Breaks
import JFlexReport.Proofs.Grammar

/-!
Output that is cut in two.

A marker looks three lines ahead. Where every marker in front of a cut has these lines in
front of it too, no segment reaches over the cut, and the messages of both parts come one
after the other. A cut behind a line break leaves the lines of both parts as they are, but
for the empty line at the end of the first part and breaks at the start of the second.
-/

namespace JFlexReport.Console

open Text

/-- Every marker has all the lines of its block behind it. -/
def Closed (ls : List Line) : Prop := ∀ m r, m :: r <:+ ls → isMarker m → 3 ≤ r.length

lemma Closed.suffix {ls ls' : List Line} (h : Closed ls) (hs : ls' <:+ ls) : Closed ls' :=
  fun m r hr => h m r (hr.trans hs)

/-- **No segment reaches over the end** of lines that leave no block open. -/
theorem messagesOf_append {ls : List Line} (h : Closed ls) (r : List Line) :
    messagesOf (ls ++ r) = (messagesOf ls).merge (messagesOf r) := by
  induction ls using segment_induction with
  | nil => rw [List.nil_append, messagesOf, Messages.empty_merge]
  | line l ls hl ih =>
    -- a marker read as chatter would have too few lines behind it
    have hm : ¬isMarker l := by
      intro hm
      have := h l ls List.suffix_rfl hm
      have := hl hm
      omega
    rw [List.cons_append, messagesOf_line fun hl => absurd hl hm,
      messagesOf_line fun hl => absurd hl hm, ih (h.suffix (List.suffix_cons l ls)),
      Messages.merge_assoc]
  | block m t c p ls hm hp ih =>
    have hs : ls <:+ m :: t :: c :: p :: ls := List.suffix_append [m, t, c, p] ls
    simp only [List.cons_append]
    rw [messagesOf_block hm hp, messagesOf_block hm hp, ih (h.suffix hs), Messages.merge_assoc]
  | broken m t c p ls hm hp ih =>
    have hs : c :: p :: ls <:+ m :: t :: c :: p :: ls := List.suffix_append [m, t] (c :: p :: ls)
    simp only [List.cons_append] at ih ⊢
    rw [messagesOf_broken hm hp, messagesOf_broken hm hp, ih (h.suffix hs), Messages.merge_assoc]

/-! ### The last lines -/

lemma suffix_rtake {α : Type} {l l' : List α} {n : ℕ} (h : l' <:+ l) (hn : l'.length ≤ n) :
    l' <:+ l.rtake n := by
  have hle := h.length_le
  refine List.suffix_of_suffix_length_le h (List.drop_suffix _ l) ?_
  rw [List.rtake, List.length_drop]; omega

lemma closed_of_rtake {ls : List Line}
    (h : ∀ l ∈ (ls.filter (· ≠ [])).rtake 3, ¬errorMarker.toList <+: l) : Closed ls := by
  intro m r hs hm
  by_contra hr
  have hs' := hs.filter (· ≠ [])
  rw [List.filter_cons_of_pos (by simpa using ne_nil_of_isMarker hm)] at hs'
  have hlast := suffix_rtake (n := 3) hs' (by
    have := List.length_filter_le (· ≠ []) r
    rw [List.length_cons]; omega)
  exact h m (hlast.mem List.mem_cons_self) ((isMarker_iff m).mp hm)

/-! ### Texts -/

lemma messagesOf_lines_dropWhile (s : List Char) :
    messagesOf (lines (s.dropWhile isBreak)) = messagesOf (lines s) := by
  by_cases hs : s.takeWhile isBreak = []
  · have h := List.takeWhile_append_dropWhile (p := isBreak) (l := s)
    rw [hs, List.nil_append] at h
    rw [h]
  · rw [lines, lines, splitRuns_dropWhile hs, messagesOf_line fun h => absurd h (by decide)]
    rfl

/-- **Parsing respects a safe cut**: behind a line break, with no marker among the last three
lines, both parts are read on their own. -/
theorem parse_append {a b : String} (hend : ∃ c ∈ a.toList.getLast?, isBreak c)
    (ha : ∃ c ∈ a.toList, ¬isBlank c) (hb : ∃ c ∈ b.toList, ¬isBlank c)
    (hsafe : ∀ l ∈ ((lines a.toList).filter (· ≠ [])).rtake 3, ¬errorMarker.toList <+: l) :
    (parse (a ++ b)).value = (parse a).value.merge (parse b).value := by
  have hab : ∃ c ∈ (a ++ b).toList, ¬isBlank c := by
    obtain ⟨c, hc, hv⟩ := ha
    exact ⟨c, by simp [hc], hv⟩
  obtain ⟨c, hlast, hc⟩ := hend
  obtain ⟨s, hs⟩ := List.getLast?_eq_some_iff.mp hlast
  obtain ⟨p, ps, h⟩ := splitRuns_append_sep hc s
  have hla : lines a.toList = p :: ps ++ [[]] := by
    rw [hs, lines, h]; rfl
  have hlab : lines (a ++ b).toList = p :: ps ++ lines (b.toList.dropWhile isBreak) := by
    rw [String.toList_append, hs, List.append_assoc, List.singleton_append, lines, h]; rfl
  have hclosed : Closed (p :: ps) := by
    refine closed_of_rtake ?_
    rw [hla, List.filter_append] at hsafe
    simpa using hsafe
  have hempty : messagesOf [[]] = .empty := by decide
  rw [parse_of_visible ha, parse_of_visible hb, parse_of_visible hab]
  simp only [← messagesOf_eq_collect]
  rw [hla, hlab, messagesOf_append hclosed, messagesOf_append hclosed, hempty,
    Messages.merge_empty, messagesOf_lines_dropWhile]

/-- A block in the first part gives its last two lines back, and the break behind them goes
on in the second part. -/
theorem parse_append_rollback :
    let a := "Error in file \"a\" (line 7):\nm\nc\n%%\n\r"
    let b := "\nnote\nError in file \"b\" (line 8):\nn\nx\n  ^"
    (∃ c ∈ a.toList.getLast?, isBreak c) ∧ (∃ c ∈ a.toList, ¬isBlank c) ∧
      (∃ c ∈ b.toList, ¬isBlank c) ∧
      (∀ l ∈ ((lines a.toList).filter (· ≠ [])).rtake 3, ¬errorMarker.toList <+: l) ∧
      (parse (a ++ b)).value =
        { informational := [{ text := "c" }, { text := "%%" }, { text := "note" }]
          errors := [{ text := "m", line := some 7 },
            { text := "n", line := some 8, column := some 3 }] } := by
  intro a b
  have hend : ∃ c ∈ a.toList.getLast?, isBreak c := ⟨'\r', by decide, by decide⟩
  have ha : ∃ c ∈ a.toList, ¬isBlank c := ⟨'E', by decide, by decide⟩
  have hb : ∃ c ∈ b.toList, ¬isBlank c := ⟨'n', by decide, by decide⟩
  have hsafe : ∀ l ∈ ((lines a.toList).filter (· ≠ [])).rtake 3, ¬errorMarker.toList <+: l := by
    decide
  refine ⟨hend, ha, hb, hsafe, ?_⟩
  rw [parse_append hend ha hb hsafe, parse_of_visible ha, parse_of_visible hb]
  simp only [← messagesOf_eq_collect]
  decide

end JFlexReport.Console
