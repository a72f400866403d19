import JFlexReport.Proofs.Cut

/-!
Line ends do not matter.

What a text says is in its lines: which breaks stand between them makes no difference, nor
do breaks in front. Breaks at the end can make one. They put an empty line behind the last
one, and that line completes a block whose marker had two lines behind it.
-/

namespace JFlexReport

open Text

namespace Text

/-- The text with its line breaks replaced in order by the given ones. -/
def rebreak (breaks : ℕ → Break) : List Char → List Char
  | [] => []
  | c :: s =>
    if isBreak c then
      if s.head?.any isBreak then rebreak breaks s
      else (breaks 0).run ++ rebreak (fun k => breaks (k + 1)) s
    else c :: rebreak breaks s

lemma head?_rebreak {breaks : ℕ → Break} {s : List Char} (hs : ¬s.head?.any isBreak) :
    (rebreak breaks s).head? = s.head? := by
  rcases s with _ | ⟨c, s⟩
  · rfl
  · rw [List.head?_cons, Option.any_some] at hs
    rw [rebreak, if_neg hs]
    rfl

/-- **Replaced breaks leave the lines as they are.** -/
theorem lines_rebreak (breaks : ℕ → Break) (s : List Char) : lines (rebreak breaks s) = lines s := by
  rw [lines, lines]
  induction s generalizing breaks with
  | nil => rfl
  | cons c s ih =>
    rw [rebreak, splitRuns]
    by_cases hc : isBreak c
    · rw [if_pos hc, if_pos hc]
      by_cases hs : s.head?.any isBreak
      · rw [if_pos hs, if_pos hs, ih]
      · have hhead : ∀ x ∈ (rebreak (fun k => breaks (k + 1)) s).head?, isBreak x = false := by
          rw [head?_rebreak hs]
          intro x hx
          rw [Option.mem_def.mp hx] at hs
          simpa using hs
        rw [if_neg hs, if_neg hs, splitRuns_run (breaks 0).ne_nil (breaks 0).isBreak_of_mem hhead,
          ih]
    · rw [if_neg hc, if_neg hc, splitRuns, if_neg hc, ih]

lemma isBlank_of_isBreak {c : Char} (h : isBreak c) : isBlank c := by
  rw [isBreak, Bool.or_eq_true, beq_iff_eq, beq_iff_eq] at h
  rcases h with rfl | rfl <;> decide

lemma visible_iff_lines (s : List Char) :
    (∃ c ∈ s, ¬isBlank c) ↔ ∃ l ∈ lines s, ∃ c ∈ l, ¬isBlank c := by
  constructor
  · rintro ⟨c, hc, hv⟩
    have hbreak : isBreak c = false := by
      by_contra h
      exact hv (isBlank_of_isBreak (by simpa using h))
    obtain ⟨l, hl, hcl⟩ := exists_mem_splitRuns hc hbreak
    exact ⟨l, hl, c, hcl, hv⟩
  · rintro ⟨l, hl, c, hc, hv⟩
    exact ⟨c, (mem_of_mem_splitRuns hl hc).1, hv⟩

end Text

namespace Console

lemma parse_congr {a b : String} (h : lines a.toList = lines b.toList) : parse a = parse b := by
  by_cases ha : ∃ c ∈ a.toList, ¬isBlank c
  · have hb : ∃ c ∈ b.toList, ¬isBlank c := by
      rwa [visible_iff_lines, ← h, ← visible_iff_lines]
    rw [parse_of_visible ha, parse_of_visible hb, h]
  · have hb : ¬∃ c ∈ b.toList, ¬isBlank c := by
      rwa [visible_iff_lines, ← h, ← visible_iff_lines]
    rw [parse_of_blank ha, parse_of_blank hb]

lemma value_parse_congr {a b : String}
    (hv : (∃ c ∈ a.toList, ¬isBlank c) ↔ ∃ c ∈ b.toList, ¬isBlank c)
    (hm : messagesOf (lines a.toList) = messagesOf (lines b.toList)) :
    (parse a).value = (parse b).value := by
  by_cases ha : ∃ c ∈ a.toList, ¬isBlank c
  · have hb := hv.mp ha
    rw [← allBlank_eq_false_iff] at ha hb
    rw [value_parse, value_parse, ha, hb, hm]
  · rw [parse_of_blank ha, parse_of_blank fun hb => ha (hv.mpr hb)]

/-! ### An empty line at the end -/

/-- No marker has two lines behind it and no more: one more line completes no block. -/
def Settled (ls : List Line) : Prop := ∀ m r, m :: r <:+ ls → isMarker m → r.length ≠ 2

lemma Settled.suffix {ls ls' : List Line} (h : Settled ls) (hs : ls' <:+ ls) : Settled ls' :=
  fun m r hr => h m r (hr.trans hs)

lemma settled_of_third {ls : List Line}
    (h : ∀ m, ls.reverse[2]? = some m → ¬errorMarker.toList <+: m) : Settled ls := by
  rintro m r ⟨before, rfl⟩ hm hr
  refine h m ?_ ((isMarker_iff m).mp hm)
  simp [hr]

/-- **An empty line at the end says nothing**, where it completes no block. -/
theorem messagesOf_concat_nil {ls : List Line} (h : Settled ls) :
    messagesOf (ls ++ [[]]) = messagesOf ls := by
  induction ls using segment_induction with
  | nil => rfl
  | line l ls hl ih =>
    have hl' : isMarker l → (ls ++ [[]]).length < 3 := by
      intro hm
      have := hl hm
      have := h l ls List.suffix_rfl hm
      rw [List.length_append, List.length_singleton]
      omega
    rw [List.cons_append, messagesOf_line hl', messagesOf_line hl,
      ih (h.suffix (List.suffix_cons l ls))]
  | block m t c p ls hm hp ih =>
    have hs : ls <:+ m :: t :: c :: p :: ls := List.suffix_append [m, t, c, p] ls
    simp only [List.cons_append]
    rw [messagesOf_block hm hp, messagesOf_block hm hp, ih (h.suffix hs)]
  | broken m t c p ls hm hp ih =>
    have hs : c :: p :: ls <:+ m :: t :: c :: p :: ls := List.suffix_append [m, t] (c :: p :: ls)
    simp only [List.cons_append] at ih ⊢
    rw [messagesOf_broken hm hp, messagesOf_broken hm hp, ih (h.suffix hs)]

/-! ### Breaks at the ends of a text -/

section Ends

variable {b s : List Char} (hb : ∀ c ∈ b, isBreak c)

include hb

lemma messagesOf_lines_breaks_append : messagesOf (lines (b ++ s)) = messagesOf (lines s) := by
  rw [← messagesOf_lines_dropWhile (b ++ s), List.dropWhile_append_of_pos hb,
    messagesOf_lines_dropWhile]

lemma lines_append_breaks (hend : ∃ c ∈ s.getLast?, isBreak c) : lines (s ++ b) = lines s := by
  obtain ⟨c, hlast, hc⟩ := hend
  obtain ⟨t, rfl⟩ := List.getLast?_eq_some_iff.mp hlast
  obtain ⟨p, ps, h⟩ := splitRuns_append_sep hc t
  have hdrop : b.dropWhile isBreak = [] := List.dropWhile_eq_nil_iff.mpr hb
  rw [List.append_assoc, List.singleton_append, lines, lines, h, h, hdrop]
  rfl

lemma messagesOf_lines_append_breaks
    (hs : (∃ c ∈ s.getLast?, isBreak c) ∨
      ∀ m, (lines s).reverse[2]? = some m → ¬errorMarker.toList <+: m) :
    messagesOf (lines (s ++ b)) = messagesOf (lines s) := by
  by_cases hend : ∃ c ∈ s.getLast?, isBreak c
  · rw [lines_append_breaks hb hend]
  · by_cases hne : b = []
    · rw [hne, List.append_nil]
    · have hlast : ∀ c ∈ s.getLast?, isBreak c = false := by simpa using hend
      rw [lines, splitRuns_append_run hlast hne hb]
      exact messagesOf_concat_nil (settled_of_third (hs.resolve_left hend))

omit hb in
lemma visible_append {a : List Char} :
    (∃ c ∈ a ++ s, ¬isBlank c) ↔ (∃ c ∈ a, ¬isBlank c) ∨ ∃ c ∈ s, ¬isBlank c := by
  simp only [List.mem_append, or_and_right, exists_or]

lemma not_visible_of_breaks : ¬∃ c ∈ b, ¬isBlank c := by
  rintro ⟨c, hc, hv⟩
  exact hv (isBlank_of_isBreak (hb c hc))

end Ends

/-- **Line ends do not matter**: not which breaks stand between the lines, nor breaks in
front, nor breaks at the end of a text that ends in one or has no marker third from the
end. -/
theorem parse_line_ends (raw : String) :
    (∀ breaks, parse (String.ofList (rebreak breaks raw.toList)) = parse raw) ∧
      (∀ b : String, (∀ c ∈ b.toList, isBreak c) → (parse (b ++ raw)).value = (parse raw).value) ∧
      ∀ b : String, (∀ c ∈ b.toList, isBreak c) →
        ((∃ c ∈ raw.toList.getLast?, isBreak c) ∨
          ∀ m, (lines raw.toList).reverse[2]? = some m → ¬errorMarker.toList <+: m) →
        (parse (raw ++ b)).value = (parse raw).value := by
  refine ⟨fun breaks => ?_, fun b hb => ?_, fun b hb hraw => ?_⟩
  · exact parse_congr (by rw [String.toList_ofList, lines_rebreak])
  · refine value_parse_congr ?_ ?_
    · rw [String.toList_append, visible_append, or_iff_right (not_visible_of_breaks hb)]
    · rw [String.toList_append, messagesOf_lines_breaks_append hb]
  · refine value_parse_congr ?_ ?_
    · rw [String.toList_append, visible_append, or_iff_left (not_visible_of_breaks hb)]
    · rw [String.toList_append, messagesOf_lines_append_breaks hb hraw]

/-- A block with other breaks, more in front and more behind; the empty line at the end is the
second behind a marker. -/
theorem parse_line_ends_mixed :
    let raw := "Error in file \"a\" (line 7):\nm\r\nc\n  ^\nError in file\nn"
    let breaks : ℕ → Break := fun k =>
      if k = 1 then ⟨['\r'], by simp, by simp [isBreak]⟩
      else ⟨['\r', '\n'], by simp, by simp [isBreak]⟩
    String.ofList (rebreak breaks raw.toList) =
        "Error in file \"a\" (line 7):\r\nm\rc\r\n  ^\r\nError in file\r\nn" ∧
      parse (String.ofList (rebreak breaks raw.toList)) = parse raw ∧
      (∀ c ∈ "\n\r".toList, isBreak c) ∧
      (parse ("\n\r" ++ raw)).value = (parse raw).value ∧
      (∀ m, (lines raw.toList).reverse[2]? = some m → ¬errorMarker.toList <+: m) ∧
      (parse (raw ++ "\n\r")).value = (parse raw).value ∧
      (parse raw).value =
        { informational := [.plain "Error in file", .plain "n"]
          errors := [.positioned "m" (some 7) (some 3)] } := by
  intro raw breaks
  obtain ⟨hreplaced, hfront, hend⟩ := parse_line_ends raw
  have hb : ∀ c ∈ "\n\r".toList, isBreak c := by simp [isBreak]
  have hthird : ∀ m, (lines raw.toList).reverse[2]? = some m → ¬errorMarker.toList <+: m := by
    have h : (lines raw.toList).reverse[2]? = some "  ^".toList := by decide
    rw [h]
    rintro m ⟨rfl⟩
    decide
  refine ⟨by decide, hreplaced breaks, hb, hfront _ hb, hthird, hend _ hb (.inr hthird), ?_⟩
  rw [value_parse]
  decide

/-- A break behind a marker with two lines makes a block of them. -/
example : (parse "Error in file\nm\nc").value.errors = [] ∧
    (parse "Error in file\nm\nc\n").value.errors = [.plain "m"] := by
  rw [value_parse, value_parse]
  decide

end Console

end JFlexReport
