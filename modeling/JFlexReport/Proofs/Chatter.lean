import JFlexReport.Proofs.Explanation
import JFlexReport.Proofs.LineEndings
import JFlexReport.Proofs.Shape

/-!
The chatter of a text, read again.

Chatter is what is left of the lines when blocks, notices and empty lines are taken out. A
marker is left only where fewer than three lines stood behind it, and taking lines out puts
none behind it. So the chatter holds no block: printed line by line, it is all chatter again.
-/

namespace JFlexReport

open Text

namespace Text

/-- **Lines with a break between any two come back.** -/
theorem lines_intercalate (b : Break) {ls : List Line} (hne : ls ≠ []) (h : ∀ l ∈ ls, IsSolid l) :
    lines (b.run.intercalate ls) = ls := by
  induction ls with
  | nil => exact absurd rfl hne
  | cons l ls ih =>
    have hl := h l List.mem_cons_self
    rcases ls with _ | ⟨l', ls⟩
    · have hp := splitRuns_append hl.2 []
      rw [List.append_nil] at hp
      rw [List.intercalate_singleton, lines, hp]
      simp [splitRuns]
    · have ih := ih (List.cons_ne_nil l' ls) fun x hx => h x (List.mem_cons_of_mem l hx)
      have hhead : ∀ c ∈ (b.run.intercalate (l' :: ls)).head?, isBreak c = false := by
        obtain ⟨hne', hl'⟩ := h l' (by simp)
        obtain ⟨c, s, rfl⟩ := List.exists_cons_of_ne_nil hne'
        have hc : (b.run.intercalate ((c :: s) :: ls)).head? = some c := by
          cases ls <;> simp [List.intercalate_cons_cons]
        simpa [hc] using hl' c List.mem_cons_self
      have hp := splitRuns_piece hl.2 b.ne_nil b.isBreak_of_mem hhead
      rw [List.intercalate_cons_cons, List.append_assoc, lines, hp, ← lines, ih]

end Text

namespace Console

/-- Lines without a block among them are all chatter, but for notices and empty ones. -/
lemma messagesOf_of_not_holdsBlock {ls : List Line} (hb : ¬HoldsBlock ls)
    (h : ∀ l ∈ ls, l ≠ [] ∧ ¬isNotice l) :
    messagesOf ls = { informational := ls.map fun l => .plain (String.ofList l) } := by
  induction ls with
  | nil => rfl
  | cons l ls ih =>
    rw [holdsBlock_cons, not_or] at hb
    obtain ⟨hne, hn⟩ := h l List.mem_cons_self
    have hm : isMarker l → ls.length < 3 := fun hm => by
      by_contra hlen
      exact hb.1 ⟨hm, by omega⟩
    have hl : remark l = { informational := [.plain (String.ofList l)] } := by
      rw [remark, if_neg (by rw [← isNotice_iff]; tauto)]
      rfl
    rw [messagesOf_line hm, hl, ih hb.2 fun x hx => h x (List.mem_cons_of_mem l hx)]
    rfl

/-- The lines that are chatter. -/
def chatter (ls : List Line) : List Line :=
  (messagesOf ls).informational.map fun m => m.text.toList

lemma length_chatter_le (ls : List Line) : (chatter ls).length ≤ ls.length :=
  calc (chatter ls).length = (messagesOf ls).informational.length := List.length_map _
    _ ≤ (messagesOf ls).size + ls.countP isNotice := by rw [Messages.size]; omega
    _ ≤ ls.countP (· ≠ []) := size_add_countP_le ls
    _ ≤ ls.length := List.countP_le_length

/-- **Chatter holds no block.** -/
theorem not_holdsBlock_chatter (ls : List Line) : ¬HoldsBlock (chatter ls) := by
  induction ls using segment_induction with
  | nil => exact not_holdsBlock_nil
  | line l ls h ih =>
    have hlen := length_chatter_le ls
    by_cases hl : l = [] ∨ skeletonNotice.toList <+: l
    · have hc : chatter (l :: ls) = chatter ls := by
        rw [chatter, messagesOf_line h, remark, if_pos hl, Messages.empty_merge, chatter]
      rwa [hc]
    · have hc : chatter (l :: ls) = l :: chatter ls := by
        rw [chatter, messagesOf_line h, remark, if_neg hl, Messages.merge]
        simp [chatter]
      rw [hc, holdsBlock_cons, not_or]
      refine ⟨?_, ih⟩
      rintro ⟨hm, hthree⟩
      have := h hm
      omega
  | block m t c p ls hm hp ih =>
    have hc : chatter (m :: t :: c :: p :: ls) = chatter ls := by
      rw [chatter, messagesOf_block hm hp, Messages.merge, List.nil_append, chatter]
    rwa [hc]
  | broken m t c p ls hm hp ih =>
    have hc : chatter (m :: t :: c :: p :: ls) = chatter (c :: p :: ls) := by
      rw [chatter, messagesOf_broken hm hp, Messages.merge, List.nil_append, chatter]
    rwa [hc]

lemma map_plain_chatter (ls : List Line) :
    (chatter ls).map (fun l => .plain (String.ofList l)) = (messagesOf ls).informational := by
  rw [chatter, List.map_map]
  refine (List.map_congr_left fun m hm => ?_).trans (List.map_id _)
  obtain ⟨l, -, -, -, rfl⟩ := exists_line_of_mem hm
  simp [Message.plain]

lemma mem_chatter {ls : List Line} {l : Line} (h : l ∈ chatter ls) :
    l ∈ ls ∧ l ≠ [] ∧ ¬isNotice l := by
  obtain ⟨m, hm, rfl⟩ := List.mem_map.mp h
  obtain ⟨l, hl, hne, hn, rfl⟩ := exists_line_of_mem hm
  rw [Message.plain, String.toList_ofList]
  exact ⟨hl, hne, hn⟩

lemma messagesOf_chatter (ls : List Line) :
    messagesOf (chatter ls) = { informational := (messagesOf ls).informational } := by
  rw [messagesOf_of_not_holdsBlock (not_holdsBlock_chatter ls) fun l hl => (mem_chatter hl).2,
    map_plain_chatter]

def lineFeed : Break := ⟨['\n'], by simp, by simp [isBreak]⟩

lemma lines_printed_chatter {s : List Char} (hne : chatter (lines s) ≠ []) :
    lines ("\n".intercalate
      ((messagesOf (lines s)).informational.map Message.text)).toList = chatter (lines s) := by
  have h := lines_intercalate lineFeed hne fun l hl =>
    ⟨(mem_chatter hl).2.1, isUnbroken_of_mem_lines (mem_chatter hl).1⟩
  rw [String.toList_intercalate, List.map_map]
  exact h

/-- **The chatter of a text is chatter again**, in the same order, and nothing else. -/
theorem parse_chatter {raw : String}
    (h : ∃ m ∈ (parse raw).value.informational, ∃ c ∈ m.text.toList, ¬isBlank c) :
    (parse ("\n".intercalate ((parse raw).value.informational.map Message.text))).value =
      { informational := (parse raw).value.informational } := by
  obtain ⟨m, hm, hv⟩ := h
  have hraw : ¬allBlank raw.toList := by
    intro hblank
    rw [value_parse, if_pos hblank] at hm
    cases hm
  rw [value_parse raw, if_neg hraw] at hm ⊢
  have hmem := List.mem_map_of_mem (f := fun m => m.text.toList) hm
  have hlines := lines_printed_chatter (List.ne_nil_of_mem hmem)
  have hvisible : ¬allBlank ("\n".intercalate
      ((messagesOf (lines raw.toList)).informational.map Message.text)).toList := by
    rw [Bool.not_eq_true, allBlank_eq_false_iff, visible_iff_lines, hlines]
    exact ⟨_, hmem, hv⟩
  rw [value_parse, if_neg hvisible, hlines, messagesOf_chatter]

/-- A broken block gives its last two lines back, and the last marker has too few lines behind
it. -/
theorem parse_chatter_reread :
    let raw := "go\nError in file \"a\" (line 7):\nm\nafter\nx ^\n" ++
      "Error in file \"b\" (line 8):\nn\n%%"
    (∃ m ∈ (parse raw).value.informational, ∃ c ∈ m.text.toList, ¬isBlank c) ∧
      (parse raw).value.informational.map Message.text =
        ["go", "after", "x ^", "Error in file \"b\" (line 8):", "n", "%%"] ∧
      (parse "go\nafter\nx ^\nError in file \"b\" (line 8):\nn\n%%").value =
        { informational := (parse raw).value.informational } := by
  intro raw
  have htexts : (parse raw).value.informational.map Message.text =
      ["go", "after", "x ^", "Error in file \"b\" (line 8):", "n", "%%"] := by
    rw [value_parse]; decide
  have h : ∃ m ∈ (parse raw).value.informational, ∃ c ∈ m.text.toList, ¬isBlank c := by
    rw [value_parse]
    exact ⟨.plain "go", by decide, 'g', by decide, by decide⟩
  have hchatter := parse_chatter h
  rw [htexts] at hchatter
  exact ⟨h, htexts, hchatter⟩

end Console

end JFlexReport
