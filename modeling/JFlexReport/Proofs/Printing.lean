import JFlexReport.Proofs.Breaks
import JFlexReport.Proofs.Grammar
import JFlexReport.Proofs.LineSuffix

/-!
Console output as a run prints it, and its reading.

An item is a line of chatter, a notice, or a block of four lines. Reading undoes printing:
whatever the names, messages and context lines look like, and whatever breaks stand behind
the lines, the chatter and the errors come back in order.
-/

namespace JFlexReport.Console

open Text

/-- The last line of a printed block: a caret at a column with anything behind it, or some
spaces. -/
inductive PrintedPointer
  | caret (column : UInt32) (pos : 0 < column) (tail : { l : Line // IsUnbroken l })
  | spaces (k : ℕ) (pos : 0 < k)

namespace PrintedPointer

def line : PrintedPointer → Line
  | caret column _ tail => List.replicate (column.toNat - 1) ' ' ++ '^' :: tail.1
  | spaces k _ => List.replicate k ' '

def column? : PrintedPointer → Option UInt32
  | caret column _ _ => some column
  | spaces _ _ => none

lemma isSolid_line (p : PrintedPointer) : IsSolid p.line := by
  cases p with
  | caret column pos tail =>
    refine ⟨by simp [line], fun c hc => ?_⟩
    simp only [line, List.mem_append, List.mem_replicate, List.mem_cons] at hc
    rcases hc with ⟨-, rfl⟩ | rfl | hc
    · decide
    · decide
    · exact tail.2 c hc
  | spaces k pos =>
    refine ⟨by simp [line]; omega, fun c hc => ?_⟩
    rw [List.eq_of_mem_replicate hc]; decide

lemma ofLine_line (p : PrintedPointer) :
    Pointer.ofLine p.line = match p.column? with
      | some column => .column column
      | none => .blank := by
  cases p with
  | caret column pos tail =>
    have hind : indent (caret column pos tail).line + 1 = column.toNat := by
      have hpos : 0 < column.toNat := UInt32.lt_iff_toNat_lt.mp pos
      rw [line, indent_spaces, indent_cons (by decide)]; omega
    have hun : unindented (caret column pos tail).line = '^' :: tail.1 := by
      rw [line, unindented_spaces, unindented_cons (by decide)]
    rw [ofLine_caret hun, hind, if_pos column.toNat_lt_size, UInt32.ofNat_toNat]
    rfl
  | spaces k pos =>
    have hun : unindented (spaces k pos).line = [] := by
      have := unindented_spaces k []
      rwa [List.append_nil] at this
    rw [ofLine_blank hun]
    rfl

end PrintedPointer

inductive Item
  | chatter (l : { l : Line // IsSolid l }) (notMarker : ¬errorMarker.toList <+: l.1)
    (notNotice : ¬skeletonNotice.toList <+: l.1)
  | notice (tail : { l : Line // IsUnbroken l })
  | block (name : { l : Line // IsUnbroken l }) (line : UInt32)
    (text context : { l : Line // IsSolid l }) (pointer : PrintedPointer)

namespace Item

/-- The lines that an item is printed as. -/
def lines : Item → List Line
  | chatter l _ _ => [l.1]
  | notice tail => [skeletonNotice.toList ++ tail.1]
  | block name line text context pointer =>
    [markerLine name.1 line, text.1, context.1, pointer.line]

/-- The chatter of an item. -/
def chatter? : Item → Option Message
  | chatter l _ _ => some { text := String.ofList l.1 }
  | _ => none

/-- The error of an item. -/
def error? : Item → Option Message
  | block _ line text _ pointer =>
    some { text := String.ofList text.1, line := some line, column := pointer.column? }
  | _ => none

lemma isSolid_markerLine {name : Line} (h : IsUnbroken name) (line : UInt32) :
    IsSolid (markerLine name line) := by
  refine ⟨by simp [markerLine, errorMarker], ?_⟩
  have h1 : IsUnbroken (errorMarker.toList ++ " \"".toList) := by decide
  have h2 : IsUnbroken "\" (line ".toList := by decide
  have h3 : IsUnbroken "):".toList := by decide
  exact (((h1.append h).append h2).append (isUnbroken_numeral _)).append h3

lemma isSolid_of_mem_lines {i : Item} {l : Line} (h : l ∈ i.lines) : IsSolid l := by
  cases i with
  | chatter l' _ _ => rw [List.mem_singleton.mp h]; exact l'.2
  | notice tail =>
    have hn : IsUnbroken skeletonNotice.toList := by decide
    rw [List.mem_singleton.mp h]
    exact ⟨by simp [skeletonNotice], hn.append tail.2⟩
  | block name line text context pointer =>
    simp only [lines, List.mem_cons, List.not_mem_nil, or_false] at h
    rcases h with rfl | rfl | rfl | rfl
    · exact isSolid_markerLine name.2 line
    · exact text.2
    · exact context.2
    · exact pointer.isSolid_line

/-- **One item is read on its own**, whatever lines follow. -/
lemma messagesOf_lines (i : Item) (ls : List Line) :
    messagesOf (i.lines ++ ls) =
      Messages.merge ⟨i.chatter?.toList, i.error?.toList⟩ (messagesOf ls) := by
  cases i with
  | chatter l hm hn =>
    have hm' : isMarker l.1 → ls.length < 3 := fun h => absurd ((isMarker_iff _).mp h) hm
    have hc : remark l.1 = { informational := [{ text := String.ofList l.1 }] } := by
      simp [remark, l.2.1, hn]
    rw [lines, List.singleton_append, messagesOf_line hm', hc]
    rfl
  | notice tail =>
    have hm : ¬isMarker (skeletonNotice.toList ++ tail.1) := by
      simp [isMarker, errorMarker, skeletonNotice]
    have hc : remark (skeletonNotice.toList ++ tail.1) = .empty := by
      simp [remark]
    rw [lines, List.singleton_append, messagesOf_line fun h => absurd h hm, hc]
    rfl
  | block name line text context pointer =>
    have hm : isMarker (markerLine name.1 line) := by
      rw [isMarker_iff]; simp [markerLine, List.append_assoc]
    have hp : Pointer.ofLine pointer.line ≠ .foreign := by
      rw [pointer.ofLine_line]; split <;> simp
    have he : blockError (markerLine name.1 line) text.1 pointer.line =
        { text := String.ofList text.1, line := some line, column := pointer.column? } := by
      rw [blockError, ofMarker_markerLine, pointer.ofLine_line]
      cases pointer.column? <;> rfl
    simp only [lines, List.cons_append, List.nil_append]
    rw [messagesOf_block hm hp, he]
    rfl

lemma messagesOf_flatMap_lines (items : List Item) (ls : List Line) :
    messagesOf (items.flatMap lines ++ ls) =
      Messages.merge ⟨items.filterMap chatter?, items.filterMap error?⟩ (messagesOf ls) := by
  induction items with
  | nil => rw [List.flatMap_nil, List.nil_append]; rfl
  | cons i items ih =>
    rw [List.flatMap_cons, List.append_assoc, messagesOf_lines, ih, ← Messages.merge_assoc]
    cases hc : i.chatter? <;> cases he : i.error? <;> simp [hc, he, Messages.merge]

end Item

/-- **Reading undoes printing.** Items are printed as their lines, each with a break of its
own behind it. -/
theorem parse_printed (items : List Item) (ls : List (Line × Break))
    (hls : ls.map Prod.fst = items.flatMap Item.lines)
    (hv : items = [] ∨ ∃ l ∈ items.flatMap Item.lines, ∃ c ∈ l, ¬isBlank c) :
    (parse (String.ofList (printed ls))).value =
      { informational := items.filterMap Item.chatter?
        errors := items.filterMap Item.error? } := by
  have hsolid : ∀ l ∈ ls, IsSolid l.1 := by
    intro l hl
    have hmem : l.1 ∈ items.flatMap Item.lines := hls ▸ List.mem_map_of_mem hl
    obtain ⟨i, -, hi⟩ := List.mem_flatMap.mp hmem
    exact Item.isSolid_of_mem_lines hi
  rcases hv with rfl | ⟨l, hl, c, hc, hcv⟩
  · have hnil : ls = [] := by simpa using hls
    rw [hnil, parse_of_blank (by simp [printed])]
    rfl
  · have hv : ∃ c ∈ (String.ofList (printed ls)).toList, ¬isBlank c := by
      rw [← hls, List.mem_map] at hl
      obtain ⟨x, hx, rfl⟩ := hl
      refine ⟨c, ?_, hcv⟩
      rw [String.toList_ofList]
      exact List.mem_flatMap.mpr ⟨x, hx, List.mem_append_left _ hc⟩
    have hend : messagesOf [[]] = .empty := by simp [messagesOf, remark]
    rw [parse_of_visible hv, String.toList_ofList, lines_printed hsolid, hls,
      ← messagesOf_eq_collect, Item.messagesOf_flatMap_lines, hend, Messages.merge_empty]

/-- A file name that looks like the end of a marker, a message that begins as a marker and a
context line that begins as a notice. -/
theorem parse_printed_imitations :
    let items : List Item :=
      [.notice ⟨": x".toList, by decide⟩,
        .block ⟨"a\" (line 3):".toList, by decide⟩ 72 ⟨"Error in file".toList, by decide⟩
          ⟨"Reading skeleton file".toList, by decide⟩ (.caret 7 (by decide) ⟨[], by decide⟩),
        .chatter ⟨"done".toList, by decide⟩ (by decide) (by decide)]
    let ls := (items.flatMap Item.lines).map fun l =>
      (l, (⟨['\r', '\n'], by simp, by simp [isBreak]⟩ : Break))
    ls.map Prod.fst = items.flatMap Item.lines ∧
      (∃ l ∈ items.flatMap Item.lines, ∃ c ∈ l, ¬isBlank c) ∧
      (parse (String.ofList (printed ls))).value =
        { informational := [{ text := "done" }]
          errors := [{ text := "Error in file", line := some 72, column := some 7 }] } := by
  intro items ls
  have hls : ls.map Prod.fst = items.flatMap Item.lines := by simp [ls, Function.comp_def]
  have hv : ∃ l ∈ items.flatMap Item.lines, ∃ c ∈ l, ¬isBlank c :=
    ⟨"done".toList, by simp [items, Item.lines], 'd', by decide, by decide⟩
  exact ⟨hls, hv, (parse_printed items ls hls (.inr hv)).trans (by decide)⟩

end JFlexReport.Console
