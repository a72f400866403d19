import JFlexReport.Proofs.Breaks
import JFlexReport.Proofs.LineSuffix
import JFlexReport.Proofs.Places

/-!
What the log says about the blocks of a text.

A block can be off in two ways: the number in its marker does not fit, or its last line is no
pointer. Each leaves a record, the first in front of the second, and nothing else in a text
leaves any. The second record names the pointer line by its place among the lines; a step of
the scan finds that place from where its reader stands after the block, so the number is
right only because the reader is never cut short at the end of the lines.
-/

namespace JFlexReport.Console

open Text Log

/-! ### What can be off about a block -/

/-- The number in the marker does not fit in 32 bits. -/
def IsOversized (marker : Line) : Prop :=
  ∃ ds t, t <:+ marker ∧ IsLineSuffix ds t ∧ UInt32.size ≤ digitsValue ds

lemma ofMarker_eq_tooLarge_iff (marker : Line) :
    LineNumber.ofMarker marker = .tooLarge ↔ IsOversized marker := by
  constructor
  · intro h
    rcases hd : lineDigits? marker with _ | ds
    · rw [ofMarker_of_none hd] at h
      cases h
    · obtain ⟨t, ht, hds⟩ := lineDigits?_eq_some_iff.mp hd
      exact ⟨ds, t, ht, hds, (ofMarker_eq_tooLarge hd).mp h⟩
  · rintro ⟨ds, t, ht, hds, hlarge⟩
    exact (ofMarker_eq_tooLarge (lineDigits?_eq_some_iff.mpr ⟨t, ht, hds⟩)).mpr hlarge

instance : DecidablePred IsOversized := fun m => decidable_of_iff _ (ofMarker_eq_tooLarge_iff m)

/-- The first character that is no space is no caret either. -/
def IsForeign (pointer : Line) : Prop := ∃ c ∈ (unindented pointer).head?, c ≠ '^'

lemma ofLine_eq_foreign_iff (pointer : Line) :
    Pointer.ofLine pointer = .foreign ↔ IsForeign pointer := by
  unfold IsForeign
  rcases hs : unindented pointer with _ | ⟨c, s⟩
  · simp [ofLine_blank hs]
  · by_cases hc : c = '^'
    · subst hc
      simp [ofLine_caret_ne hs]
    · simp [ofLine_foreign hs hc, hc]

instance : DecidablePred IsForeign := fun p => decidable_of_iff _ (ofLine_eq_foreign_iff p)

/-- Says that the number in a marker is left out. -/
def unusableNumber (marker : Line) : Record :=
  ⟨.debug, .parser, "Ignoring unusable line number in " ++ String.ofList (quoted marker) ++
    ": number too large to fit in target type"⟩

/-- Says that the line with this number, counted from 1, is no pointer. -/
def unusablePointer (n : ℕ) : Record :=
  ⟨.debug, .parser, "Line " ++ String.ofList (numeral n) ++
    " is not a caret pointer, re-reading the block context as output"⟩

lemma records_ofMarker (marker : Line) :
    (LineNumber.ofMarker marker).records marker =
      if IsOversized marker then [unusableNumber marker] else [] := by
  simp only [← ofMarker_eq_tooLarge_iff]
  cases LineNumber.ofMarker marker <;> simp [LineNumber.records, unusableNumber]

/-! ### The blocks of a text -/

/-- The lines of a block that count, with the place of the marker. -/
structure Block where
  start : ℕ
  marker : Line
  text : Line
  pointer : Line

namespace Block

/-- The block is made of the lines found at its place. -/
def StandsIn (ls : List Line) (b : Block) : Prop :=
  errorMarker.toList <+: b.marker ∧ ls[b.start]? = some b.marker ∧
    ls[b.start + 1]? = some b.text ∧ ls[b.start + 3]? = some b.pointer

def error (b : Block) : Message := blockError b.marker b.text b.pointer

/-- What is off about the block. The pointer line is counted from 1. -/
def records (b : Block) : List Record :=
  (if IsOversized b.marker then [unusableNumber b.marker] else []) ++
    if IsForeign b.pointer then [unusablePointer (b.start + 4)] else []

end Block

/-- The blocks of a list of lines, the first of which is at `n`. A block with a foreign pointer
gives its last two lines back. -/
def blocksOf (n : ℕ) : List Line → List Block
  | [] => []
  | m :: t :: c :: p :: rest =>
    if errorMarker.toList <+: m then
      ⟨n, m, t, p⟩ ::
        if IsForeign p then blocksOf (n + 2) (c :: p :: rest) else blocksOf (n + 4) rest
    else blocksOf (n + 1) (t :: c :: p :: rest)
  | _ :: rest => blocksOf (n + 1) rest

def Segment.block? : Segment → Option Block
  | line _ _ => none
  | block n m t _ p => some ⟨n, m, t, p⟩

lemma blocksOf_line {l : Line} {ls : List Line} (h : isMarker l → ls.length < 3) (n : ℕ) :
    blocksOf n (l :: ls) = blocksOf (n + 1) ls := by
  match ls with
  | t :: c :: p :: ls' => rw [blocksOf, if_neg (not_marker_of_line h)]
  | [] => rfl
  | [_] => rfl
  | [_, _] => rfl

lemma blocksOf_eq (n : ℕ) (ls : List Line) :
    blocksOf n ls = (segments n ls).filterMap Segment.block? := by
  induction ls using segment_induction generalizing n with
  | nil => rw [segments_nil]; rfl
  | line l ls h ih => rw [segments_line h, blocksOf_line h, ih]; rfl
  | block m t c p ls hm hp ih =>
    have hp' : ¬IsForeign p := by rwa [← ofLine_eq_foreign_iff]
    rw [segments_block hm hp, blocksOf, if_pos ((isMarker_iff m).mp hm), if_neg hp', ih]
    rfl
  | broken m t c p ls hm hp ih =>
    have hp' : IsForeign p := by rwa [← ofLine_eq_foreign_iff]
    rw [segments_broken hm hp, blocksOf, if_pos ((isMarker_iff m).mp hm), if_pos hp', ih]
    rfl

lemma standsIn_of_mem {ls : List Line} {b : Block} (h : b ∈ blocksOf 0 ls) : b.StandsIn ls := by
  rw [blocksOf_eq] at h
  obtain ⟨s, hs, hb⟩ := List.mem_filterMap.mp h
  cases s with
  | line n l => cases hb
  | block n m t c p =>
    cases hb
    obtain ⟨hm, hgm, hgt, -, hgp⟩ := sits_of_mem hs
    exact ⟨(isMarker_iff m).mp hm, hgm, hgt, hgp⟩

/-! ### Their errors and their records -/

lemma errors_segment (s : Segment) : s.messages.errors = s.block?.toList.map Block.error := by
  cases s with
  | line n l =>
    rw [Segment.messages]
    split <;> rfl
  | block n m t c p => rfl

lemma records_segment (s : Segment) : s.records = s.block?.toList.flatMap Block.records := by
  cases s with
  | line n l => rfl
  | block n m t c p =>
    simp [Segment.records, Segment.block?, Block.records, records_ofMarker, ofLine_eq_foreign_iff,
      foreignPointer, unusablePointer]

lemma errors_collect (n : ℕ) (ls : List Line) :
    (collect (segments n ls)).errors = (blocksOf n ls).map Block.error := by
  have h := get_collect .error (segments n ls)
  rw [Messages.get] at h
  rw [h, blocksOf_eq, List.filterMap_eq_flatMap_toList, List.map_flatMap]
  exact List.flatMap_congr fun s _ => errors_segment s

lemma records_segments (n : ℕ) (ls : List Line) :
    (segments n ls).flatMap Segment.records = (blocksOf n ls).flatMap Block.records := by
  rw [blocksOf_eq, List.filterMap_eq_flatMap_toList, List.flatMap_assoc]
  exact List.flatMap_congr fun s _ => records_segment s

/-! ### Whole texts -/

/-- The blocks of a text. -/
def textBlocks (raw : String) : List Block := blocksOf 0 (lines raw.toList)

lemma textBlocks_of_blank {raw : String} (h : ¬∃ c ∈ raw.toList, ¬isBlank c) :
    textBlocks raw = [] := by
  refine List.eq_nil_iff_forall_not_mem.mpr fun b hb => h ?_
  obtain ⟨hm, hget, -⟩ := standsIn_of_mem hb
  have hE : 'E' ∈ b.marker := hm.subset (by decide)
  exact ⟨'E', (mem_of_mem_splitRuns (List.mem_of_getElem? hget) hE).1, by decide⟩

lemma parse_textBlocks (raw : String) :
    (parse raw).value.errors = (textBlocks raw).map Block.error ∧
      (parse raw).records = (textBlocks raw).flatMap Block.records := by
  by_cases h : ∃ c ∈ raw.toList, ¬isBlank c
  · rw [parse_of_visible h]
    exact ⟨errors_collect 0 _, records_segments 0 _⟩
  · rw [parse_of_blank h, textBlocks_of_blank h]
    exact ⟨rfl, rfl⟩

lemma level_of_mem_records {b : Block} {r : Record} (h : r ∈ b.records) : r.level = .debug := by
  rw [Block.records, List.mem_append] at h
  rcases h with h | h
  · split at h
    · rw [List.mem_singleton.mp h]; rfl
    · cases h
  · split at h
    · rw [List.mem_singleton.mp h]; rfl
    · cases h

/-- **The log tells what was off about the errors**, and no more. The blocks of both streams, in
the order of their errors, each leave their own records, all of them for debugging. -/
theorem records_parseStreams (stdout stderr : String) :
    (parseStreams stdout stderr).value.errors =
        (textBlocks stdout ++ textBlocks stderr).map Block.error ∧
      (parseStreams stdout stderr).records =
        (textBlocks stdout ++ textBlocks stderr).flatMap Block.records ∧
      (∀ r ∈ (parseStreams stdout stderr).records, r.level = .debug) ∧
      (∀ b ∈ textBlocks stdout, b.StandsIn (lines stdout.toList)) ∧
      ∀ b ∈ textBlocks stderr, b.StandsIn (lines stderr.toList) := by
  obtain ⟨hout, hout'⟩ := parse_textBlocks stdout
  obtain ⟨herr, herr'⟩ := parse_textBlocks stderr
  have hrecords : (parseStreams stdout stderr).records =
      (textBlocks stdout ++ textBlocks stderr).flatMap Block.records := by
    have h : (parseStreams stdout stderr).records =
        (parse stdout).records ++ (parseInto stderr (parse stdout).value).records := rfl
    rw [h, parseInto_eq, hout', herr', List.flatMap_append]
  refine ⟨?_, hrecords, fun r hr => ?_, fun b => standsIn_of_mem, fun b => standsIn_of_mem⟩
  · rw [value_parseStreams, Messages.merge, hout, herr, List.map_append]
  · rw [hrecords, List.mem_flatMap] at hr
    obtain ⟨b, -, hb⟩ := hr
    exact level_of_mem_records hb

/-- A block can be off in both ways. -/
example :
    (textBlocks "chatter\nError in file \"a\" (line 4294967296):\nm\nc\nx").flatMap Block.records =
      [unusableNumber "Error in file \"a\" (line 4294967296):".toList, unusablePointer 5] := by
  rfl

example :
    (unusableNumber "(\t\"):".toList).message =
        "Ignoring unusable line number in \"(\\t\\\"):\": number too large to fit in target type" ∧
      (unusablePointer 5).message =
        "Line 5 is not a caret pointer, re-reading the block context as output" := by
  decide +kernel

end JFlexReport.Console
