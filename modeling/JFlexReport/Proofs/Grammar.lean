import JFlexReport.Proofs.Segment

/-!
The grammar of console output, as a recursion on the list of lines that neither looks back
nor counts.

A marker with three lines behind it is a block and gives one error. When its last line is a
caret behind spaces, or nothing but spaces, the block is complete and the reading goes on
behind it; otherwise the reading goes on with the context line. Every other line is chatter
or dropped. The scan computes exactly this.
-/

namespace JFlexReport.Console

open Text

/-- The error of a block, at the column `k` if there is one, as far as the position can be
given: a column needs a line, and has to fit in 32 bits. -/
def report (marker text : Line) (k : Option ℕ) : Messages :=
  let line := (LineNumber.ofMarker marker).line?
  { errors := [
      { text := String.ofList text
        line
        column := if line.isSome then (k.filter (· < UInt32.size)).map UInt32.ofNat else none }] }

/-- A line on its own. -/
def remark (l : Line) : Messages :=
  if l = [] ∨ skeletonNotice.toList <+: l then .empty
  else { informational := [{ text := String.ofList l }] }

/-- The messages of a list of lines. -/
def messagesOf : List Line → Messages
  | [] => .empty
  | m :: t :: c :: p :: rest =>
    if errorMarker.toList <+: m then
      match unindented p with
      | '^' :: _ => (report m t (some (indent p + 1))).merge (messagesOf rest)
      | [] => (report m t none).merge (messagesOf rest)
      | _ :: _ => (report m t none).merge (messagesOf (c :: p :: rest))
    else (remark m).merge (messagesOf (t :: c :: p :: rest))
  | l :: rest => (remark l).merge (messagesOf rest)

/-! ### The recursion by segments -/

lemma isMarker_iff (l : Line) : isMarker l ↔ errorMarker.toList <+: l :=
  List.isPrefixOf_iff_prefix

lemma isNotice_iff (l : Line) : isNotice l ↔ skeletonNotice.toList <+: l :=
  List.isPrefixOf_iff_prefix

lemma ne_nil_of_isMarker {l : Line} (h : isMarker l) : l ≠ [] := by
  rintro rfl; exact absurd h (by decide)

lemma ne_nil_of_isNotice {l : Line} (h : isNotice l) : l ≠ [] := by
  rintro rfl; exact absurd h (by decide)

lemma not_isNotice_of_isMarker {l : Line} (h : isMarker l) : ¬isNotice l := by
  intro h'
  rw [isMarker_iff] at h
  rw [isNotice_iff] at h'
  rcases l with _ | ⟨c, l⟩
  · exact absurd h (by decide)
  · have h1 : 'E' = c := (List.cons_prefix_cons.mp h).1
    have h2 : 'R' = c := (List.cons_prefix_cons.mp h').1
    exact absurd (h1.trans h2.symm) (by decide)

lemma messages_line (n : ℕ) (l : Line) : (Segment.line n l).messages = remark l := by
  simp [Segment.messages, remark, ← isNotice_iff, or_comm, Message.plain]

lemma report_column (m t : Line) {k : ℕ} {p : Line}
    (hp : Pointer.ofLine p =
      if k < UInt32.size then .column (UInt32.ofNat k) else .blank) :
    report m t (some k) = { errors := [blockError m t p] } := by
  by_cases hk : k < UInt32.size <;> cases hn : LineNumber.ofMarker m <;>
    simp_all [report, blockError, Message.positioned, LineNumber.line?, Pointer.column?,
      Option.filter]

lemma report_none (m t : Line) {p : Line} (hp : (Pointer.ofLine p).column? = none) :
    report m t none = { errors := [blockError m t p] } := by
  cases hn : LineNumber.ofMarker m <;>
    simp_all [report, blockError, Message.positioned, LineNumber.line?]

section Block

variable {m t c p : Line} {ls : List Line}

lemma not_marker_of_line {l : Line} (h : isMarker l → (t :: c :: p :: ls).length < 3) :
    ¬errorMarker.toList <+: l := by
  intro hm
  have := h ((isMarker_iff l).mpr hm)
  simp only [List.length_cons] at this; omega

lemma messagesOf_line {l : Line} (h : isMarker l → ls.length < 3) :
    messagesOf (l :: ls) = (remark l).merge (messagesOf ls) := by
  match ls with
  | t :: c :: p :: ls' => rw [messagesOf, if_neg (not_marker_of_line h)]
  | [] => rfl
  | [_] => rfl
  | [_, _] => rfl

lemma messagesOf_block (hm : isMarker m) (hp : Pointer.ofLine p ≠ .foreign) :
    messagesOf (m :: t :: c :: p :: ls) =
      Messages.merge { errors := [blockError m t p] } (messagesOf ls) := by
  rw [messagesOf, if_pos ((isMarker_iff m).mp hm)]
  split
  · next s hs => rw [report_column m t (ofLine_caret hs)]
  · next hs => rw [report_none m t (by rw [ofLine_blank hs]; rfl)]
  · next x s hx hs =>
    exact absurd (ofLine_foreign hs hx) hp

lemma messagesOf_broken (hm : isMarker m) (hp : Pointer.ofLine p = .foreign) :
    messagesOf (m :: t :: c :: p :: ls) =
      Messages.merge { errors := [blockError m t p] } (messagesOf (c :: p :: ls)) := by
  rw [messagesOf, if_pos ((isMarker_iff m).mp hm)]
  split
  · next s hs => exact absurd hp (ofLine_caret_ne hs)
  · next hs => exact absurd hp (by simp [ofLine_blank hs])
  · rw [report_none m t (by rw [hp]; rfl)]

end Block

lemma messagesOf_eq_collect (n : ℕ) (ls : List Line) :
    messagesOf ls = collect (segments n ls) := by
  induction ls using segment_induction generalizing n with
  | nil => rw [segments_nil]; rfl
  | line l ls h ih => rw [segments_line h, messagesOf_line h, collect_cons, messages_line, ← ih]
  | block m t c p ls hm hp ih =>
    rw [segments_block hm hp, messagesOf_block hm hp, collect_cons, ← ih]; rfl
  | broken m t c p ls hm hp ih =>
    rw [segments_broken hm hp, messagesOf_broken hm hp, collect_cons, ← ih]; rfl

/-! ### Whole texts -/

lemma parseInto_of_blank {raw : String} (h : ¬∃ c ∈ raw.toList, ¬isBlank c) (ms : Messages) :
    parseInto raw ms = ⟨ms, []⟩ := by
  rw [← allBlank_eq_false_iff, Bool.not_eq_false] at h
  rw [parseInto, if_pos h]

lemma parseInto_of_visible {raw : String} (h : ∃ c ∈ raw.toList, ¬isBlank c) (ms : Messages) :
    parseInto raw ms = scan (.ofList (lines raw.toList)) ms := by
  rw [← allBlank_eq_false_iff] at h
  rw [parseInto, if_neg (by simp [h])]

lemma parse_of_blank {raw : String} (h : ¬∃ c ∈ raw.toList, ¬isBlank c) :
    parse raw = ⟨.empty, []⟩ :=
  parseInto_of_blank h _

lemma parse_empty : parse "" = ⟨.empty, []⟩ := parse_of_blank (by simp)

lemma parse_of_visible {raw : String} (h : ∃ c ∈ raw.toList, ¬isBlank c) :
    parse raw =
      ⟨collect (segments 0 (lines raw.toList)),
        (segments 0 (lines raw.toList)).flatMap Segment.records⟩ := by
  rw [parse, parseInto_of_visible h, scan_eq, LineReader.rest_ofList, Messages.empty_merge]
  rfl

lemma value_parse (raw : String) :
    (parse raw).value =
      if allBlank raw.toList then .empty else messagesOf (lines raw.toList) := by
  by_cases h : ∃ c ∈ raw.toList, ¬isBlank c
  · rw [parse_of_visible h, (allBlank_eq_false_iff _).mpr h, messagesOf_eq_collect 0]
    rfl
  · rw [parse_of_blank h]
    rw [← allBlank_eq_false_iff, Bool.not_eq_false] at h
    rw [h]
    rfl

/-- **A text is read as if it were the only one**: its messages come behind those of earlier
texts, and neither they nor its records depend on them. -/
theorem parseInto_eq (raw : String) (ms : Messages) :
    parseInto raw ms = ⟨ms.merge (parse raw).value, (parse raw).records⟩ := by
  by_cases h : ∃ c ∈ raw.toList, ¬isBlank c
  · rw [parse_of_visible h, parseInto_of_visible h, scan_eq, LineReader.rest_ofList]
    rfl
  · rw [parse_of_blank h, parseInto_of_blank h, Messages.merge_empty]

lemma value_parseStreams (stdout stderr : String) :
    (parseStreams stdout stderr).value = (parse stdout).value.merge (parse stderr).value :=
  congrArg Log.Logged.value (parseInto_eq stderr (parse stdout).value)

/-- **The scan computes the grammar**: a text in which something can be seen has the
messages that the recursion on its lines gives. -/
theorem parse_eq_messagesOf (raw : String) (h : ∃ c ∈ raw.toList, ¬isBlank c) :
    (parse raw).value = messagesOf (lines raw.toList) := by
  rw [parse_of_visible h, messagesOf_eq_collect 0]

/-- The context line of the first block is the marker of the second. -/
theorem parse_eq_messagesOf_reread :
    let raw := "Error in file \"a\" (line 7):\nm\nError in file \"b\" (line 8):\nn\n%%\n  ^\n"
    (∃ c ∈ raw.toList, ¬isBlank c) ∧
      (parse raw).value =
        { errors := [{ text := "m", line := some 7 },
            { text := "n", line := some 8, column := some 3 }] } := by
  intro raw
  have h : ∃ c ∈ raw.toList, ¬isBlank c := ⟨'E', by decide, by decide⟩
  refine ⟨h, ?_⟩
  rw [parse_eq_messagesOf raw h]
  decide

end JFlexReport.Console
