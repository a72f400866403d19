import JFlexReport.Proofs.BlockRecords

/-!
The turns of a scan.

A scan reads one segment in each turn, and the reader stands further ahead after every one of
them. A block without a pointer is where it steps back, by two of the four lines that it has
just taken; since a block is only opened where three lines follow its marker, the four lines are
there and so are the two. So a scan has at most as many turns as there are lines, and it stops
behind the last line and nowhere else.
-/

namespace JFlexReport.Console

open Text Log

/-- What a turn does to the reader when it takes a line on its own: the line opens no block, and
the reader moves on by one. -/
structure TakesLine (r : LineReader Line) (l : Line) (r' : LineReader Line) : Prop where
  opens_none : ¬(isMarker l ∧ blockTail ≤ r.remaining)
  position : r'.position = r.position + 1

/-- What a turn does to the reader when it takes a block. All that is looked up is there, the
reader is not held up by the end of the lines, and stepping back brings it to the context
line. -/
structure TakesBlock (r : LineReader Line) (marker text context pointer : Line)
    (r' : LineReader Line) : Prop where
  opens : isMarker marker ∧ blockTail ≤ r.remaining
  marker_eq : r.current = some marker
  text_eq : r.peek 1 = some text
  context_eq : r.peek 2 = some context
  pointer_eq : r.peek blockTail = some pointer
  past : (r.advance (blockTail + 1)).position = r.position + (blockTail + 1)
  complete : ¬IsForeign pointer →
    r' = r.advance (blockTail + 1) ∧ r'.position = r.position + 4
  broken : IsForeign pointer →
    2 ≤ (r.advance (blockTail + 1)).position ∧
      r' = (r.advance (blockTail + 1)).retreat 2 ∧ r'.position = r.position + 2 ∧
      r'.current = some context

/-- What a turn at the line `l` does to the reader. -/
def TakesOne (r : LineReader Line) (l : Line) (r' : LineReader Line) : Prop :=
  TakesLine r l r' ∨ ∃ text context pointer, TakesBlock r l text context pointer r'

/-- **A turn takes a line or a block.** -/
lemma takesOne_step {r : LineReader Line} {l : Line} (h : r.current = some l) (ms : Messages) :
    TakesOne r l (step r l ms).reader := by
  obtain ⟨ls, hrest⟩ := LineReader.exists_rest h
  have hsize := LineReader.position_add_length_rest hrest
  have hremaining := r.remaining_eq
  have hstep := step_eq hrest ms
  rw [hrest, List.length_cons] at hsize hremaining
  obtain ⟨t, c, p, ls', rfl, hm, hf⟩ | ⟨hm, hf⟩ := Segment.first_cases r.position l ls
  · -- three lines follow the marker, so four lines can be taken
    simp only [List.length_cons] at hsize hremaining
    have hend : min (r.position + 4) r.lines.size = r.position + 4 := by omega
    have hreader : (step r l ms).reader =
        { r with position := r.position + if IsForeign p then 2 else 4 } := by
      simp [hstep, hf, Segment.stop, Segment.start, Segment.width, ofLine_eq_foreign_iff]
    have hblock : TakesBlock r l t c p (step r l ms).reader := by
      refine ⟨⟨hm, by rw [hremaining, blockTail]; omega⟩, h, ?_, ?_, ?_, hend, fun hp => ?_,
        fun hp => ?_⟩
      · rw [LineReader.peek_eq, hrest]; rfl
      · rw [LineReader.peek_eq, hrest]; rfl
      · rw [LineReader.peek_eq, hrest]; rfl
      · rw [hreader, if_neg hp]
        simp [LineReader.advance, blockTail, hend]
      · rw [hreader, if_pos hp]
        refine ⟨?_, ?_, rfl, ?_⟩
        · rw [LineReader.position_advance, blockTail, hend]; omega
        · simp [LineReader.advance, LineReader.retreat, blockTail, hend]
        · -- the lines that are left begin with the context line
          have hleft : r.rest.drop 2 = c :: p :: ls' := by rw [hrest]; rfl
          rw [LineReader.current_eq, LineReader.rest, ← List.drop_drop, ← LineReader.rest, hleft]
          rfl
    exact .inr ⟨t, c, p, hblock⟩
  · refine .inl ⟨?_, ?_⟩
    · rintro ⟨h1, h2⟩
      have := hm h1
      rw [hremaining, blockTail] at h2
      omega
    · simp [hstep, hf, Segment.stop, Segment.start, Segment.width]

/-! ### Turns in a row -/

/-- Where a scan stands after a turn at the line `l`. -/
def Progress.next (p : Progress) (l : Line) : Progress :=
  let q := step p.reader l p.messages
  { q with records := p.records ++ q.records }

/-- The progress that `n` turns make. -/
inductive Turns (p : Progress) : ℕ → Progress → Prop
  | start : Turns p 0 p
  | turn {n : ℕ} {q : Progress} {l : Line} (h : Turns p n q) (hl : q.reader.current = some l) :
    Turns p (n + 1) (q.next l)

lemma position_lt_next {q : Progress} {l : Line} (hl : q.reader.current = some l) :
    q.reader.position < (q.next l).reader.position ∧
      (q.next l).reader.position ≤ q.reader.lines.size := by
  have hlt : q.reader.position < q.reader.lines.size := by
    simpa using LineReader.lt_size_of_peek (k := 0) hl
  have hnext : (q.next l).reader = (step q.reader l q.messages).reader := rfl
  rw [hnext]
  rcases takesOne_step hl q.messages with h | ⟨t, c, p, h⟩
  · rw [h.position]
    omega
  · have hpast := h.past
    rw [LineReader.position_advance, blockTail] at hpast
    by_cases hp : IsForeign p
    · have := (h.broken hp).2.2.1
      omega
    · have := (h.complete hp).2
      omega

lemma scan_of_current {r : LineReader Line} {l : Line} (hl : r.current = some l) (ms : Messages) :
    scan r ms = (scan (step r l ms).reader (step r l ms).messages).after (step r l ms).records := by
  rw [scan]
  split
  · next h =>
    rw [h] at hl
    cases hl
  · next l' h =>
    rw [h] at hl
    cases hl
    rfl

lemma scan_of_end {r : LineReader Line} (h : r.current = none) (ms : Messages) :
    scan r ms = ⟨ms, []⟩ := by
  rw [scan]
  split
  · rfl
  · next l' h' =>
    rw [h] at h'
    cases h'

variable {p q : Progress} {n : ℕ}

lemma lines_of_turns (h : Turns p n q) : q.reader.lines = p.reader.lines := by
  induction h with
  | start => rfl
  | turn h hl ih => rw [← ih]; exact lines_step _ _ _

/-- What is left of a scan after some turns, added to what they gave, is the whole scan. -/
lemma scan_of_turns (h : Turns p n q) :
    (scan q.reader q.messages).after q.records = (scan p.reader p.messages).after p.records := by
  induction h with
  | start => rfl
  | @turn n q l h hl ih =>
    rw [← ih, scan_of_current hl]
    simp [Progress.next, Logged.after]

lemma add_le_position (h : Turns p n q) : p.reader.position + n ≤ q.reader.position := by
  induction h with
  | start => exact Nat.le_refl _
  | turn h hl ih =>
    have := (position_lt_next hl).1
    omega

lemma position_le_size (h : Turns p n q) (hp : p.reader.position ≤ p.reader.lines.size) :
    q.reader.position ≤ p.reader.lines.size := by
  induction h with
  | start => exact hp
  | turn h hl ih =>
    rw [← lines_of_turns h]
    exact (position_lt_next hl).2

lemma position_of_end {r : LineReader Line} (h : r.current = none) :
    r.lines.size ≤ r.position := by
  simpa [LineReader.current, LineReader.peek] using h

lemma Turns.head {l : Line} (hl : p.reader.current = some l) (h : Turns (p.next l) n q) :
    Turns p (n + 1) q := by
  induction h with
  | start => exact .turn .start hl
  | turn _ hl' ih => exact .turn ih hl'

/-- **The turns come to an end.** -/
lemma exists_last (p : Progress) : ∃ n q, Turns p n q ∧ q.reader.current = none := by
  -- by the lines that are left
  induction hk : p.reader.lines.size - p.reader.position using Nat.strongRecOn generalizing p with
  | ind k ih =>
    rcases hl : p.reader.current with _ | l
    · exact ⟨0, p, .start, hl⟩
    · obtain ⟨hlt, hle⟩ := position_lt_next hl
      have hlines : (p.next l).reader.lines = p.reader.lines := lines_step _ _ _
      obtain ⟨n, q, h, hq⟩ := ih _ (by rw [hlines, ← hk]; omega) (p.next l) rfl
      exact ⟨n + 1, q, h.head hl, hq⟩

/-! ### Whole texts -/

/-- A scan of a text before its first turn. -/
def beginning (raw : String) (ms : Messages) : Progress where
  reader := .ofList (lines raw.toList)
  messages := ms

/-- What holds of a scan after some turns: the lines are those of the text, and every turn has
brought the reader further without leaving them. -/
structure OnTheWay (raw : String) (n : ℕ) (p : Progress) : Prop where
  lines_eq : p.reader.lines.toList = lines raw.toList
  turns_le : n ≤ p.reader.position
  position_le : p.reader.position ≤ (lines raw.toList).length

lemma onTheWay_of_turns {raw : String} {ms : Messages} (h : Turns (beginning raw ms) n p) :
    OnTheWay raw n p := by
  have hle := add_le_position h
  have hsize := position_le_size h (Nat.zero_le _)
  refine ⟨?_, ?_, ?_⟩
  · rw [lines_of_turns h]
    simp [beginning, LineReader.ofList]
  · simpa [beginning, LineReader.ofList] using hle
  · simpa [beginning, LineReader.ofList] using hsize

/-- **A scan makes progress in every turn.** Every turn takes a line or a block, which brings the
reader ahead by one line, by four, or by two where it steps back to the context line; nothing
that it looks up is missing. So there are at most as many turns as lines, and a text that is
read at all is read to the end of its last line. -/
theorem scan_progress (raw : String) (h : ∃ c ∈ raw.toList, ¬isBlank c) (ms : Messages) :
    (∀ n p l, Turns (beginning raw ms) n p → p.reader.current = some l →
        TakesOne p.reader l (p.next l).reader ∧
          p.reader.position < (p.next l).reader.position) ∧
      (∀ n p, Turns (beginning raw ms) n p → OnTheWay raw n p) ∧
      ∃ n last, Turns (beginning raw ms) n last ∧ n ≤ (lines raw.toList).length ∧
        last.reader.current = none ∧ last.reader.position = (lines raw.toList).length ∧
        parseInto raw ms = ⟨last.messages, last.records⟩ := by
  refine ⟨fun n p l _ hl => ⟨takesOne_step hl p.messages, (position_lt_next hl).1⟩,
    fun n p => onTheWay_of_turns, ?_⟩
  obtain ⟨n, last, hturns, hend⟩ := exists_last (beginning raw ms)
  obtain ⟨hlines, hle, hsize⟩ := onTheWay_of_turns hturns
  have hlast := position_of_end hend
  rw [← Array.length_toList, hlines] at hlast
  refine ⟨n, last, hturns, hle.trans hsize, hend, Nat.le_antisymm hsize hlast, ?_⟩
  have hscan := scan_of_turns hturns
  rw [scan_of_end hend] at hscan
  calc parseInto raw ms
      = (scan (.ofList (lines raw.toList)) ms).after [] := parseInto_of_visible h ms
    _ = (Logged.mk last.messages []).after last.records := hscan.symm
    _ = ⟨last.messages, last.records⟩ := by simp [Logged.after]

/-- The first turn steps back behind the last line, and three turns are enough for four lines. -/
theorem scan_progress_reread :
    let raw := "Error in file \"a\" (line 7):\nm\nc\nx"
    let first := beginning raw .empty
    let marker := "Error in file \"a\" (line 7):".toList
    (∃ c ∈ raw.toList, ¬isBlank c) ∧ first.reader.current = some marker ∧
      TakesBlock first.reader marker ['m'] ['c'] ['x'] (first.next marker).reader ∧
      ∃ n last, Turns first n last ∧ n ≤ 4 ∧ last.reader.position = 4 ∧
        (parseInto raw .empty).value = last.messages := by
  intro raw first marker
  have h : ∃ c ∈ raw.toList, ¬isBlank c := ⟨'E', by decide, by decide⟩
  have hmarker : first.reader.current = some marker := by decide
  obtain ⟨hturn, -, n, last, hturns, hle, -, hposition, hparse⟩ := scan_progress raw h .empty
  have hlength : (lines raw.toList).length = 4 := by decide
  rw [hlength] at hle hposition
  refine ⟨h, hmarker, ?_, n, last, hturns, hle, hposition, congrArg Logged.value hparse⟩
  rcases (hturn 0 first marker .start hmarker).1 with hline | ⟨t, c, p, hblock⟩
  · exact absurd (by decide) hline.opens_none
  · have ht : t = ['m'] := by simpa using hblock.text_eq.symm.trans (by decide : _ = some ['m'])
    have hc : c = ['c'] := Option.some.inj (hblock.context_eq.symm.trans (by decide))
    have hp : p = ['x'] := Option.some.inj (hblock.pointer_eq.symm.trans (by decide))
    rwa [ht, hc, hp] at hblock

end JFlexReport.Console
