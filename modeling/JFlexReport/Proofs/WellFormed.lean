import JFlexReport.Proofs.Shape

/-!
What can be relied on about every message of a run.

No message is empty. For chatter this is a test of the scan, but nothing tests the message
line of a block: it is never empty because two more lines follow it, and a text has empty
lines at its ends only. For the same reason a line that begins like a marker is chatter only
near the end of its text, where no room is left for a block.
-/

namespace JFlexReport

open Text

/-- Messages that say something. Columns count from 1. -/
structure Messages.WellFormed (ms : Messages) : Prop extends ms.WellShaped where
  notice : ∀ m ∈ ms.informational, ¬skeletonNotice.toList <+: m.text.toList
  text : ∀ e ∈ ms.errors, e.text.toList ≠ []
  column : ∀ e ∈ ms.errors, ∀ n, e.column = some n → 1 ≤ n.toNat

lemma Messages.WellFormed.merge {a b : Messages} (ha : a.WellFormed) (hb : b.WellFormed) :
    (a.merge b).WellFormed where
  informational := List.forall_mem_append.mpr ⟨ha.informational, hb.informational⟩
  errors := List.forall_mem_append.mpr ⟨ha.errors, hb.errors⟩
  notice := List.forall_mem_append.mpr ⟨ha.notice, hb.notice⟩
  text := List.forall_mem_append.mpr ⟨ha.text, hb.text⟩
  column := List.forall_mem_append.mpr ⟨ha.column, hb.column⟩

namespace Console

lemma one_le_column {p : Line} {n : UInt32} (h : (Pointer.ofLine p).column? = some n) :
    1 ≤ n.toNat := by
  rcases hs : unindented p with _ | ⟨c, s⟩
  · rw [ofLine_blank hs] at h
    cases h
  · by_cases hc : c = '^'
    · subst hc
      rw [ofLine_caret hs] at h
      split at h
      · next hlt =>
        obtain rfl := Option.some.inj h
        rw [UInt32.toNat_ofNat_of_lt' hlt]
        omega
      · cases h
    · rw [ofLine_foreign hs hc] at h
      cases h

lemma column_of_blockError {m t p : Line} {n : UInt32} (h : (blockError m t p).column = some n) :
    (Pointer.ofLine p).column? = some n := by
  obtain ⟨-, -, h⟩ := Option.bind_eq_some_iff.mp h
  exact h

lemma wellFormed_parse (raw : String) : (parse raw).value.WellFormed where
  toWellShaped := wellShaped_parse raw
  notice m hm := by
    obtain ⟨l, -, -, hn, rfl⟩ := exists_line_of_mem (mem_messagesOf_of_mem (k := .information) hm)
    rwa [Message.plain, String.toList_ofList, ← isNotice_iff]
  text e he := by
    obtain ⟨n, m, t, c, p, ⟨-, -, ht, -, hp⟩, rfl⟩ := exists_block_of_mem he
    -- the pointer line comes two lines later, so the message line is not the last one
    have hlast : n + 3 < (lines raw.toList).length := (List.getElem?_eq_some_iff.mp hp).1
    rw [blockError, Message.positioned, String.toList_ofList]
    exact ne_nil_of_inner ht (by rw [lines] at hlast; omega)
  column e he n hn := by
    obtain ⟨-, m, t, c, p, -, rfl⟩ := exists_block_of_mem he
    exact one_le_column (column_of_blockError hn)

/-! ### Markers among the chatter -/

/-- The messages are lines of a text, in order, and a marker among them has at most two lines
behind it. -/
def LeftOver (ls : List Line) (ms : List Message) : Prop :=
  ∃ I : List ℕ, I.Pairwise (· < ·) ∧ I.map (ls[·]?) = ms.map (fun m => some m.text.toList) ∧
    ∀ i ∈ I, ∀ l, ls[i]? = some l → errorMarker.toList <+: l → (ls.drop (i + 1)).length ≤ 2

lemma leftOver_messagesOf (ls : List Line) : LeftOver ls (messagesOf ls).informational := by
  have h := account_segments ls
  rw [← messagesOf_eq_collect] at h
  refine ⟨_, h.chatter_increasing, h.chatter_eq, fun i hi l hl hm => ?_⟩
  obtain ⟨s, hs, hplace⟩ := mem_places.mp hi
  cases s with
  | line k l' =>
    obtain ⟨hget, hlate⟩ := sits_of_mem hs
    obtain rfl : k = i := by
      rw [Segment.place?, Option.ite_none_left_eq_some, Option.some.injEq] at hplace
      exact hplace.2
    obtain rfl : l = l' := Option.some.inj (hl.symm.trans hget)
    have := hlate ((isMarker_iff l).mpr hm)
    rw [List.length_drop]
    omega
  | block k m t c p => cases hplace

lemma leftOver_parse (raw : String) :
    LeftOver (lines raw.toList) (parse raw).value.informational := by
  rw [value_parse]
  split
  · exact ⟨[], .nil, rfl, by simp⟩
  · exact leftOver_messagesOf _

/-- **Messages are well formed**, and a marker is chatter only where fewer than three lines of
its own stream follow. -/
theorem wellFormed_parseStreams (stdout stderr : String) :
    (parseStreams stdout stderr).value.WellFormed ∧
      ∃ out err, (parseStreams stdout stderr).value.informational = out ++ err ∧
        LeftOver (lines stdout.toList) out ∧ LeftOver (lines stderr.toList) err := by
  rw [value_parseStreams]
  exact ⟨(wellFormed_parse stdout).merge (wellFormed_parse stderr), _, _, rfl,
    leftOver_parse stdout, leftOver_parse stderr⟩

end Console

end JFlexReport
