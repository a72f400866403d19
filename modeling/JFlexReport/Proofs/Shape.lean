import JFlexReport.Proofs.Breaks
import JFlexReport.Proofs.Places

/-!
What the messages of a text look like.

Every message comes from a segment that sits among the lines of the text. Chatter is one of
these lines as it stands, an error is the report of a block. So a message is one line of
text, chatter says something and has no position, and no error has a column without a line.
-/

namespace JFlexReport

open Text

namespace Console

lemma isUnbroken_of_mem_lines {s : List Char} {l : Line} (h : l ∈ lines s) : IsUnbroken l :=
  fun _ hc => (mem_of_mem_splitRuns h hc).2

lemma mem_messagesOf_of_mem {raw : String} {k : Category} {m : Message}
    (h : m ∈ (parse raw).value.get k) : m ∈ (messagesOf (lines raw.toList)).get k := by
  rw [value_parse] at h
  split at h
  · cases k <;> cases h
  · exact h

lemma mem_segments_of_mem {ls : List Line} {k : Category} {m : Message}
    (h : m ∈ (messagesOf ls).get k) : ∃ s ∈ segments 0 ls, m ∈ s.messages.get k := by
  rw [messagesOf_eq_collect 0, get_collect] at h
  exact List.mem_flatMap.mp h

/-- **Chatter is one of the lines**, neither empty nor a notice. -/
theorem exists_line_of_mem {ls : List Line} {m : Message}
    (h : m ∈ (messagesOf ls).informational) :
    ∃ l ∈ ls, l ≠ [] ∧ ¬isNotice l ∧ m = .plain (String.ofList l) := by
  obtain ⟨s, hs, hm⟩ := mem_segments_of_mem (k := .information) h
  cases s with
  | line n l =>
    by_cases hl : isNotice l || l.isEmpty
    · simp [Segment.messages, hl, Messages.empty, Messages.get] at hm
    · rw [Segment.messages, if_neg hl] at hm
      rw [Bool.or_eq_true, List.isEmpty_iff, not_or] at hl
      exact ⟨l, List.mem_of_getElem? (sits_of_mem hs).1, hl.2, hl.1, List.mem_singleton.mp hm⟩
  | block n mk t c p => simp [Segment.messages, Messages.get] at hm

/-- **An error is the report of a block** among the lines of the text. -/
theorem exists_block_of_mem {raw : String} {e : Message} (h : e ∈ (parse raw).value.errors) :
    ∃ n m t c p, (Segment.block n m t c p).Sits (lines raw.toList) ∧ e = blockError m t p := by
  obtain ⟨s, hs, he⟩ := mem_segments_of_mem (mem_messagesOf_of_mem (k := .error) h)
  cases s with
  | line n l =>
    simp only [Segment.messages] at he
    split at he <;> simp [Messages.empty, Messages.get] at he
  | block n m t c p =>
    simp only [Segment.messages, Messages.get, List.mem_singleton] at he
    exact ⟨n, m, t, c, p, sits_of_mem hs, he⟩

end Console

/-- The shape of messages that were read from a text. -/
structure Messages.WellShaped (ms : Messages) : Prop where
  informational : ∀ m ∈ ms.informational, IsSolid m.text.toList ∧ m.line = none ∧ m.column = none
  errors : ∀ e ∈ ms.errors, IsUnbroken e.text.toList ∧ (e.line = none → e.column = none)

namespace Console

lemma wellShaped_parse (raw : String) : (parse raw).value.WellShaped where
  informational m hm := by
    obtain ⟨l, hl, hne, -, rfl⟩ :=
      exists_line_of_mem (mem_messagesOf_of_mem (k := .information) hm)
    rw [Message.plain, String.toList_ofList]
    exact ⟨⟨hne, isUnbroken_of_mem_lines hl⟩, rfl, rfl⟩
  errors e he := by
    obtain ⟨n, m, t, c, p, hs, rfl⟩ := exists_block_of_mem he
    have ht : t ∈ lines raw.toList := List.mem_of_getElem? hs.2.2.1
    rw [blockError, Message.positioned, String.toList_ofList]
    refine ⟨isUnbroken_of_mem_lines ht, fun h => ?_⟩
    simp only at h ⊢
    rw [h, Option.bind_none]

/-- **Messages are well shaped**, those of both streams alike. -/
theorem wellShaped_parseStreams (stdout stderr : String) :
    (parseStreams stdout stderr).value.WellShaped := by
  rw [value_parseStreams, Messages.merge]
  exact ⟨List.forall_mem_append.mpr
      ⟨(wellShaped_parse stdout).informational, (wellShaped_parse stderr).informational⟩,
    List.forall_mem_append.mpr
      ⟨(wellShaped_parse stdout).errors, (wellShaped_parse stderr).errors⟩⟩

end Console

end JFlexReport
