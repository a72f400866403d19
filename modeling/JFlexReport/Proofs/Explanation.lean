import JFlexReport.Outcome
import JFlexReport.Proofs.Breaks
import JFlexReport.Proofs.Growth

/-!
When a failed run explains itself.

Whether a text has errors can be told without a scan: somewhere in it a marker has three
lines behind it. The scan may never reach that marker, but only because a block in front of
it swallows it, and that block is an error as well. So a non-zero exit code is explained
exactly when one of the two streams, taken on its own, holds such a marker.
-/

namespace JFlexReport

open Text

namespace Console

/-- A marker with three lines behind it stands somewhere among the lines. -/
def HoldsBlock (ls : List Line) : Prop :=
  ∃ before m behind, ls = before ++ m :: behind ∧ errorMarker.toList <+: m ∧ 3 ≤ behind.length

lemma not_holdsBlock_nil : ¬HoldsBlock [] := by
  rintro ⟨before, m, behind, h, -⟩
  simp at h

lemma holdsBlock_cons {l : Line} {ls : List Line} :
    HoldsBlock (l :: ls) ↔ isMarker l ∧ 3 ≤ ls.length ∨ HoldsBlock ls := by
  constructor
  · rintro ⟨before, m, behind, h, hm, hlen⟩
    rcases before with _ | ⟨x, before⟩
    · obtain ⟨rfl, rfl⟩ := List.cons.inj h
      exact .inl ⟨(isMarker_iff l).mpr hm, hlen⟩
    · exact .inr ⟨before, m, behind, (List.cons.inj h).2, hm, hlen⟩
  · rintro (⟨hm, hlen⟩ | ⟨before, m, behind, rfl, hm, hlen⟩)
    · exact ⟨[], l, ls, rfl, (isMarker_iff l).mp hm, hlen⟩
    · exact ⟨l :: before, m, behind, rfl, hm, hlen⟩

/-- **A marker with three lines behind it is an error**, its own or that of a block which
swallows it. -/
theorem errors_messagesOf_eq_nil_iff (ls : List Line) :
    (messagesOf ls).errors = [] ↔ ¬HoldsBlock ls := by
  induction ls using segment_induction with
  | nil => exact iff_of_true rfl not_holdsBlock_nil
  | line l ls h ih =>
    have hl : ¬(isMarker l ∧ 3 ≤ ls.length) := by
      rintro ⟨hm, hlen⟩
      have := h hm
      omega
    rw [messagesOf_line h, Messages.merge, errors_remark, List.nil_append, ih, holdsBlock_cons,
      or_iff_right hl]
  | block m t c p ls hm hp ih =>
    have hb : HoldsBlock (m :: t :: c :: p :: ls) := holdsBlock_cons.mpr (.inl ⟨hm, by simp⟩)
    rw [errors_messagesOf_block hm hp]
    exact iff_of_false (List.cons_ne_nil _ _) fun h => h hb
  | broken m t c p ls hm hp ih =>
    have hb : HoldsBlock (m :: t :: c :: p :: ls) := holdsBlock_cons.mpr (.inl ⟨hm, by simp⟩)
    rw [errors_messagesOf_broken hm hp]
    exact iff_of_false (List.cons_ne_nil _ _) fun h => h hb

lemma visible_of_holdsBlock {s : List Char} (h : HoldsBlock (lines s)) :
    ∃ c ∈ s, ¬isBlank c := by
  obtain ⟨before, m, behind, hs, hm, -⟩ := h
  have hE : 'E' ∈ m := hm.subset (by decide)
  have hmem : m ∈ splitRuns isBreak s := by
    rw [← lines, hs]
    exact List.mem_append_right _ List.mem_cons_self
  exact ⟨'E', (mem_of_mem_splitRuns hmem hE).1, by decide⟩

lemma errors_parse_eq_nil_iff (raw : String) :
    (parse raw).value.errors = [] ↔ ¬HoldsBlock (lines raw.toList) := by
  by_cases h : ∃ c ∈ raw.toList, ¬isBlank c
  · rw [parse_of_visible h]
    simp only [← messagesOf_eq_collect]
    exact errors_messagesOf_eq_nil_iff _
  · rw [parse_of_blank h]
    exact iff_of_true rfl fun hb => h (visible_of_holdsBlock hb)

lemma errors_parseStreams_eq_nil_iff (stdout stderr : String) :
    (parseStreams stdout stderr).value.errors = [] ↔
      ¬(HoldsBlock (lines stdout.toList) ∨ HoldsBlock (lines stderr.toList)) := by
  rw [value_parseStreams, Messages.merge, List.append_eq_nil_iff, errors_parse_eq_nil_iff,
    errors_parse_eq_nil_iff, not_or]

end Console

/-! ### The evaluation -/

section Evaluate

variable {exitCode : Int32} {ms : Messages} {command : String}

lemma evaluate_zero (h : exitCode = 0) :
    (evaluate exitCode ms command).value = .ok (.success ms) := by
  simp [evaluate, Ending.ofExit, h]

lemma evaluate_errors (h : exitCode ≠ 0) (he : ms.errors ≠ []) :
    (evaluate exitCode ms command).value = .ok (.successWithErrors ms) := by
  simp [evaluate, Ending.ofExit, h, he]

lemma evaluate_unexplained (h : exitCode ≠ 0) (he : ms.errors = []) :
    (evaluate exitCode ms command).value = .error { command, exitCode } := by
  simp [evaluate, Ending.ofExit, h, he]

variable (exitCode ms command) in
lemma evaluate_eq_error_iff :
    (∃ f, (evaluate exitCode ms command).value = .error f) ↔ exitCode ≠ 0 ∧ ms.errors = [] := by
  by_cases h0 : exitCode = 0
  · rw [evaluate_zero h0]
    simp [h0]
  · by_cases he : ms.errors = []
    · rw [evaluate_unexplained h0 he]
      simp [h0, he]
    · rw [evaluate_errors h0 he]
      simp [he]

end Evaluate

/-- **A failure is explained** by a marker with three lines behind it in one of the streams.
Without one a non-zero exit code is a failure with that command and code; in every other case
the run ends with its messages, cleanly exactly when the exit code is zero. -/
theorem classifyRun_iff (stdout stderr : String) (exitCode : Int32) (command : String) :
    let result := (classifyRun stdout stderr exitCode command).value
    let ms := (Console.parseStreams stdout stderr).value
    let explained :=
      Console.HoldsBlock (lines stdout.toList) ∨ Console.HoldsBlock (lines stderr.toList)
    (∀ f, result = .error f ↔ f = { command, exitCode } ∧ exitCode ≠ 0 ∧ ¬explained) ∧
      (∀ ms', result = .ok (.success ms') ↔ ms' = ms ∧ exitCode = 0) ∧
      ∀ ms', result = .ok (.successWithErrors ms') ↔ ms' = ms ∧ exitCode ≠ 0 ∧ explained := by
  intro result ms explained
  have he : ms.errors = [] ↔ ¬explained := Console.errors_parseStreams_eq_nil_iff stdout stderr
  have hresult : result = (evaluate exitCode ms command).value := rfl
  by_cases h0 : exitCode = 0
  · rw [hresult, evaluate_zero h0]
    simp [h0, eq_comm]
  · by_cases hx : explained
    · rw [hresult, evaluate_errors h0 fun h => he.mp h hx]
      simp [h0, hx, eq_comm]
    · rw [hresult, evaluate_unexplained h0 (he.mpr hx)]
      simp [h0, hx, eq_comm]

end JFlexReport
