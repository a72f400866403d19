import JFlexReport.Proofs.JsonText
import JFlexReport.Report.Machine

/-!
What a JSON report tells about its run.

Everything that went into it: a reader of JSON finds one object, with the ending, both lists
of messages in order with their texts and positions, and the command and the exit code of an
unexplained failure. So no two runs with different endings, messages or failures have the
same report.
-/

namespace JFlexReport.Report

open Json

/-- A line or a column, where it is known. -/
def positionValue : Option UInt32 → Value
  | some n => .number n.toNat
  | none => .null

def messageValue (m : Message) : Value :=
  .object [("text", .string m.text), ("line", positionValue m.line),
    ("column", positionValue m.column)]

/-- What a report says. -/
def reportValue (ending : Ending) (ms : Messages) (failure : Option UnexplainedFailure) : Value :=
  .object <|
    [("outcome", .string ending.tag),
      ("informational", .array (ms.informational.map messageValue)),
      ("errors", .array (ms.errors.map messageValue))] ++
    match failure with
    | some f => [("command", .string f.command), ("exit_code", .number f.exitCode.toInt)]
    | none => []

/-! ### The tree of a report -/

lemma toValue_positionJson (n : Option UInt32) : (positionJson n).toValue = positionValue n := by
  cases n <;> simp [positionJson, toValue, positionValue]

lemma toValue_messageJson (m : Message) : (messageJson m).toValue = messageValue m := by
  simp [messageJson, toValue, toValue_positionJson, messageValue]

lemma toValue_json (ending : Ending) (ms : Messages) (failure : Option UnexplainedFailure) :
    (json ending ms failure).toValue = reportValue ending ms failure := by
  cases failure <;>
    simp [json, failureFields, toValue, toValue_messageJson, reportValue, Function.comp_def]

/-! ### Values tell their contents -/

lemma tag_injective : Function.Injective Ending.tag := by
  intro a b h
  cases a <;> cases b <;> simp_all [Ending.tag]

lemma positionValue_injective : Function.Injective positionValue := by
  rintro (_ | n) (_ | n') h
  · rfl
  · cases h
  · cases h
  · have hn : (n.toNat : ℚ) = n'.toNat := Value.number.inj h
    rw [UInt32.toNat_inj.mp (Nat.cast_injective hn)]

lemma messageValue_injective : Function.Injective messageValue := by
  rintro ⟨text, line, column⟩ ⟨text', line', column'⟩ h
  simp only [messageValue, Value.object.injEq, List.cons.injEq, Prod.mk.injEq, Value.string.injEq,
    true_and, and_true] at h
  obtain ⟨rfl, hline, hcolumn⟩ := h
  rw [positionValue_injective hline, positionValue_injective hcolumn]

/-- **What a report says tells its run.** -/
theorem reportValue_inj {ending ending' : Ending} {ms ms' : Messages}
    {failure failure' : Option UnexplainedFailure}
    (h : reportValue ending ms failure = reportValue ending' ms' failure') :
    ending = ending' ∧ ms = ms' ∧ failure = failure' := by
  obtain ⟨informational, errors⟩ := ms
  obtain ⟨informational', errors'⟩ := ms'
  simp only [reportValue, Value.object.injEq, List.cons_append, List.nil_append, List.cons.injEq,
    Prod.mk.injEq, Value.string.injEq, Value.array.injEq, true_and] at h
  obtain ⟨htag, hinformational, herrors, hfailure⟩ := h
  rw [tag_injective htag, messageValue_injective.list_map hinformational,
    messageValue_injective.list_map herrors]
  refine ⟨rfl, rfl, ?_⟩
  rcases failure with _ | ⟨command, code⟩ <;> rcases failure' with _ | ⟨command', code'⟩
  · rfl
  · cases hfailure
  · cases hfailure
  · simp only [List.cons.injEq, Prod.mk.injEq, Value.string.injEq, Value.number.injEq, true_and,
      and_true, Rat.intCast_inj, Int32.toInt_inj] at hfailure
    rw [hfailure.1, hfailure.2]

/-- **A JSON report is read as what was rendered**, and so it tells its run. -/
theorem ofText?_jsonText (ending : Ending) (ms : Messages) (failure : Option UnexplainedFailure) :
    Value.ofText? (jsonText ending ms failure) = some (reportValue ending ms failure) ∧
      ∀ ending' ms' failure', jsonText ending ms failure = jsonText ending' ms' failure' ↔
        ending = ending' ∧ ms = ms' ∧ failure = failure' := by
  have hread (e : Ending) (m : Messages) (f : Option UnexplainedFailure) :
      Value.ofText? (jsonText e m f) = some (reportValue e m f) := by
    rw [jsonText, ofText?_text, toValue_json]
  refine ⟨hread ending ms failure, fun ending' ms' failure' => ⟨fun h => ?_, ?_⟩⟩
  · have heq := hread ending ms failure
    rw [h, hread] at heq
    exact reportValue_inj (Option.some.inj heq).symm
  · rintro ⟨rfl, rfl, rfl⟩
    rfl

end JFlexReport.Report
