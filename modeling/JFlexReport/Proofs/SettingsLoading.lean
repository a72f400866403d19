import JFlexReport.Proofs.Encoding
import JFlexReport.Settings.Reading

/-!
What a settings file gives.

A file gives settings when bytes can be read from it, they are those of a text, and the text
is a document of settings. It is unusable at the first of the three that does not hold, and
there is nothing between the two.
-/

namespace JFlexReport

open Text

/-- The path leads to something that can be opened, and these bytes are in it. -/
def FileView.Contains (v : FileView) (p : Path) (bytes : List UInt8) : Prop :=
  v p = .ok (.file (.ok bytes)) ∨ v p = .ok (.device (.ok bytes))

lemma FileView.readBytes_eq_ok_iff {v : FileView} {p : Path} {bytes : List UInt8} :
    v.readBytes p = .ok bytes ↔ v.Contains p bytes := by
  unfold FileView.readBytes FileView.Contains
  rcases v p with e | ⟨content | content | entries⟩
  · simp
  · rcases content with e | b <;> simp [Except.mapError]
  · rcases content with e | b <;> simp [Except.mapError]
  · simp

lemma FileView.Contains.unique {v : FileView} {p : Path} {bytes bytes' : List UInt8}
    (h : v.Contains p bytes) (h' : v.Contains p bytes') : bytes = bytes' := by
  rw [← readBytes_eq_ok_iff] at h h'
  exact Except.ok.inj (h.symm.trans h')

namespace Settings

variable {v : FileView} {p : Path}

/-- The file holds the settings, as a document in UTF-8. -/
def Holds (v : FileView) (p : Path) (s : Settings) : Prop :=
  ∃ text, v.Contains p (Utf8.encode text) ∧ ofDocument text = .ok s

/-- The file gives no settings. -/
inductive Unusable (v : FileView) (p : Path) : Prop
  | unreadable (h : ∀ bytes, ¬ v.Contains p bytes)
  | noText {bytes : List UInt8} (h : v.Contains p bytes) (hbytes : ∀ text, bytes ≠ Utf8.encode text)
  | unfit {text : List Char} {problem : Problem} (h : v.Contains p (Utf8.encode text))
    (hdocument : ofDocument text = .error problem)

lemma holds_or_unusable (v : FileView) (p : Path) : (∃ s, Holds v p s) ∨ Unusable v p := by
  by_cases hread : ∃ bytes, v.Contains p bytes
  · obtain ⟨bytes, hbytes⟩ := hread
    by_cases htext : ∃ text, bytes = Utf8.encode text
    · obtain ⟨text, rfl⟩ := htext
      rcases hdocument : ofDocument text with problem | s
      · exact .inr (.unfit hbytes hdocument)
      · exact .inl ⟨s, text, hbytes, hdocument⟩
    · exact .inr (.noText hbytes fun text h => htext ⟨text, h⟩)
  · exact .inr (.unreadable fun bytes h => hread ⟨bytes, h⟩)

lemma Unusable.not_holds {s : Settings} (h : Unusable v p) : ¬ Holds v p s := by
  rintro ⟨text, hcontains, hsettings⟩
  cases h with
  | unreadable h => exact h _ hcontains
  | noText h hbytes => exact hbytes text (h.unique hcontains)
  | unfit h hdocument =>
    rw [Utf8.encode_injective (h.unique hcontains), hsettings] at hdocument
    cases hdocument

lemma readText_eq_ok_iff {text : List Char} :
    readText v p = .ok text ↔ v.Contains p (Utf8.encode text) := by
  rw [← FileView.readBytes_eq_ok_iff]
  unfold readText
  rcases v.readBytes p with e | bytes
  · simp
  · rw [Except.ok.injEq, ← Utf8.decode?_eq_some_iff]
    dsimp only
    cases Utf8.decode? bytes <;> simp

/-- **A file gives the settings that it holds.** -/
theorem load?_eq_ok_iff {s : Settings} : load? v p = .ok s ↔ Holds v p s := by
  unfold Holds
  simp only [← readText_eq_ok_iff]
  unfold load?
  rcases readText v p with e | text
  · simp
  · simp only [Except.ok.injEq, exists_eq_left']
    cases ofDocument text <;> simp

/-- **Every other file is unusable.** -/
theorem exists_load?_eq_error_iff : (∃ e, load? v p = .error e) ↔ Unusable v p := by
  constructor
  · rintro ⟨e, he⟩
    rcases holds_or_unusable v p with ⟨s, hs⟩ | h
    · rw [load?_eq_ok_iff.mpr hs] at he
      cases he
    · exact h
  · intro h
    rcases hload : load? v p with e | s
    · exact ⟨e, rfl⟩
    · exact absurd (load?_eq_ok_iff.mp hload) h.not_holds

end Settings

end JFlexReport
