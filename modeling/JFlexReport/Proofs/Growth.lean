import JFlexReport.Proofs.Breaks
import JFlexReport.Proofs.Grammar

/-!
Output that goes on.

When more text arrives, the last line may grow and further lines may follow. The readings of
both texts stay in step up to the last line of the shorter one, so its errors are all there
in the longer one. Only the last of them can change: its pointer line may have been blank so
far, and then its column is still open.
-/

namespace JFlexReport.Console

open Text

/-! ### Lines and errors of the longer text -/

/-- The lines of a text, and those of a text that goes on behind it. -/
inductive Continued : List Line → List Line → Prop
  | last (x y : Line) (ls : List Line) : Continued [x] ((x ++ y) :: ls)
  | cons (l : Line) {ls ls' : List Line} : Continued ls ls' → Continued (l :: ls) (l :: ls')

lemma Continued.of_cons_cons {l l' : Line} {ls r : List Line} (h : Continued (l :: l' :: ls) r) :
    ∃ r', r = l :: r' ∧ Continued (l' :: ls) r' := by
  cases h with
  | cons _ h => exact ⟨_, rfl, h⟩

lemma Continued.of_cons₄ {m t c p : Line} {ls r : List Line}
    (h : Continued (m :: t :: c :: p :: ls) r) :
    ∃ r', r = m :: t :: c :: r' ∧ Continued (p :: ls) r' := by
  obtain ⟨r₁, rfl, h₁⟩ := h.of_cons_cons
  obtain ⟨r₂, rfl, h₂⟩ := h₁.of_cons_cons
  obtain ⟨r₃, rfl, h₃⟩ := h₂.of_cons_cons
  exact ⟨r₃, rfl, h₃⟩

lemma continued_lines (a b : List Char) : Continued (lines a) (lines (a ++ b)) := by
  obtain ⟨ps, x, y, qs, ha, hab⟩ := splitRuns_append_right isBreak a b
  rw [lines, lines, ha, hab]
  clear ha hab
  induction ps with
  | nil => exact .last x y qs
  | cons p ps ih => exact .cons p ih

/-- The errors of a text, and those of a text that goes on behind it. -/
inductive Grown : List Message → List Message → Prop
  | nil (es : List Message) : Grown [] es
  | last {e e' : Message} (es : List Message) (text : e'.text = e.text) (line : e'.line = e.line)
    (column : e'.column = e.column ∨ e.column = none) : Grown [e] (e' :: es)
  | cons (e : Message) {es es' : List Message} : Grown es es' → Grown (e :: es) (e :: es')

lemma Grown.length_le {es es' : List Message} (h : Grown es es') : es.length ≤ es'.length := by
  induction h with
  | nil es => exact Nat.zero_le _
  | last es _ _ _ => simp
  | cons e _ ih => exact Nat.succ_le_succ ih

lemma Grown.getElem? {es es' : List Message} (h : Grown es es') {k : ℕ} {e e' : Message}
    (he : es[k]? = some e) (he' : es'[k]? = some e') :
    e'.text = e.text ∧ e'.line = e.line ∧
      (e'.column = e.column ∨ k + 1 = es.length ∧ e.column = none) := by
  induction h generalizing k with
  | nil es => simp at he
  | last es text line column =>
    rcases k with _ | k
    · simp only [List.getElem?_cons_zero, Option.some.injEq] at he he'
      subst he he'
      exact ⟨text, line, column.imp_right fun h => ⟨rfl, h⟩⟩
    · simp at he
  | cons e₀ _ ih =>
    rcases k with _ | k
    · simp only [List.getElem?_cons_zero, Option.some.injEq] at he he'
      subst he he'
      exact ⟨rfl, rfl, .inl rfl⟩
    · simpa using ih he he'

/-! ### The last block -/

lemma behind_append {k : ℕ} {x : Line} {n : UInt32} (h : Pointer.behind k x = .column n)
    (y : Line) : Pointer.behind k (x ++ y) = .column n := by
  fun_induction Pointer.behind k x with
  | case1 k => cases h
  | case2 k s ih => exact ih h
  | case3 k s hk => rw [← h, List.cons_append, Pointer.behind, if_pos hk]
  | case4 k s hk => cases h
  | case5 => cases h

lemma grown_blockError (m t x y : Line) (es : List Message) :
    Grown [blockError m t x] (blockError m t (x ++ y) :: es) := by
  refine .last es rfl rfl ?_
  cases hx : Pointer.ofLine x with
  | column n =>
    have hxy : Pointer.ofLine (x ++ y) = .column n := behind_append hx y
    exact .inl (by rw [blockError, blockError, hx, hxy])
  | blank => exact .inr (by simp [blockError, Message.positioned, Pointer.column?, hx])
  | foreign => exact .inr (by simp [blockError, Message.positioned, Pointer.column?, hx])

lemma errors_remark (l : Line) : (remark l).errors = [] := by
  rw [remark]
  split <;> rfl

lemma errors_messagesOf_short {ls : List Line} (h : ls.length ≤ 3) :
    (messagesOf ls).errors = [] := by
  induction ls with
  | nil => rfl
  | cons l ls ih =>
    rw [List.length_cons] at h
    rw [messagesOf_line fun _ => by omega, Messages.merge, errors_remark, ih (by omega)]
    rfl

section Block

variable {m t c p : Line}

lemma errors_messagesOf_block (hm : isMarker m) (hp : Pointer.ofLine p ≠ .foreign)
    (ls : List Line) :
    (messagesOf (m :: t :: c :: p :: ls)).errors = blockError m t p :: (messagesOf ls).errors := by
  rw [messagesOf_block hm hp]; rfl

lemma errors_messagesOf_broken (hm : isMarker m) (hp : Pointer.ofLine p = .foreign)
    (ls : List Line) :
    (messagesOf (m :: t :: c :: p :: ls)).errors =
      blockError m t p :: (messagesOf (c :: p :: ls)).errors := by
  rw [messagesOf_broken hm hp]; rfl

lemma grown_last_block (hm : isMarker m) (x y : Line) (ls : List Line) :
    Grown (messagesOf [m, t, c, x]).errors (messagesOf (m :: t :: c :: (x ++ y) :: ls)).errors := by
  have hx : (messagesOf [m, t, c, x]).errors = [blockError m t x] := by
    by_cases hp : Pointer.ofLine x = .foreign
    · rw [errors_messagesOf_broken hm hp, errors_messagesOf_short (by simp)]
    · rw [errors_messagesOf_block hm hp]; rfl
  rw [hx]
  by_cases hp : Pointer.ofLine (x ++ y) = .foreign
  · rw [errors_messagesOf_broken hm hp]
    exact grown_blockError m t x y _
  · rw [errors_messagesOf_block hm hp]
    exact grown_blockError m t x y _

end Block

/-- **Both readings stay in step** up to the last line of the shorter text. -/
theorem grown_errors {ls ls' : List Line} (h : Continued ls ls') :
    Grown (messagesOf ls).errors (messagesOf ls').errors := by
  induction ls using segment_induction generalizing ls' with
  | nil => cases h
  | line l ls hl ih =>
    by_cases hm : isMarker l
    · -- a marker too close to the end: nothing behind it can be a block either
      have := hl hm
      rw [errors_messagesOf_short (by rw [List.length_cons]; omega)]
      exact .nil _
    · have hl' (r : List Line) : (messagesOf (l :: r)).errors = (messagesOf r).errors := by
        rw [messagesOf_line fun h => absurd h hm, Messages.merge, errors_remark, List.nil_append]
      cases h with
      | last _ y qs =>
        rw [errors_messagesOf_short (by simp)]
        exact .nil _
      | cons _ h =>
        rw [hl', hl']
        exact ih h
  | block m t c p ls hm hp ih =>
    obtain ⟨r, rfl, hr⟩ := h.of_cons₄
    cases hr with
    | last _ y qs => exact grown_last_block hm p y qs
    | cons _ hr =>
      rw [errors_messagesOf_block hm hp, errors_messagesOf_block hm hp]
      exact .cons _ (ih hr)
  | broken m t c p ls hm hp ih =>
    obtain ⟨r, rfl, hr⟩ := h.of_cons₄
    cases hr with
    | last _ y qs => exact grown_last_block hm p y qs
    | cons _ hr =>
      rw [errors_messagesOf_broken hm hp, errors_messagesOf_broken hm hp]
      exact .cons _ (ih (.cons c (.cons p hr)))

/-- **Errors never disappear** when more output arrives, and only an open column of the last
one can change. -/
theorem errors_persist (a b : String) :
    (parse a).value.errors.length ≤ (parse (a ++ b)).value.errors.length ∧
      ∀ (k : ℕ) (e e' : Message),
        (parse a).value.errors[k]? = some e → (parse (a ++ b)).value.errors[k]? = some e' →
          e'.text = e.text ∧ e'.line = e.line ∧
            (e'.column = e.column ∨
              k + 1 = (parse a).value.errors.length ∧ e.column = none) := by
  have h : Grown (parse a).value.errors (parse (a ++ b)).value.errors := by
    by_cases ha : ∃ c ∈ a.toList, ¬isBlank c
    · have hab : ∃ c ∈ (a ++ b).toList, ¬isBlank c := by
        obtain ⟨c, hc, hv⟩ := ha
        exact ⟨c, by simp [hc], hv⟩
      rw [parse_of_visible ha, parse_of_visible hab, String.toList_append]
      simp only [← messagesOf_eq_collect]
      exact grown_errors (continued_lines _ _)
    · rw [parse_of_blank ha]
      exact .nil _
  exact ⟨h.length_le, fun k e e' => h.getElem?⟩

end JFlexReport.Console
