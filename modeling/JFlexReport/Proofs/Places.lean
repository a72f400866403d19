import Mathlib.Data.List.Basic
import Mathlib.Data.List.Pairwise
import JFlexReport.Proofs.Grammar

/-!
Where the segments lie among the lines, and what became of every line.

The segments follow one another without overlap and leave no line out, so a line is used
once. Each error is found at the place of its message line, each chatter message at its own.
-/

namespace JFlexReport.Console

open Text

variable {ls : List Line} {n i : ℕ} {s : Segment}

namespace Segment

/-- The segment is made of the lines found at its place; a marker on its own has too few
lines behind it. -/
def Sits (ls : List Line) : Segment → Prop
  | line k l => ls[k]? = some l ∧ (isMarker l → ls.length < k + 4)
  | block k m t c p => isMarker m ∧
      ls[k]? = some m ∧ ls[k + 1]? = some t ∧ ls[k + 2]? = some c ∧ ls[k + 3]? = some p

/-- The place of the line that becomes the text of a message. -/
def place? : Category → Segment → Option ℕ
  | .information, line k l => if isNotice l || l.isEmpty then none else some k
  | .error, block k _ _ _ _ => some (k + 1)
  | _, _ => none

end Segment

lemma sits_first {l : Line} {r : List Line} (hr : ls.drop n = l :: r) :
    (Segment.first n l r).Sits ls := by
  have hget (k : ℕ) : ls[n + k]? = (l :: r)[k]? := by rw [← hr, List.getElem?_drop]
  have hlen : ls.length - n = r.length + 1 := by rw [← List.length_drop, hr, List.length_cons]
  obtain ⟨t, c, p, r', rfl, hm, hf⟩ | ⟨hm, hf⟩ := Segment.first_cases n l r
  · rw [hf]
    exact ⟨hm, by simpa using hget 0, by simpa using hget 1, by simpa using hget 2,
      by simpa using hget 3⟩
  · rw [hf]
    exact ⟨by simpa using hget 0, fun h => by have := hm h; omega⟩

lemma sits_of_mem_drop (hs : s ∈ segments n (ls.drop n)) : s.Sits ls := by
  generalize hr : ls.drop n = r at hs
  fun_induction segments n r with
  | case1 n => simp at hs
  | case2 n l r t ih =>
    rcases List.mem_cons.mp hs with rfl | hs
    · exact sits_first hr
    · refine ih ?_ hs
      obtain ⟨k, hk⟩ := Nat.exists_eq_add_of_lt t.width_pos
      have ht : t.stop = n + (1 + k) := by
        rw [Segment.stop, Segment.start_first, hk]; omega
      rw [ht, ← List.drop_drop, hr, hk]
      simp [Nat.add_comm 1]

lemma sits_of_mem (hs : s ∈ segments 0 ls) : s.Sits ls := sits_of_mem_drop hs

lemma le_start (hs : s ∈ segments n ls) : n ≤ s.start := by
  fun_induction segments n ls with
  | case1 n => simp at hs
  | case2 n l ls t ih =>
    rcases List.mem_cons.mp hs with rfl | hs
    · exact (Segment.start_first n l ls).ge
    · have := ih hs
      rw [Segment.stop, Segment.start_first] at this; omega

/-- **One after the other**: no line belongs to two segments. -/
theorem pairwise_segments (n : ℕ) (ls : List Line) :
    (segments n ls).Pairwise fun a b => a.stop ≤ b.start := by
  fun_induction segments n ls with
  | case1 n => exact .nil
  | case2 n l ls t ih => exact .cons (fun s hs => le_start hs) ih

/-- **No gaps**: every line belongs to a segment. -/
theorem exists_segment (hn : n ≤ i) (hi : i < n + ls.length) :
    ∃ s ∈ segments n ls, s.start ≤ i ∧ i < s.stop := by
  fun_induction segments n ls with
  | case1 n => simp at hi; omega
  | case2 n l ls t ih =>
    have ht : t.stop = n + t.width := by rw [Segment.stop, Segment.start_first]
    by_cases h : i < t.stop
    · exact ⟨t, by simp, by rw [Segment.start_first]; exact hn, h⟩
    · obtain ⟨s, hs, hsi⟩ := ih (by omega) (by
        have := t.width_pos
        rw [List.length_cons] at hi
        rw [List.length_drop]; omega)
      exact ⟨s, List.mem_cons_of_mem _ hs, hsi⟩

lemma eq_of_mem_of_mem {s' : Segment} (hs : s ∈ segments n ls) (hs' : s' ∈ segments n ls)
    (h : s.start ≤ i ∧ i < s.stop) (h' : s'.start ≤ i ∧ i < s'.stop) : s = s' := by
  let Apart (a b : Segment) : Prop := a.stop ≤ b.start ∨ b.stop ≤ a.start
  have : Std.Symm Apart := ⟨fun _ _ => Or.symm⟩
  have hsep : (segments n ls).Pairwise Apart := (pairwise_segments n ls).imp fun h => .inl h
  by_contra hne
  have : Apart s s' := hsep.forall hs hs' hne
  simp only [Apart] at this; omega

/-! ### Places and messages -/

lemma place?_eq_some {k : Category} (h : s.place? k = some i) : s.start ≤ i ∧ i < s.stop := by
  cases s with
  | line n l =>
    cases k with
    | information =>
      rw [Segment.place?, Option.ite_none_left_eq_some, Option.some.injEq] at h
      rw [Segment.stop, Segment.start, Segment.width]; omega
    | error => cases h
  | block n m t c p =>
    cases k with
    | information => cases h
    | error =>
      cases h
      rw [Segment.stop, Segment.start, Segment.width]
      split <;> omega

/-- The places of the messages of a kind. -/
def places (k : Category) (ls : List Line) : List ℕ := (segments 0 ls).filterMap (·.place? k)

lemma mem_places {k : Category} : i ∈ places k ls ↔ ∃ s ∈ segments 0 ls, s.place? k = some i :=
  List.mem_filterMap

lemma places_increasing (k : Category) (ls : List Line) : (places k ls).Pairwise (· < ·) :=
  (pairwise_segments 0 ls).filterMap (·.place? k) fun a b hab i hi j hj => by
    have := place?_eq_some hi
    have := place?_eq_some hj
    omega

lemma notMem_places_error (h : i ∈ places .information ls) : i ∉ places .error ls := by
  intro h'
  obtain ⟨s, hs, hsi⟩ := mem_places.mp h
  obtain ⟨s', hs', hsi'⟩ := mem_places.mp h'
  obtain rfl := eq_of_mem_of_mem hs hs' (place?_eq_some hsi) (place?_eq_some hsi')
  cases s with
  | line k l => cases hsi'
  | block k m t c p => cases hsi

lemma get_collect (k : Category) (ss : List Segment) :
    (collect ss).get k = ss.flatMap fun s => s.messages.get k := by
  induction ss with
  | nil => cases k <;> rfl
  | cons s ss ih => rw [collect_cons, List.flatMap_cons, ← ih]; cases k <;> rfl

lemma map_place? (h : s.Sits ls) (k : Category) :
    (s.place? k).toList.map (ls[·]?) =
      (s.messages.get k).map fun m => some m.text.toList := by
  cases s with
  | line n l =>
    by_cases hl : isNotice l || l.isEmpty
    · cases k <;> simp [Segment.place?, Segment.messages, hl, Messages.empty, Messages.get]
    · cases k <;> simp [Segment.place?, Segment.messages, hl, h.1, Message.plain, Messages.get]
  | block n m t c p =>
    cases k
    · rfl
    · simp [Segment.place?, Segment.messages, blockError, Message.positioned, h.2.2.1,
        Messages.get]

/-- **Every message stands at its place.** -/
lemma map_places (k : Category) (ls : List Line) :
    (places k ls).map (ls[·]?) =
      ((collect (segments 0 ls)).get k).map fun m => some m.text.toList := by
  rw [places, get_collect, List.filterMap_eq_flatMap_toList, List.map_flatMap, List.map_flatMap]
  exact List.flatMap_congr fun s hs => map_place? (sits_of_mem hs) k

/-! ### The account of the lines -/

/-- Spaces, and behind them a caret or nothing. -/
def IsPointer (p : Line) : Prop :=
  ∃ k s, p = List.replicate k ' ' ++ s ∧ (s = [] ∨ ∃ t, s = '^' :: t)

lemma isPointer_of_ne_foreign {p : Line} (hp : Pointer.ofLine p ≠ .foreign) : IsPointer p := by
  refine ⟨indent p, unindented p, (spaces_append_unindented p).symm, ?_⟩
  rcases hs : unindented p with _ | ⟨c, s⟩
  · exact .inl rfl
  · by_cases hc : c = '^'
    · exact .inr ⟨s, by rw [hc]⟩
    · exact absurd (ofLine_foreign hs hc) hp

/-- The messages are accounted for by the places `I` of the chatter and `J` of the messages
of the errors. Every visible line has its place in `I` or belongs to a block. -/
structure Account (ls : List Line) (ms : Messages) (I J : List ℕ) : Prop where
  chatter_increasing : I.Pairwise (· < ·)
  errors_increasing : J.Pairwise (· < ·)
  disjoint : ∀ i ∈ I, i ∉ J
  chatter_eq : I.map (ls[·]?) = ms.informational.map fun m => some m.text.toList
  errors_eq : J.map (ls[·]?) = ms.errors.map fun m => some m.text.toList
  marker : ∀ j ∈ J, 0 < j ∧ j + 2 < ls.length ∧
    ∃ m, ls[j - 1]? = some m ∧ errorMarker.toList <+: m
  covered : ∀ i l, ls[i]? = some l → l ≠ [] → ¬skeletonNotice.toList <+: l → i ∉ I →
    ∃ j ∈ J, i + 1 = j ∨ i = j ∨
      (i = j + 1 ∨ i = j + 2) ∧ ∃ p, ls[j + 2]? = some p ∧ IsPointer p

lemma line_or_block {l : Line} (hl : ls[i]? = some l) :
    .line i l ∈ segments 0 ls ∨
      ∃ k m t c p, .block k m t c p ∈ segments 0 ls ∧
        k ≤ i ∧ i < k + (Segment.block k m t c p).width := by
  obtain ⟨hlt, -⟩ := List.getElem?_eq_some_iff.mp hl
  obtain ⟨s, hs, hstart, hstop⟩ := exists_segment (Nat.zero_le i) (by omega : i < 0 + ls.length)
  cases s with
  | line k l' =>
    left
    rw [Segment.stop, Segment.width] at hstop
    rw [Segment.start] at hstart hstop
    obtain rfl : i = k := by omega
    obtain rfl : l = l' := by simpa [hl] using (sits_of_mem hs).1
    exact hs
  | block k m t c p => exact .inr ⟨k, m, t, c, p, hs, hstart, hstop⟩

lemma marker_of_mem_places {j : ℕ} (hj : j ∈ places .error ls) :
    0 < j ∧ j + 2 < ls.length ∧ ∃ m, ls[j - 1]? = some m ∧ errorMarker.toList <+: m := by
  obtain ⟨s, hs, hsj⟩ := mem_places.mp hj
  cases s with
  | line k l => cases hsj
  | block k m t c p =>
    cases hsj
    obtain ⟨hm, hgm, -, -, hgp⟩ := sits_of_mem hs
    obtain ⟨hlt, -⟩ := List.getElem?_eq_some_iff.mp hgp
    exact ⟨by omega, by omega, m, hgm, (isMarker_iff m).mp hm⟩

lemma covered_of_notMem_places {l : Line} (hl : ls[i]? = some l) (hne : l ≠ [])
    (hn : ¬skeletonNotice.toList <+: l) (hi : i ∉ places .information ls) :
    ∃ j ∈ places .error ls, i + 1 = j ∨ i = j ∨
      (i = j + 1 ∨ i = j + 2) ∧ ∃ p, ls[j + 2]? = some p ∧ IsPointer p := by
  obtain hs | ⟨k, m, t, c, p, hs, hstart, hstop⟩ := line_or_block hl
  · have hplace : (Segment.line i l).place? .information = some i := by
      simp [Segment.place?, hne, isNotice_iff, hn]
    exact absurd (mem_places.mpr ⟨_, hs, hplace⟩) hi
  · refine ⟨k + 1, mem_places.mpr ⟨_, hs, rfl⟩, ?_⟩
    rw [Segment.width] at hstop
    split at hstop
    · omega
    · next hp =>
      have hptr : ∃ p, ls[k + 1 + 2]? = some p ∧ IsPointer p :=
        ⟨p, (sits_of_mem hs).2.2.2.2, isPointer_of_ne_foreign hp⟩
      have : i + 1 = k + 1 ∨ i = k + 1 ∨ i = k + 1 + 1 ∨ i = k + 1 + 2 := by omega
      tauto

lemma account_segments (ls : List Line) :
    Account ls (collect (segments 0 ls)) (places .information ls) (places .error ls) where
  chatter_increasing := places_increasing .information ls
  errors_increasing := places_increasing .error ls
  disjoint _ := notMem_places_error
  chatter_eq := map_places .information ls
  errors_eq := map_places .error ls
  marker _ := marker_of_mem_places
  covered _ _ := covered_of_notMem_places

/-! ### Counting -/

lemma size_merge (a b : Messages) : (a.merge b).size = a.size + b.size := by
  simp only [Messages.size, Messages.merge, List.length_append]; omega

lemma countP_isNotice_le (ls : List Line) : ls.countP isNotice ≤ ls.countP (· ≠ []) :=
  List.countP_mono_left fun l _ h => by simpa using ne_nil_of_isNotice h

lemma size_remark (l : Line) :
    (remark l).size + [l].countP isNotice = [l].countP (· ≠ []) := by
  by_cases hl : l = []
  · subst hl; rfl
  · by_cases hn : isNotice l <;>
      simp [remark, Messages.size, Messages.empty, hl, hn, ← isNotice_iff]

/-- The marker makes up for its error, whatever is read behind it. -/
lemma countP_error {m : Line} (hm : isMarker m) (u r : List Line) {k : ℕ}
    (hk : k + r.countP isNotice ≤ r.countP (· ≠ [])) :
    1 + k + (m :: (u ++ r)).countP isNotice ≤ (m :: (u ++ r)).countP (· ≠ []) := by
  have hu := countP_isNotice_le u
  rw [List.countP_cons_of_neg (not_isNotice_of_isMarker hm),
    List.countP_cons_of_pos (by simpa using ne_nil_of_isMarker hm), List.countP_append,
    List.countP_append]
  omega

lemma size_add_countP_le (ls : List Line) :
    (messagesOf ls).size + ls.countP isNotice ≤ ls.countP (· ≠ []) := by
  induction ls using segment_induction with
  | nil => rfl
  | line l ls h ih =>
    have hl := size_remark l
    rw [messagesOf_line h, size_merge, ← List.singleton_append, List.countP_append,
      List.countP_append]
    omega
  | block m t c p ls hm hp ih =>
    rw [messagesOf_block hm hp, size_merge]
    exact countP_error hm [t, c, p] ls ih
  | broken m t c p ls hm hp ih =>
    rw [messagesOf_broken hm hp, size_merge]
    exact countP_error hm [t] (c :: p :: ls) ih

lemma size_add_countP_eq {ls : List Line} (he : (messagesOf ls).errors = []) :
    (messagesOf ls).size + ls.countP isNotice = ls.countP (· ≠ []) := by
  induction ls using segment_induction with
  | nil => rfl
  | line l ls h ih =>
    have hl := size_remark l
    rw [messagesOf_line h] at he ⊢
    have ih := ih (List.append_eq_nil_iff.mp he).2
    rw [size_merge, ← List.singleton_append, List.countP_append, List.countP_append]
    omega
  | block m t c p ls hm hp ih => rw [messagesOf_block hm hp] at he; cases he
  | broken m t c p ls hm hp ih => rw [messagesOf_broken hm hp] at he; cases he

/-- **No line is lost or used twice.** Every visible line is chatter at its own place or
belongs to a block; counted together, messages and notices are no more than the lines that
are not empty, and without errors just as many. -/
theorem lines_accounted (raw : String) :
    ((∃ c ∈ raw.toList, ¬isBlank c) →
        ∃ I J, Account (lines raw.toList) (parse raw).value I J) ∧
      (parse raw).value.informational.length + (parse raw).value.errors.length +
          (lines raw.toList).countP isNotice ≤ (lines raw.toList).countP (· ≠ []) ∧
      ((∃ c ∈ raw.toList, ¬isBlank c) → (parse raw).value.errors = [] →
        (parse raw).value.informational.length + (parse raw).value.errors.length +
          (lines raw.toList).countP isNotice = (lines raw.toList).countP (· ≠ [])) := by
  by_cases h : ∃ c ∈ raw.toList, ¬isBlank c
  · have hv : (parse raw).value = messagesOf (lines raw.toList) := by
      rw [parse_of_visible h, messagesOf_eq_collect 0]
    refine ⟨fun _ => ?_, ?_, fun _ he => ?_⟩
    · rw [parse_of_visible h]
      exact ⟨_, _, account_segments _⟩
    · rw [hv]
      exact size_add_countP_le _
    · rw [hv] at he ⊢
      exact size_add_countP_eq he
  · refine ⟨fun h' => absurd h' h, ?_, fun h' => absurd h' h⟩
    rw [parse_of_blank h]
    simpa [Messages.empty] using countP_isNotice_le (lines raw.toList)

end JFlexReport.Console
