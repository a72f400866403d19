import Mathlib.Data.List.TakeWhile
import Mathlib.Tactic.Lemma
import JFlexReport.Console

/-!
The scan of a list of lines, as the list of the segments it takes them in.

A segment is one line on its own, or a block of four lines; a block without a pointer uses
up its marker and its message only, so the next segment begins with its context line. What
a step of the scan does is settled once, in `step_eq`: it reads the first segment of the
lines that are left. A whole scan is then a list of segments with their messages and their
records.
-/

namespace JFlexReport

open Text

namespace LineReader

variable {α : Type}

/-- The lines from the current one on. -/
def rest (r : LineReader α) : List α := r.lines.toList.drop r.position

lemma rest_ofList (ls : List α) : (ofList ls).rest = ls := by
  simp [ofList, rest]

lemma peek_eq (r : LineReader α) (k : ℕ) : r.peek k = r.rest[k]? := by
  simp [peek, rest]

lemma current_eq (r : LineReader α) : r.current = r.rest.head? := by
  rw [current, peek_eq, List.head?_eq_getElem?]

lemma exists_rest {r : LineReader α} {l : α} (h : r.current = some l) :
    ∃ ls, r.rest = l :: ls := by
  rw [current_eq] at h
  exact List.head?_eq_some_iff.mp h

lemma length_rest (r : LineReader α) : r.rest.length = r.lines.size - r.position := by
  simp [rest]

lemma remaining_eq (r : LineReader α) : r.remaining = r.rest.length - 1 := by
  rw [remaining, length_rest]; omega

lemma position_add_length_rest {r : LineReader α} {l : α} {ls : List α} (h : r.rest = l :: ls) :
    r.position + r.rest.length = r.lines.size := by
  have hpos : 0 < r.rest.length := by simp [h]
  rw [length_rest] at hpos ⊢; omega

end LineReader

namespace Console

open Log

/-! ### Pointer lines -/

/-- A line without the spaces in front. -/
def unindented (l : Line) : Line := l.dropWhile (· == ' ')

/-- How many spaces stand in front. -/
def indent (l : Line) : ℕ := (l.takeWhile (· == ' ')).length

lemma unindented_space (s : Line) : unindented (' ' :: s) = unindented s := by
  simp [unindented]

lemma unindented_cons {c : Char} (hc : c ≠ ' ') (s : Line) : unindented (c :: s) = c :: s := by
  simp [unindented, hc]

lemma indent_space (s : Line) : indent (' ' :: s) = indent s + 1 := by
  simp [indent]

lemma indent_cons {c : Char} (hc : c ≠ ' ') (s : Line) : indent (c :: s) = 0 := by
  simp [indent, hc]

lemma unindented_spaces (k : ℕ) (s : Line) :
    unindented (List.replicate k ' ' ++ s) = unindented s := by
  induction k with
  | zero => rfl
  | succ k ih => rw [List.replicate_succ, List.cons_append, unindented_space, ih]

lemma indent_spaces (k : ℕ) (s : Line) :
    indent (List.replicate k ' ' ++ s) = k + indent s := by
  induction k with
  | zero => simp
  | succ k ih => rw [List.replicate_succ, List.cons_append, indent_space, ih]; omega

lemma spaces_append_unindented (l : Line) :
    List.replicate (indent l) ' ' ++ unindented l = l := by
  have h : l.takeWhile (· == ' ') = List.replicate (indent l) ' ' :=
    List.eq_replicate_of_mem fun c hc => by simpa using List.mem_takeWhile_imp hc
  rw [← h, unindented, List.takeWhile_append_dropWhile]

lemma behind_eq (k : ℕ) (p : Line) :
    Pointer.behind k p =
      match unindented p with
      | [] => .blank
      | '^' :: _ =>
        if k + indent p + 1 < UInt32.size then .column (UInt32.ofNat (k + indent p + 1))
        else .blank
      | _ :: _ => .foreign := by
  fun_induction Pointer.behind k p with
  | case1 k => rfl
  | case2 k s ih =>
    rw [ih, unindented_space, indent_space, show k + 1 + indent s = k + (indent s + 1) by omega]
  | case3 k s h => simp [unindented_cons, indent_cons, h]
  | case4 k s h => simp [unindented_cons, indent_cons, h]
  | case5 s k hnil hspace hcaret =>
    cases s with
    | nil => exact absurd rfl hnil
    | cons c s =>
      have hc : c ≠ ' ' := fun h => hspace s (by rw [h])
      have hc' : c ≠ '^' := fun h => hcaret s (by rw [h])
      rw [unindented_cons hc]
      split <;> simp_all

section Pointer

variable {p s : Line}

lemma ofLine_caret (h : unindented p = '^' :: s) :
    Pointer.ofLine p =
      if indent p + 1 < UInt32.size then .column (UInt32.ofNat (indent p + 1)) else .blank := by
  simp only [Pointer.ofLine, behind_eq, h, Nat.zero_add]

lemma ofLine_blank (h : unindented p = []) : Pointer.ofLine p = .blank := by
  simp only [Pointer.ofLine, behind_eq, h]

lemma ofLine_foreign {c : Char} (h : unindented p = c :: s) (hc : c ≠ '^') :
    Pointer.ofLine p = .foreign := by
  rw [Pointer.ofLine, behind_eq, h]
  split <;> simp_all

lemma ofLine_caret_ne (h : unindented p = '^' :: s) : Pointer.ofLine p ≠ .foreign := by
  rw [ofLine_caret h]
  split <;> simp

end Pointer

/-! ### Segments -/

/-- What the scan takes as one, with the place where it begins. -/
inductive Segment
  | line (start : ℕ) (l : Line)
  | block (start : ℕ) (marker text context pointer : Line)

namespace Segment

def start : Segment → ℕ
  | line n _ => n
  | block n _ _ _ _ => n

/-- How many lines are used up. -/
def width : Segment → ℕ
  | line _ _ => 1
  | block _ _ _ _ p => if Pointer.ofLine p = .foreign then 2 else 4

/-- Where the next segment begins. -/
def stop (s : Segment) : ℕ := s.start + s.width

def messages : Segment → Messages
  | line _ l =>
    if isNotice l || l.isEmpty then .empty else { informational := [.plain (String.ofList l)] }
  | block _ m t _ p => { errors := [blockError m t p] }

def records : Segment → List Record
  | line _ _ => []
  | block n m _ _ p =>
    (LineNumber.ofMarker m).records m ++
      if Pointer.ofLine p = .foreign then [foreignPointer (n + 4)] else []

/-- The first segment of the lines `l :: ls`. -/
def first (n : ℕ) (l : Line) (ls : List Line) : Segment :=
  match ls with
  | t :: c :: p :: _ => if isMarker l then block n l t c p else line n l
  | _ => line n l

lemma width_pos (s : Segment) : 0 < s.width := by
  cases s with
  | line n l => exact Nat.one_pos
  | block n m t c p => rw [width]; split <;> omega

@[simp] lemma start_first (n : ℕ) (l : Line) (ls : List Line) : (first n l ls).start = n := by
  unfold first
  split
  · split <;> rfl
  · rfl

/-- The first segment is a block exactly when its marker has three lines behind it. -/
lemma first_cases (n : ℕ) (l : Line) (ls : List Line) :
    (∃ t c p ls', ls = t :: c :: p :: ls' ∧ isMarker l ∧ first n l ls = block n l t c p) ∨
      ((isMarker l → ls.length < 3) ∧ first n l ls = line n l) := by
  match ls with
  | t :: c :: p :: ls' =>
    by_cases hm : isMarker l
    · exact .inl ⟨t, c, p, ls', rfl, hm, by simp [first, hm]⟩
    · exact .inr ⟨fun h => absurd h hm, by simp [first, hm]⟩
  | [] => exact .inr ⟨by simp, rfl⟩
  | [_] => exact .inr ⟨by simp, rfl⟩
  | [_, _] => exact .inr ⟨by simp, rfl⟩

end Segment

/-- The segments of a list of lines, the first of which begins at `n`. -/
def segments (n : ℕ) : List Line → List Segment
  | [] => []
  | l :: ls =>
    let s := Segment.first n l ls
    s :: segments s.stop (ls.drop (s.width - 1))
termination_by ls => ls.length
decreasing_by
  rw [List.length_drop, List.length_cons]; omega

lemma segments_nil (n : ℕ) : segments n [] = [] := by
  rw [segments]

lemma segments_cons (n : ℕ) (l : Line) (ls : List Line) :
    segments n (l :: ls) =
      Segment.first n l ls ::
        segments (Segment.first n l ls).stop ((l :: ls).drop (Segment.first n l ls).width) := by
  obtain ⟨k, hk⟩ := Nat.exists_eq_add_of_lt (Segment.first n l ls).width_pos
  rw [segments, hk]
  simp

lemma segments_line {l : Line} {ls : List Line} (h : isMarker l → ls.length < 3) (n : ℕ) :
    segments n (l :: ls) = .line n l :: segments (n + 1) ls := by
  obtain ⟨t, c, p, ls', rfl, hm, -⟩ | ⟨-, hf⟩ := Segment.first_cases n l ls
  · have := h hm
    simp only [List.length_cons] at this; omega
  · simp [segments_cons, hf, Segment.stop, Segment.start, Segment.width]

section Block

variable {m t c p : Line} {ls : List Line}

lemma segments_block (hm : isMarker m) (hp : Pointer.ofLine p ≠ .foreign) (n : ℕ) :
    segments n (m :: t :: c :: p :: ls) = .block n m t c p :: segments (n + 4) ls := by
  simp [segments_cons, Segment.first, hm, Segment.stop, Segment.start, Segment.width, hp]

lemma segments_broken (hm : isMarker m) (hp : Pointer.ofLine p = .foreign) (n : ℕ) :
    segments n (m :: t :: c :: p :: ls) =
      .block n m t c p :: segments (n + 2) (c :: p :: ls) := by
  simp [segments_cons, Segment.first, hm, Segment.stop, Segment.start, Segment.width, hp]

end Block

/-- **Induction along the segments.** A line on its own, a complete block, and a block that
gives its context and pointer lines back. -/
@[elab_as_elim]
theorem segment_induction {P : List Line → Prop} (nil : P [])
    (line : ∀ l ls, (isMarker l → ls.length < 3) → P ls → P (l :: ls))
    (block : ∀ m t c p ls, isMarker m → Pointer.ofLine p ≠ .foreign → P ls →
      P (m :: t :: c :: p :: ls))
    (broken : ∀ m t c p ls, isMarker m → Pointer.ofLine p = .foreign → P (c :: p :: ls) →
      P (m :: t :: c :: p :: ls)) (ls : List Line) : P ls := by
  induction hn : ls.length using Nat.strong_induction_on generalizing ls with
  | _ n ih =>
    subst hn
    cases ls with
    | nil => exact nil
    | cons l ls =>
      obtain ⟨t, c, p, ls', rfl, hm, -⟩ | ⟨hm, -⟩ := Segment.first_cases 0 l ls
      · by_cases hp : Pointer.ofLine p = .foreign
        · exact broken _ _ _ _ _ hm hp (ih _ (by simp) _ rfl)
        · exact block _ _ _ _ _ hm hp (ih _ (by simp only [List.length_cons]; omega) _ rfl)
      · exact line _ _ hm (ih _ (by simp) _ rfl)

/-- The messages of several segments in a row. -/
def collect (ss : List Segment) : Messages :=
  ss.foldr (fun s ms => s.messages.merge ms) .empty

@[simp] lemma collect_nil : collect [] = .empty := rfl
@[simp] lemma collect_cons (s : Segment) (ss : List Segment) :
    collect (s :: ss) = s.messages.merge (collect ss) := rfl

/-! ### The scan -/

/-- **A step reads the first segment**, and leaves the reader where that ends. -/
lemma step_eq {r : LineReader Line} {l : Line} {ls : List Line} (h : r.rest = l :: ls)
    (ms : Messages) :
    step r l ms =
      { reader := { r with position := (Segment.first r.position l ls).stop }
        messages := ms.merge (Segment.first r.position l ls).messages
        records := (Segment.first r.position l ls).records } := by
  have hsize := LineReader.position_add_length_rest h
  have hrem := r.remaining_eq
  rw [h, List.length_cons] at hsize hrem
  obtain ⟨t, c, p, ls', rfl, hm, hf⟩ | ⟨hm, hf⟩ := Segment.first_cases r.position l ls
  · -- the three lines behind the marker are there, so no step is cut short at the end
    simp only [List.length_cons] at hsize hrem
    have hcond : isMarker l ∧ blockTail ≤ r.remaining := ⟨hm, by rw [hrem, blockTail]; omega⟩
    have hend : min (r.position + 4) r.lines.size = r.position + 4 := by omega
    rw [hf, step, if_pos hcond, readBlock]
    simp only [LineReader.current_eq, LineReader.peek_eq, h, blockTail]
    by_cases hp : Pointer.ofLine p = .foreign
    · simp [hp, Segment.stop, Segment.start, Segment.width, Segment.messages, Segment.records,
        LineReader.advance, LineReader.retreat, hend, Messages.push, Messages.merge]
    · simp [hp, Segment.stop, Segment.start, Segment.width, Segment.messages, Segment.records,
        LineReader.advance, hend, Messages.push, Messages.merge]
  · have hcond : ¬(isMarker l ∧ blockTail ≤ r.remaining) := by
      rintro ⟨h1, h2⟩
      have := hm h1
      rw [hrem, blockTail] at h2; omega
    have hend : min (r.position + 1) r.lines.size = r.position + 1 := by omega
    rw [hf, step, if_neg hcond, readChatter]
    by_cases hl : isNotice l || l.isEmpty
    · simp [hl, Segment.stop, Segment.start, Segment.width, Segment.messages, Segment.records,
        LineReader.advance, hend]
    · simp [hl, Segment.stop, Segment.start, Segment.width, Segment.messages, Segment.records,
        LineReader.advance, hend, Messages.push, Messages.merge]

/-- **A scan reads the segments in order.** -/
theorem scan_eq (r : LineReader Line) (ms : Messages) :
    scan r ms =
      ⟨ms.merge (collect (segments r.position r.rest)),
        (segments r.position r.rest).flatMap Segment.records⟩ := by
  fun_induction scan r ms with
  | case1 r ms hr =>
    rw [LineReader.current_eq, List.head?_eq_none_iff] at hr
    rw [hr, segments_nil]
    simp
  | case2 r ms l hl _ p ih =>
    obtain ⟨ls, h⟩ := LineReader.exists_rest hl
    have hstep := step_eq h ms
    have hrest : p.reader.rest = r.rest.drop (Segment.first r.position l ls).width := by
      simp [p, hstep, LineReader.rest, Segment.stop]
    rw [ih, hrest, h, segments_cons]
    simp [p, hstep, Log.Logged.after, Messages.merge_assoc]

end Console

end JFlexReport
