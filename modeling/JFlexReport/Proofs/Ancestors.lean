import Mathlib.Data.List.TakeWhile
import JFlexReport.Path
import JFlexReport.Proofs.Pieces

/-!
The way up from a path.

A path is a list of components: its steps without the idle ones, except for a point that begins
it. The directory above has one component less and begins as the path does, whatever idle steps
and slashes stand between the components or behind them; only a path without components has no
directory above it. So the way up leads through the beginnings of the list of components, down
to the root of an absolute path and to the empty path from a relative one.
-/

namespace JFlexReport.Path

open Text

/-! ### Components -/

def isIdle (step : List Char) : Bool := step == [] || step == ['.']

/-- The steps that are not idle. -/
def namesOf (s : List Char) : List (List Char) :=
  (splitEach isSlash s).filter fun step => !isIdle step

/-- The components of a path that is spelled `s`. -/
def componentsOf (s : List Char) : List (List Char) :=
  match splitEach isSlash s with
  | ['.'] :: steps => ['.'] :: steps.filter fun step => !isIdle step
  | steps => steps.filter fun step => !isIdle step

def components (p : Path) : List (List Char) := componentsOf p.text.toList

lemma namesOf_append_slash (a b : List Char) :
    namesOf (a ++ '/' :: b) = namesOf a ++ namesOf b := by
  rw [namesOf, splitEach_append_sep (by rfl), List.filter_append]
  rfl

lemma namesOf_singleton {step : List Char} (h : '/' ∉ step) (hidle : isIdle step = false) :
    namesOf step = [step] := by
  have hclean : ∀ c ∈ step, isSlash c = false := by
    intro c hc
    have hne : c ≠ '/' := fun hslash => h (hslash ▸ hc)
    simpa [isSlash] using hne
  rw [namesOf, splitEach_eq_singleton hclean, List.filter_cons_of_pos (by simp [hidle]),
    List.filter_nil]

/-- A step behind a slash, or behind nothing, is a name of its own. -/
lemma namesOf_append_step {a step : List Char} (ha : ∀ c ∈ a.getLast?, c = '/')
    (h : '/' ∉ step) (hidle : isIdle step = false) : namesOf (a ++ step) = namesOf a ++ [step] := by
  rcases List.eq_nil_or_concat a with rfl | ⟨a, c, rfl⟩
  · rw [List.nil_append, namesOf_singleton h hidle]
    rfl
  · obtain rfl : c = '/' := ha c (by simp)
    have hslash : namesOf (a ++ ['/']) = namesOf a := by
      rw [namesOf_append_slash]
      simp [namesOf, splitEach, isIdle]
    rw [List.concat_eq_append, hslash, List.append_assoc, List.singleton_append,
      namesOf_append_slash, namesOf_singleton h hidle]

/-- What stands in front of the steps is a component only if it is a point. -/
def headComponents (head : List Char) : List (List Char) := if head = ['.'] then [['.']] else []

lemma componentsOf_eq (s : List Char) :
    componentsOf s = headComponents (splitHead s).1 ++ namesOf (splitHead s).2 := by
  unfold splitHead
  split
  · next s => rfl
  · rfl
  · next s => rfl
  · next _ hslash hpoint hpointSlash =>
    -- the first step is not a point
    unfold componentsOf
    split
    · next steps hsteps =>
      rcases exists_first_sep isSlash s with hs | ⟨l, c, r, rfl, hl, hc⟩
      · rw [splitEach_eq_singleton hs, List.cons.injEq] at hsteps
        exact absurd hsteps.1 hpoint
      · rw [splitEach_piece hl hc, List.cons.injEq] at hsteps
        obtain rfl : c = '/' := by simpa [isSlash] using hc
        exact absurd (by rw [hsteps.1]; rfl) (hpointSlash r)
    · rfl

/-! ### The directory above -/

lemma namesOf_dropIdle (s : List Char) : namesOf (dropIdle s).reverse = namesOf s.reverse := by
  fun_induction dropIdle s with
  | case1 s ih =>
    rw [ih, List.reverse_cons, namesOf_append_slash]
    simp [namesOf, splitEach, isIdle]
  | case2 => decide
  | case3 s ih =>
    rw [ih, List.reverse_cons, List.reverse_cons, List.append_assoc, List.singleton_append,
      namesOf_append_slash]
    simp [namesOf, splitEach, isIdle, isSlash]
  | case4 => rfl

lemma dropIdle_suffix (s : List Char) : dropIdle s <:+ s := by
  fun_induction dropIdle s with
  | case1 s ih => exact ih.trans (List.suffix_cons _ _)
  | case2 => exact List.nil_suffix
  | case3 s ih => exact ih.trans ((List.suffix_cons _ _).trans (List.suffix_cons _ _))
  | case4 => exact List.suffix_rfl

def isNameChar (c : Char) : Bool := !isSlash c

lemma isIdle_of_dropIdle {s r : List Char} {c : Char} (h : dropIdle s = c :: r) :
    c ≠ '/' ∧ isIdle ((c :: r).takeWhile isNameChar).reverse = false := by
  fun_induction dropIdle s with
  | case1 s ih => exact ih h
  | case2 => cases h
  | case3 s ih => exact ih h
  | case4 s hslash hpoint hpointSlash =>
    subst h
    have hc : c ≠ '/' := fun hc => hslash r (by rw [hc])
    refine ⟨hc, ?_⟩
    have hname : isNameChar c := by simpa [isNameChar, isSlash] using hc
    rw [List.takeWhile_cons_of_pos hname]
    rcases r with _ | ⟨d, r⟩
    · have hdot : c ≠ '.' := fun hdot => hpoint (by rw [hdot])
      simpa [isIdle] using hdot
    · by_cases hd : d = '/'
      · have hdot : c ≠ '.' := fun hdot => hpointSlash r (by rw [hdot, hd])
        subst hd
        simpa [isIdle, isNameChar, isSlash] using hdot
      · have hname : isNameChar d := by simpa [isNameChar, isSlash] using hd
        rw [List.takeWhile_cons_of_pos hname, isIdle, Bool.or_eq_false_iff]
        refine ⟨by simp, ?_⟩
        -- two characters are no point
        have hlength : ((c :: d :: r.takeWhile isNameChar).reverse).length ≠ ['.'].length := by
          simp
        exact beq_eq_false_iff_ne.mpr fun heq => hlength (congrArg List.length heq)

/-- The steps in front of the last name. -/
def frontOf (r : List Char) : List Char := (dropIdle (r.dropWhile isNameChar)).reverse

/-- **A text that is not idle is its front and a last name.** -/
lemma namesOf_eq_front {s r : List Char} {c : Char} (h : dropIdle s.reverse = c :: r) :
    ∃ name, namesOf s = namesOf (frontOf r) ++ [name] := by
  obtain ⟨hc, hidle⟩ := isIdle_of_dropIdle h
  have hname : isNameChar c := by simpa [isNameChar, isSlash] using hc
  have hcut := List.takeWhile_append_dropWhile (p := isNameChar) (l := c :: r)
  have hslash : '/' ∉ ((c :: r).takeWhile isNameChar).reverse := by
    intro hmem
    have hchar := List.mem_takeWhile_imp (List.mem_reverse.mp hmem)
    exact absurd hchar (by decide)
  have hrest : ∀ x ∈ ((c :: r).dropWhile isNameChar).reverse.getLast?, x = '/' := by
    intro x hx
    rw [List.getLast?_reverse] at hx
    have hnot := List.head?_dropWhile_not isNameChar (c :: r)
    rw [Option.mem_def.mp hx] at hnot
    simpa [isNameChar, isSlash] using hnot
  refine ⟨((c :: r).takeWhile isNameChar).reverse, ?_⟩
  calc namesOf s
      = namesOf (c :: r).reverse := by rw [← h, namesOf_dropIdle, List.reverse_reverse]
    _ = namesOf (((c :: r).dropWhile isNameChar).reverse ++
          ((c :: r).takeWhile isNameChar).reverse) := by rw [← List.reverse_append, hcut]
    _ = namesOf ((c :: r).dropWhile isNameChar).reverse ++
          [((c :: r).takeWhile isNameChar).reverse] := namesOf_append_step hrest hslash hidle
    _ = namesOf (frontOf r) ++ [((c :: r).takeWhile isNameChar).reverse] := by
      rw [frontOf, namesOf_dropIdle, List.dropWhile_cons_of_pos hname]

lemma frontOf_begins {s r : List Char} {c : Char} (h : dropIdle s.reverse = c :: r) :
    frontOf r <+: s := by
  have hsuffix : dropIdle (r.dropWhile isNameChar) <:+ s.reverse := by
    have hcons := dropIdle_suffix s.reverse
    rw [h] at hcons
    exact (dropIdle_suffix _).trans
      ((List.dropWhile_suffix _).trans ((List.suffix_cons c r).trans hcons))
  rw [frontOf, ← List.reverse_suffix, List.reverse_reverse]
  exact hsuffix

lemma frontOf_ne_point (r : List Char) : frontOf r ≠ ['.'] := by
  intro h
  rw [frontOf, List.reverse_eq_cons_iff] at h
  have hidle := (isIdle_of_dropIdle h).2
  exact absurd hidle (by decide)

lemma splitHead_append {s front : List Char} (hfront : front <+: (splitHead s).2)
    (hpoint : front ≠ ['.']) :
    splitHead ((splitHead s).1 ++ front) = ((splitHead s).1, front) := by
  fun_cases splitHead s with
  | case1 s => rfl
  | case2 =>
    rw [splitHead, List.prefix_nil] at hfront
    rw [hfront]
    rfl
  | case3 s =>
    rw [splitHead] at hfront
    rcases front with _ | ⟨c, front⟩
    · rfl
    · obtain rfl : c = '/' := (List.cons_prefix_cons.mp hfront).1
      rfl
  | case4 s hslash hpointS hpointSlash =>
    rw [splitHead] at hfront
    · obtain ⟨rest, rfl⟩ := hfront
      rw [List.nil_append, splitHead]
      · rintro t rfl; exact hslash (t ++ rest) rfl
      · exact hpoint
      · rintro t rfl; exact hpointSlash (t ++ rest) rfl
    · exact hslash
    · exact hpointS
    · exact hpointSlash

lemma head?_eq_slash_iff (s : List Char) : s.head? = some '/' ↔ (splitHead s).1 = ['/'] := by
  fun_cases splitHead s with
  | case1 s => simp
  | case2 => simp
  | case3 s => simp
  | case4 s hslash =>
    rcases s with _ | ⟨c, s⟩
    · simp
    · have hc : c ≠ '/' := fun hc => hslash s (by rw [hc])
      simpa using hc

/-- **The directory above has one component less**, and begins as the path does. -/
lemma parentChars?_cases (s : List Char) :
    (parentChars? s = none ∧ componentsOf s = []) ∨
      ∃ r last, parentChars? s = some r ∧ componentsOf s = componentsOf r ++ [last] ∧
        (r.head? = some '/' ↔ s.head? = some '/') := by
  rcases hbody : dropIdle (splitHead s).2.reverse with _ | ⟨c, r⟩
  · -- nothing but the head is left
    have hnames : namesOf (splitHead s).2 = [] := by
      have := namesOf_dropIdle (splitHead s).2.reverse
      rw [hbody, List.reverse_reverse] at this
      exact this.symm
    rw [componentsOf_eq, hnames, List.append_nil, head?_eq_slash_iff s, parentChars?]
    simp only [hbody, headComponents]
    by_cases hhead : (splitHead s).1 = ['.']
    · exact .inr ⟨[], ['.'], by rw [if_pos hhead], by rw [if_pos hhead]; rfl, by simp [hhead]⟩
    · exact .inl ⟨by rw [if_neg hhead], by rw [if_neg hhead]⟩
  · obtain ⟨last, hlast⟩ := namesOf_eq_front hbody
    have hsplit := splitHead_append (frontOf_begins hbody) (frontOf_ne_point r)
    refine .inr ⟨(splitHead s).1 ++ frontOf r, last, ?_, ?_, ?_⟩
    · rw [parentChars?]
      simp only [hbody]
      rfl
    · rw [componentsOf_eq s, componentsOf_eq (_ ++ _), hsplit, hlast, List.append_assoc]
    · rw [head?_eq_slash_iff, head?_eq_slash_iff s, hsplit]

lemma parent?_cases (p : Path) :
    (p.parent? = none ∧ p.components = []) ∨
      ∃ q last, p.parent? = some q ∧ p.components = q.components ++ [last] ∧
        q.isAbsolute = p.isAbsolute := by
  rcases parentChars?_cases p.text.toList with ⟨hnone, hcomponents⟩ | ⟨r, last, hr, hlast, hroot⟩
  · exact .inl ⟨by rw [parent?, hnone]; rfl, hcomponents⟩
  · refine .inr ⟨⟨String.ofList r⟩, last, by rw [parent?, hr]; rfl, ?_, ?_⟩
    · rw [components, components, hlast, String.toList_ofList]
    · rw [isAbsolute, isAbsolute, String.toList_ofList, Bool.eq_iff_iff, beq_iff_eq, beq_iff_eq,
        hroot]

/-! ### The way up -/

/-- The path `k` directories up, if there is one. -/
def above (p : Path) : ℕ → Option Path
  | 0 => some p
  | k + 1 => (p.above k).bind parent?

/-- **The way up leads through the beginnings of the components**, and goes on as long as there
are components. -/
lemma above_cases (p : Path) (k : ℕ) :
    (p.above k = none ∧ p.components.length < k) ∨
      ∃ q last, p.above k = some q ∧ p.components = q.components ++ last ∧ last.length = k ∧
        q.isAbsolute = p.isAbsolute := by
  induction k with
  | zero => exact .inr ⟨p, [], rfl, by simp, rfl, rfl⟩
  | succ k ih =>
    rcases ih with ⟨hnone, hlt⟩ | ⟨q, last, hq, hlast, hk, hroot⟩
    · exact .inl ⟨by rw [above, hnone]; rfl, by omega⟩
    · rcases q.parent?_cases with ⟨hnone, hnil⟩ | ⟨q', step, hq', hstep, hroot'⟩
      · refine .inl ⟨by rw [above, hq]; exact hnone, ?_⟩
        rw [hlast, hnil, List.nil_append, hk]
        exact Nat.lt_succ_self k
      · refine .inr ⟨q', step :: last, by rw [above, hq]; exact hq', ?_, ?_, hroot'.trans hroot⟩
        · rw [hlast, hstep, List.append_assoc, List.singleton_append]
        · rw [List.length_cons, hk]

lemma eq_nil_of_namesOf_eq_nil {s : List Char} (h : namesOf s = [])
    (hslash : ∀ t, s ≠ '/' :: t) (hpoint : s ≠ ['.']) (hpointSlash : ∀ t, s ≠ '.' :: '/' :: t) :
    s = [] := by
  rcases exists_first_sep isSlash s with hs | ⟨l, c, r, rfl, hl, hc⟩
  · rw [namesOf, splitEach_eq_singleton hs] at h
    simpa [isIdle, hpoint] using h
  · -- the first step would be idle
    obtain rfl : c = '/' := by simpa [isSlash] using hc
    rw [namesOf, splitEach_piece hl hc] at h
    have hidle : l = [] ∨ l = ['.'] := by
      by_contra hidle
      rw [List.filter_cons_of_pos (by simpa [isIdle, not_or] using hidle)] at h
      cases h
    rcases hidle with rfl | rfl
    · exact absurd rfl (hslash r)
    · exact absurd rfl (hpointSlash r)

lemma eq_empty_of_components_eq_nil {p : Path} (h : p.components = [])
    (hroot : p.isAbsolute = false) : p = ⟨""⟩ := by
  obtain ⟨text⟩ := p
  have hhead : text.toList.head? ≠ some '/' := by simpa [isAbsolute] using hroot
  have hnil : text.toList = [] := by
    rw [components, componentsOf_eq] at h
    generalize text.toList = s at h hhead
    fun_cases splitHead s with
    | case1 s => exact absurd rfl hhead
    | case2 => cases h
    | case3 s => cases h
    | case4 s hslash hpoint hpointSlash =>
      rw [splitHead] at h
      · exact eq_nil_of_namesOf_eq_nil h (fun t => hslash t) hpoint fun t => hpointSlash t
      · exact hslash
      · exact hpoint
      · exact hpointSlash
  rw [Path.mk.injEq, ← String.toList_inj, hnil]
  rfl

/-- **Where the way up ends**: at the root, if the path is absolute, or else at the empty path. -/
lemma exists_top (p : Path) :
    ∃ top, p.above p.components.length = some top ∧ top.parent? = none ∧
      top.components = [] ∧ top.isAbsolute = p.isAbsolute ∧
      (p.isAbsolute = false → top = ⟨""⟩) := by
  rcases p.above_cases p.components.length with ⟨-, hlt⟩ | ⟨top, last, htop, hlast, hlength, hroot⟩
  · exact absurd hlt (Nat.lt_irrefl _)
  · have hnil : top.components = [] := by
      have := congrArg List.length hlast
      rw [List.length_append, hlength] at this
      exact List.length_eq_zero_iff.mp (by omega)
    have hparent : top.parent? = none := by
      rcases top.parent?_cases with ⟨hnone, -⟩ | ⟨q, step, -, hstep, -⟩
      · exact hnone
      · rw [hnil] at hstep
        simp at hstep
    refine ⟨top, htop, hparent, hnil, hroot, fun h => ?_⟩
    exact eq_empty_of_components_eq_nil hnil (hroot.trans h)

end JFlexReport.Path
