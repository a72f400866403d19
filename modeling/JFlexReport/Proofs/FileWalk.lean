import Mathlib.Data.List.Basic
import Mathlib.Tactic.Lemma
import JFlexReport.FileTree
import JFlexReport.Proofs.Pieces

/-!
Where the paths of a file tree lead.

A path is walked step by step, and each step needs a directory to start from. So wherever the
path of a name leads somewhere, the path in front of the name leads to a directory.
-/

namespace JFlexReport

open Text

/-! ### The steps of a path -/

namespace Path

lemma steps_ne_nil (p : Path) : p.steps ≠ [] := by
  rw [steps, ne_eq, List.map_eq_nil_iff]
  exact splitEach_ne_nil _ _

lemma steps_append_slash (a b : String) :
    (⟨a ++ "/" ++ b⟩ : Path).steps = (⟨a⟩ : Path).steps ++ (⟨b⟩ : Path).steps := by
  have htext : (a ++ "/" ++ b).toList = a.toList ++ '/' :: b.toList := by simp
  rw [steps, htext, splitEach_append_sep (by rfl), List.map_append]
  rfl

/-- A name joined to a path adds its steps, behind those of the path less an idle one. -/
lemma steps_join {p : Path} (hp : p.text ≠ "") (name : String) :
    ∃ front idle, p.steps = front ++ idle ∧ (idle = [] ∨ idle = [""]) ∧
      (p.join name).steps = front ++ (⟨name⟩ : Path).steps := by
  obtain ⟨text⟩ := p
  have hempty : text.isEmpty = false := by simpa using hp
  by_cases hslash : text.toList.getLast? = some '/'
  · -- the slash at the end is an idle step, and the name takes its place
    obtain ⟨init, hinit⟩ : ∃ init, text = init ++ "/" ++ "" := by
      obtain ⟨l, hl⟩ := List.getLast?_eq_some_iff.mp hslash
      exact ⟨String.ofList l, by rw [← String.toList_inj, hl]; simp⟩
    refine ⟨(⟨init⟩ : Path).steps, [""], ?_, .inr rfl, ?_⟩
    · rw [hinit, steps_append_slash]
      rfl
    · have hjoin : (Path.mk text).join name = ⟨init ++ "/" ++ name⟩ := by
        simp [join, hinit, String.append_assoc]
      rw [hjoin, steps_append_slash]
  · refine ⟨(⟨text⟩ : Path).steps, [], by simp, .inl rfl, ?_⟩
    have hjoin : (Path.mk text).join name = ⟨text ++ "/" ++ name⟩ := by
      simp [join, hempty, hslash]
    rw [hjoin, steps_append_slash]

lemma text_join (p : Path) (name : String) :
    ∃ rest, (p.join name).text = p.text ++ rest := by
  unfold join
  split
  · exact ⟨name, rfl⟩
  · exact ⟨"/" ++ name, String.append_assoc⟩

lemma join_ne_empty {p : Path} (hp : p.text ≠ "") (name : String) : (p.join name).text ≠ "" := by
  obtain ⟨rest, htext⟩ := p.text_join name
  rw [htext, ne_eq, String.append_eq_empty_iff]
  exact fun h => hp h.1

end Path

/-! ### Directories in front of names -/

namespace Place

variable {p q : Place}

lemma walk_cons_iff {n : String} {ns : List String} :
    p.walk (n :: ns) = .ok q ↔ ∃ d, p.enter n = .ok d ∧ d.walk ns = .ok q := by
  rw [walk, List.foldlM_cons]
  constructor
  · intro h
    rcases hn : p.enter n with e | d
    · rw [hn] at h; cases h
    · rw [hn] at h
      exact ⟨d, rfl, h⟩
  · rintro ⟨d, hn, h⟩
    rw [hn]
    exact h

lemma walk_append_iff {a b : List String} :
    p.walk (a ++ b) = .ok q ↔ ∃ d, p.walk a = .ok d ∧ d.walk b = .ok q := by
  induction a generalizing p with
  | nil => exact ⟨fun h => ⟨p, rfl, h⟩, by rintro ⟨d, ⟨⟩, h⟩; exact h⟩
  | cons n a ih =>
    simp only [List.cons_append, walk_cons_iff, ih]
    constructor
    · rintro ⟨d, hn, d', hd, h⟩
      exact ⟨d', ⟨d, hn, hd⟩, h⟩
    · rintro ⟨d', ⟨d, hn, hd⟩, h⟩
      exact ⟨d, hn, d', hd, h⟩

lemma isDirectory_of_enter {name : String} (h : p.enter name = .ok q) :
    p.here.isDirectory := by
  unfold enter at h
  split at h
  · cases h
  · cases h
  · next es hes => rw [hes]; rfl

lemma enter_idle (h : p.here.isDirectory) : p.enter "" = .ok p := by
  unfold enter
  split
  · next hhere => rw [hhere] at h; cases h
  · next hhere => rw [hhere] at h; cases h
  · simp

lemma isDirectory_of_walk_append {front names : List String} (hne : names ≠ [])
    (h : p.walk (front ++ names) = .ok q) :
    ∃ d, p.walk front = .ok d ∧ d.here.isDirectory := by
  obtain ⟨d, hd, hnames⟩ := walk_append_iff.mp h
  obtain ⟨n, ns, rfl⟩ := List.exists_cons_of_ne_nil hne
  obtain ⟨_, hn, -⟩ := walk_cons_iff.mp hnames
  exact ⟨d, hd, isDirectory_of_enter hn⟩

lemma walk_append_idle {d : Place} {front idle : List String} (h : p.walk front = .ok d)
    (hd : d.here.isDirectory) (hidle : idle = [] ∨ idle = [""]) :
    p.walk (front ++ idle) = .ok d := by
  rcases hidle with rfl | rfl
  · rwa [List.append_nil]
  · have hstep : d.walk [""] = .ok d := walk_cons_iff.mpr ⟨d, enter_idle hd, rfl⟩
    exact walk_append_iff.mpr ⟨d, h, hstep⟩

end Place

/-- A path that can be walked at all. -/
structure Path.Walkable (p : Path) : Prop where
  nul : '\x00' ∉ p.text.toList
  ne_empty : p.text ≠ ""
  short : p.text.utf8ByteSize ≤ longestPath

lemma Path.Walkable.of_join {p : Path} {name : String} (h : (p.join name).Walkable)
    (hp : p.text ≠ "") : p.Walkable := by
  obtain ⟨rest, htext⟩ := p.text_join name
  refine ⟨fun hnul => h.nul ?_, hp, ?_⟩
  · rw [htext, String.toList_append]
    exact List.mem_append_left _ hnul
  · have := h.short
    rw [htext, String.utf8ByteSize_append] at this
    omega

lemma Path.isAbsolute_join {p : Path} (hp : p.text ≠ "") (name : String) :
    (p.join name).isAbsolute = p.isAbsolute := by
  obtain ⟨rest, htext⟩ := p.text_join name
  have hne : p.text.toList ≠ [] := by simpa using hp
  rw [isAbsolute, isAbsolute, htext, String.toList_append, List.head?_append_of_ne_nil _ hne]

namespace Place

def origin (p : Place) (path : Path) : Place := if path.isAbsolute then p.root else p

lemma resolve_of_walkable {path : Path} (h : path.Walkable) (p : Place) :
    p.resolve path = (p.origin path).walk path.steps := by
  have hempty : path.text.isEmpty = false := by simpa using h.ne_empty
  rw [resolve, if_neg h.nul, hempty, if_neg Bool.false_ne_true, if_neg (Nat.not_lt.mpr h.short)]
  rfl

lemma walkable_of_resolve {p q : Place} {path : Path} (h : p.resolve path = .ok q) :
    path.Walkable := by
  unfold resolve at h
  split_ifs at h with hnul hempty hlong
  all_goals exact ⟨hnul, by simpa using hempty, Nat.not_lt.mp hlong⟩

lemma view_eq_ok_iff {p : Place} {path : Path} {t : FileTree} :
    p.view path = .ok t ↔ ∃ q, p.resolve path = .ok q ∧ q.here = t := by
  rw [view]
  rcases p.resolve path with e | q
  · simp [Except.map]
  · simp [Except.map]

end Place

lemma FileView.isFile_iff {v : FileView} {p : Path} :
    v.isFile p ↔ ∃ t, v p = .ok t ∧ t.isFile := by
  rw [isFile]
  rcases v p with e | t <;> simp

lemma FileView.isDirectory_iff {v : FileView} {p : Path} :
    v.isDirectory p ↔ ∃ t, v p = .ok t ∧ t.isDirectory := by
  rw [isDirectory]
  rcases v p with e | t <;> simp

/-- What the files look like wherever they form a tree: an empty path leads nowhere, and the
path in front of a name leads to a directory. -/
structure FileView.IsTree (v : FileView) : Prop where
  empty : ∀ t, v ⟨""⟩ ≠ .ok t
  above : ∀ (p : Path) (name : String) t, p.text ≠ "" → v (p.join name) = .ok t → v.isDirectory p

/-- **Files seen from a place form a tree.** -/
theorem Place.isTree_view (p : Place) : p.view.IsTree where
  empty t h := by
    obtain ⟨q, hq, -⟩ := view_eq_ok_iff.mp h
    exact (walkable_of_resolve hq).ne_empty rfl
  above path name t hpath h := by
    obtain ⟨q, hq, -⟩ := view_eq_ok_iff.mp h
    have hjoin := walkable_of_resolve hq
    obtain ⟨front, idle, hsteps, hidle, hjoined⟩ := Path.steps_join hpath name
    rw [resolve_of_walkable hjoin, hjoined, origin, Path.isAbsolute_join hpath] at hq
    obtain ⟨d, hd, hdir⟩ := isDirectory_of_walk_append (Path.steps_ne_nil _) hq
    have hresolve : p.resolve path = .ok d := by
      rw [resolve_of_walkable (hjoin.of_join hpath), hsteps]
      exact walk_append_idle hd hdir hidle
    exact FileView.isDirectory_iff.mpr ⟨d.here, view_eq_ok_iff.mpr ⟨d, hresolve, rfl⟩, hdir⟩

end JFlexReport
