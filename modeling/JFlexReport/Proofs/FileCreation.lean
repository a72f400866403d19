import Mathlib.Data.List.Forall2
import JFlexReport.Proofs.FileWalk

/-!
What stays when files are created.

A tree is kept in another when every entry is still there, each file with its content and
each directory with what it held. Putting something where nothing stood keeps the tree, and
a path that led to a file in the tree leads to a file afterwards.
-/

namespace JFlexReport

namespace FileTree

/-- Everything in the tree is still there; `sub` tells what became of the entries. -/
inductive KeptIn : FileTree → FileTree → Prop
  | file (content : Content) : KeptIn (.file content) (.file content)
  | device (content : Content) : KeptIn (.device content) (.device content)
  | directory {es es' : List (String × FileTree)} (sub : String → FileTree)
    (hsub : ∀ name t, es.lookup name = some t → es'.lookup name = some (sub name))
    (h : ∀ name t, es.lookup name = some t → KeptIn t (sub name)) :
    KeptIn (.directory es) (.directory es')

variable {t t' : FileTree}

lemma KeptIn.isFile (h : t.KeptIn t') : t'.isFile = t.isFile := by
  cases h <;> rfl

lemma keptIn_directory {es es' : List (String × FileTree)}
    (h : ∀ name t, es.lookup name = some t → ∃ t', es'.lookup name = some t' ∧ t.KeptIn t') :
    KeptIn (.directory es) (.directory es') := by
  refine .directory (fun name => (es'.lookup name).getD empty) (fun name t ht => ?_)
    fun name t ht => ?_
  · obtain ⟨t', ht', -⟩ := h name t ht
    rw [ht', Option.getD_some]
  · obtain ⟨t', ht', hkept⟩ := h name t ht
    rwa [ht', Option.getD_some]

lemma sizeOf_lt_directory {es : List (String × FileTree)} {name : String}
    (h : es.lookup name = some t) : sizeOf t < sizeOf (directory es) := by
  obtain ⟨front, rest, rfl, -⟩ := List.lookup_eq_some_iff.mp h
  have hmem : (name, t) ∈ front ++ (name, t) :: rest := by simp
  have := List.sizeOf_lt_of_mem hmem
  simp only [Prod.mk.sizeOf_spec, directory.sizeOf_spec] at this ⊢
  omega

theorem KeptIn.refl : ∀ t : FileTree, t.KeptIn t
  | .file content => .file content
  | .device content => .device content
  | .directory _ => keptIn_directory fun _ t h => ⟨t, h, KeptIn.refl t⟩
decreasing_by exact sizeOf_lt_directory h

/-! ### Putting something where nothing stands -/

/-- Directories lead towards the names, and nothing stands at their end. -/
def Free : List String → FileTree → Prop
  | [], _ => False
  | n :: ns, t => t.isDirectory ∧ ∀ sub, t.child? n = some sub → Free ns sub

lemma child?_setChild (t new : FileTree) (n : String) : (t.setChild n new).child? n = some new := by
  simp [setChild, child?, entries]

lemma child?_setChild_of_ne (t new : FileTree) {m n : String} (h : m ≠ n) :
    (t.setChild n new).child? m = t.child? m := by
  have hne : (m == n) = false := by simpa using h
  rw [child?, setChild, entries, List.lookup_cons, hne, child?]
  change List.lookup m (t.entries.filter fun e => e.1 ≠ n) = List.lookup m t.entries
  induction t.entries with
  | nil => rfl
  | cons e es ih =>
    obtain ⟨k, sub⟩ := e
    by_cases hk : k = n
    · rw [List.filter_cons_of_neg (by simp [hk]), ih, List.lookup_cons, hk, hne]
    · rw [List.filter_cons_of_pos (by simp [hk]), List.lookup_cons, List.lookup_cons, ih]

/-- **What is put where nothing stood leaves everything else as it was.** -/
theorem keptIn_put (new : FileTree) {names : List String} (h : Free names t) :
    t.KeptIn (put new names t) := by
  induction names generalizing t with
  | nil => exact h.elim
  | cons n ns ih =>
    obtain ⟨hdir, hfree⟩ := h
    cases t with
    | file content => cases hdir
    | device content => cases hdir
    | directory es =>
      refine keptIn_directory fun m sub hsub => ?_
      by_cases hm : m = n
      · subst hm
        refine ⟨_, child?_setChild (directory es) _ m, ?_⟩
        have hchild : (directory es).child? m = some sub := hsub
        rw [hchild, Option.getD_some]
        exact ih (hfree sub hchild)
      · exact ⟨sub, (child?_setChild_of_ne (directory es) _ hm).trans hsub, KeptIn.refl sub⟩

end FileTree

/-! ### Paths in a tree that is kept -/

lemma getLast?_of_forall₂ {α : Type} {R : α → α → Prop} {as bs : List α}
    (h : List.Forall₂ R as bs) :
    (as.getLast? = none ∧ bs.getLast? = none) ∨
      ∃ a b, as.getLast? = some a ∧ bs.getLast? = some b ∧ R a b := by
  induction h with
  | nil => exact .inl ⟨rfl, rfl⟩
  | cons hab htail ih =>
    cases htail with
    | nil => exact .inr ⟨_, _, rfl, rfl, hab⟩
    | cons hcd htail => simpa only [List.getLast?_cons_cons] using ih

/-- The place is still there, with everything that can be reached from it. -/
structure Place.KeptIn (p q : Place) : Prop where
  here : p.here.KeptIn q.here
  above : List.Forall₂ (fun a b => a.1 = b.1 ∧ a.2.KeptIn b.2) p.above q.above

namespace Place

variable {p p' q : Place}

lemma KeptIn.up (h : p.KeptIn q) : p.up.KeptIn q.up := by
  obtain ⟨here, above⟩ := p
  obtain ⟨here', above'⟩ := q
  obtain ⟨hhere, habove⟩ := h
  cases habove with
  | nil => exact ⟨hhere, .nil⟩
  | cons hab habove => exact ⟨hab.2, habove⟩

lemma KeptIn.root (h : p.KeptIn q) : p.root.KeptIn q.root := by
  have hlast := getLast?_of_forall₂ h.above
  unfold Place.root
  rcases hlast with ⟨hp, hq⟩ | ⟨a, b, hp, hq, -, hab⟩ <;> rw [hp, hq]
  · exact h
  · exact ⟨hab, .nil⟩

lemma KeptIn.enter (h : p.KeptIn q) {name : String} (hp : p.enter name = .ok p') :
    ∃ q', q.enter name = .ok q' ∧ p'.KeptIn q' := by
  have hdir := isDirectory_of_enter hp
  have hup := h.up
  obtain ⟨here, above⟩ := p
  obtain ⟨here', above'⟩ := q
  obtain ⟨hhere, habove⟩ := h
  simp only at hhere habove hdir
  cases hhere with
  | file content => cases hdir
  | device content => cases hdir
  | @directory es es' sub hsub hkept =>
    have hdirs : FileTree.KeptIn (.directory es) (.directory es') := .directory sub hsub hkept
    simp only [Place.enter] at hp ⊢
    split_ifs at hp ⊢ with hidle hpoints hlong
    · cases hp
      exact ⟨_, rfl, hdirs, habove⟩
    · cases hp
      exact ⟨_, rfl, hup⟩
    · rcases hl : es.lookup name with _ | t
      · rw [hl] at hp; cases hp
      · rw [hl] at hp
        cases hp
        rw [hsub name t hl]
        exact ⟨_, rfl, hkept name t hl, .cons ⟨rfl, hdirs⟩ habove⟩

lemma KeptIn.walk (h : p.KeptIn q) {names : List String} (hp : p.walk names = .ok p') :
    ∃ q', q.walk names = .ok q' ∧ p'.KeptIn q' := by
  induction names generalizing p q with
  | nil =>
    cases hp
    exact ⟨q, rfl, h⟩
  | cons n ns ih =>
    obtain ⟨d, hn, hd⟩ := walk_cons_iff.mp hp
    obtain ⟨d', hn', hkept⟩ := h.enter hn
    obtain ⟨q', hd', hq⟩ := ih hkept hd
    exact ⟨q', walk_cons_iff.mpr ⟨d', hn', hd'⟩, hq⟩

lemma KeptIn.resolve (h : p.KeptIn q) {path : Path} (hp : p.resolve path = .ok p') :
    ∃ q', q.resolve path = .ok q' ∧ p'.KeptIn q' := by
  have hwalkable := walkable_of_resolve hp
  have horigin : (p.origin path).KeptIn (q.origin path) := by
    unfold origin
    split
    · exact h.root
    · exact h
  rw [resolve_of_walkable hwalkable] at hp ⊢
  exact horigin.walk hp

/-- **Paths of files go on leading to files.** -/
theorem KeptIn.isFile_view (h : p.KeptIn q) {path : Path} (hp : p.view.isFile path) :
    q.view.isFile path := by
  obtain ⟨t, ht, hfile⟩ := FileView.isFile_iff.mp hp
  obtain ⟨p', hp', rfl⟩ := view_eq_ok_iff.mp ht
  obtain ⟨q', hq', hkept⟩ := h.resolve hp'
  exact FileView.isFile_iff.mpr
    ⟨q'.here, view_eq_ok_iff.mpr ⟨q', hq', rfl⟩, hkept.here.isFile.trans hfile⟩

end Place

end JFlexReport
