import JFlexReport.Proofs.FileCreation

/-!
What one more file changes.

A tree with one more file looks the same everywhere but at the place of that file. So a path
leads to a file where it led to none only if it comes to the directory of the new file and ends
in its name: behind the name nothing can be walked, since a file is no directory.
-/

namespace JFlexReport

/-! ### Looking things up in a tree -/

namespace FileTree

/-- What stands at the end of a list of names. -/
def find? : List String → FileTree → Option FileTree
  | [], t => some t
  | n :: ns, t => (t.child? n).bind (find? ns)

/-- What can be told without looking into a tree: whether it is a file or a directory. -/
def kind (t : FileTree) : Bool × Bool := (t.isFile, t.isDirectory)

lemma find?_append (a b : List String) (t : FileTree) :
    t.find? (a ++ b) = (t.find? a).bind (find? b) := by
  induction a generalizing t with
  | nil => rfl
  | cons n a ih =>
    rw [List.cons_append, find?, find?]
    cases t.child? n with
    | none => rfl
    | some sub => exact ih sub

lemma isDirectory_of_child? {t sub : FileTree} {n : String} (h : t.child? n = some sub) :
    t.isDirectory := by
  cases t with
  | file content => cases h
  | device content => cases h
  | directory es => rfl

lemma kind_setChild {t : FileTree} (h : t.isDirectory) (n : String) (new : FileTree) :
    (t.setChild n new).kind = t.kind := by
  cases t with
  | file content => cases h
  | device content => cases h
  | directory es => rfl

/-- The tree `t'` is `t` with one more file, of that name and in the directory that `dir` leads
to. -/
structure Addition (t t' : FileTree) (dir : List String) (name : String) : Prop where
  absent : t.find? (dir ++ [name]) = none
  present : ∃ content, t'.find? (dir ++ [name]) = some (.file content)
  elsewhere : ∀ ns, ¬dir ++ [name] <+: ns → (t'.find? ns).map kind = (t.find? ns).map kind

lemma find?_put_self (new : FileTree) (ns : List String) (t : FileTree) :
    (put new ns t).find? ns = some new := by
  induction ns generalizing t with
  | nil => rfl
  | cons n ns ih => rw [put, find?, child?_setChild, Option.bind_some, ih]

lemma kind_find?_put {t d : FileTree} {dir : List String} (hdir : t.find? dir = some d)
    (hd : d.isDirectory) (new : FileTree) {name : String} {ns : List String}
    (hns : ¬dir ++ [name] <+: ns) :
    ((put new (dir ++ [name]) t).find? ns).map kind = (t.find? ns).map kind := by
  induction dir generalizing t ns with
  | nil =>
    cases hdir
    rcases ns with _ | ⟨n, ns⟩
    · exact congrArg some (kind_setChild hd name new)
    · have hne : n ≠ name := fun hn => hns (by simp [hn])
      rw [List.nil_append, put, find?, child?_setChild_of_ne _ _ hne, find?]
  | cons m dir ih =>
    rw [find?] at hdir
    obtain ⟨sub, hsub, hrest⟩ := Option.bind_eq_some_iff.mp hdir
    rcases ns with _ | ⟨n, ns⟩
    · exact congrArg some (kind_setChild (isDirectory_of_child? hsub) m _)
    · rw [List.cons_append, put, hsub, Option.getD_some, find?, find?]
      by_cases hn : n = m
      · subst hn
        rw [child?_setChild, hsub, Option.bind_some, Option.bind_some]
        refine ih hrest fun hpre => hns ?_
        exact List.cons_prefix_cons.mpr ⟨rfl, hpre⟩
      · rw [child?_setChild_of_ne _ _ hn]

/-- **A file put where nothing stood is one more file.** -/
lemma addition_put {t d : FileTree} {dir : List String} (hdir : t.find? dir = some d)
    (hd : d.isDirectory) {name : String} (hname : d.child? name = none) (content : Content) :
    Addition t (put (.file content) (dir ++ [name]) t) dir name where
  absent := by rw [find?_append, hdir, Option.bind_some, find?, hname]; rfl
  present := ⟨content, find?_put_self _ _ _⟩
  elsewhere _ hns := kind_find?_put hdir hd _ hns

end FileTree

/-! ### Places in a tree -/

namespace Place

/-- The names that lead from the root to the place. -/
def names (p : Place) : List String := (p.above.map Prod.fst).reverse

/-- The place is one of the tree. -/
inductive Within (t : FileTree) : Place → Prop
  | root : Within t { here := t }
  | child {p : Place} {n : String} {sub : FileTree} (h : Within t p)
    (hsub : p.here.child? n = some sub) :
    Within t { here := sub, above := (n, p.here) :: p.above }

variable {t t' : FileTree} {p p' q q' : Place}

lemma names_child (n : String) (sub : FileTree) (p : Place) :
    ({ here := sub, above := (n, p.here) :: p.above } : Place).names = p.names ++ [n] := by
  simp [names]

lemma names_up (p : Place) : p.up.names = p.names.dropLast := by
  obtain ⟨here, above⟩ := p
  rcases above with _ | ⟨⟨n, t⟩, above⟩
  · rfl
  · simp [up, names]

lemma Within.find?_names (h : Within t p) : t.find? p.names = some p.here := by
  induction h with
  | root => rfl
  | child h hsub ih =>
    rw [names_child, FileTree.find?_append, ih, Option.bind_some, FileTree.find?, hsub]
    rfl

lemma Within.up (h : Within t p) : Within t p.up := by
  cases h with
  | root => exact .root
  | child h hsub => exact h

lemma Within.root_eq (h : Within t p) : p.root = { here := t } := by
  induction h with
  | root => rfl
  | @child p n sub h hsub ih =>
    obtain ⟨here, above⟩ := p
    rcases above with _ | ⟨a, above⟩
    · exact ih
    · rw [Place.root, List.getLast?_cons_cons]
      exact ih

lemma enter_eq (p : Place) (n : String) :
    p.enter n =
      if p.here.isDirectory = false then .error .notDirectory
      else if n = "" ∨ n = "." then .ok p
      else if n = ".." then .ok p.up
      else if longestName < n.utf8ByteSize then .error .nameTooLong
      else
        match p.here.child? n with
        | some sub => .ok { here := sub, above := (n, p.here) :: p.above }
        | none => .error .notFound := by
  unfold enter
  split
  · next hp => rw [hp]; rfl
  · next hp => rw [hp]; rfl
  · next es hp => rw [hp]; rfl

lemma Within.enter (h : Within t p) {n : String} (hp : p.enter n = .ok p') : Within t p' := by
  rw [enter_eq] at hp
  split_ifs at hp
  · cases hp; exact h
  · cases hp; exact h.up
  · split at hp
    · next sub hsub => cases hp; exact .child h hsub
    · cases hp

lemma Within.walk (h : Within t p) {ns : List String} (hp : p.walk ns = .ok p') : Within t p' := by
  induction ns generalizing p with
  | nil => cases hp; exact h
  | cons n ns ih =>
    obtain ⟨d, hn, hd⟩ := walk_cons_iff.mp hp
    exact ih (h.enter hn) hd

/-! ### The same place in two trees -/

/-- The same names lead to `p` in the tree `t` and to `q` in `t'`. -/
structure Beside (t t' : FileTree) (p q : Place) : Prop where
  left : Within t p
  right : Within t' q
  names_eq : q.names = p.names

section Addition

variable {dir : List String} {name : String} (hadd : FileTree.Addition t t' dir name)

include hadd

/-- Nothing stood behind the new file, nor at its place. -/
lemma not_prefix_names (h : Within t p) : ¬dir ++ [name] <+: p.names := by
  rintro ⟨rest, hrest⟩
  have hfind := h.find?_names
  rw [← hrest, FileTree.find?_append, hadd.absent] at hfind
  cases hfind

lemma Beside.kind_eq (h : Beside t t' p q) : q.here.kind = p.here.kind := by
  have helse := hadd.elsewhere p.names (not_prefix_names hadd h.left)
  rw [h.left.find?_names, ← h.names_eq, h.right.find?_names] at helse
  exact Option.some.inj helse

/-- **A step in both trees** leads to the same place, or fails for the same reason, or it leads
to the new file. -/
lemma Beside.enter_cases (h : Beside t t' p q) (n : String) :
    (∃ p' q', p.enter n = .ok p' ∧ q.enter n = .ok q' ∧ Beside t t' p' q') ∨
      (∃ e, p.enter n = .error e ∧ q.enter n = .error e) ∨
      (p.names = dir ∧ n = name ∧ p.here.isDirectory ∧ (∃ e, p.enter n = .error e) ∧
        ∃ q', q.enter n = .ok q' ∧ q'.here.isFile) := by
  obtain ⟨-, hdir⟩ := Prod.mk.inj (h.kind_eq hadd)
  rw [enter_eq p, enter_eq q, hdir]
  split_ifs with hp hidle hup hlong
  · exact .inr (.inl ⟨_, rfl, rfl⟩)
  · exact .inl ⟨p, q, rfl, rfl, h⟩
  · refine .inl ⟨_, _, rfl, rfl, h.left.up, h.right.up, ?_⟩
    rw [names_up, names_up, h.names_eq]
  · exact .inr (.inl ⟨_, rfl, rfl⟩)
  · have hpfind : t.find? (p.names ++ [n]) = p.here.child? n := by
      rw [FileTree.find?_append, h.left.find?_names, Option.bind_some, FileTree.find?]
      cases p.here.child? n <;> rfl
    have hqfind : t'.find? (p.names ++ [n]) = q.here.child? n := by
      rw [← h.names_eq, FileTree.find?_append, h.right.find?_names, Option.bind_some,
        FileTree.find?]
      cases q.here.child? n <;> rfl
    by_cases htarget : dir ++ [name] = p.names ++ [n]
    · -- this is where the new file is
      obtain ⟨hnames, hname⟩ := List.append_inj' htarget rfl
      obtain ⟨content, hcontent⟩ := hadd.present
      have habsent := hadd.absent
      rw [htarget, hpfind] at habsent
      rw [htarget, hqfind] at hcontent
      rw [habsent, hcontent]
      have hname : n = name := (List.singleton_inj.mp hname).symm
      refine .inr (.inr ⟨hnames.symm, hname, ?_, ⟨_, rfl⟩, _, rfl, rfl⟩)
      simpa using hp
    · have hns : ¬dir ++ [name] <+: p.names ++ [n] := by
        intro hpre
        rcases List.prefix_concat_iff.mp hpre with heq | hpre
        · exact htarget (by simpa using heq)
        · exact not_prefix_names hadd h.left hpre
      have helse := hadd.elsewhere _ hns
      rw [hpfind, hqfind] at helse
      rcases hp' : p.here.child? n with _ | sub <;> rcases hq' : q.here.child? n with _ | sub'
      · exact .inr (.inl ⟨_, rfl, rfl⟩)
      · rw [hp', hq'] at helse; cases helse
      · rw [hp', hq'] at helse; cases helse
      · refine .inl ⟨_, _, rfl, rfl, .child h.left hp', .child h.right hq', ?_⟩
        rw [names_child, names_child, h.names_eq]

lemma Beside.walk (h : Beside t t' p q) {ns : List String} (hp : p.walk ns = .ok p') :
    ∃ q', q.walk ns = .ok q' ∧ Beside t t' p' q' := by
  induction ns generalizing p q with
  | nil =>
    cases hp
    exact ⟨q, rfl, h⟩
  | cons n ns ih =>
    obtain ⟨d, hn, hd⟩ := walk_cons_iff.mp hp
    rcases h.enter_cases hadd n with ⟨p₁, q₁, hp₁, hq₁, h₁⟩ | ⟨e, he, -⟩ | ⟨-, -, -, ⟨e, he⟩, -⟩
    · rw [hn] at hp₁
      cases hp₁
      obtain ⟨q', hq', h'⟩ := ih h₁ hd
      exact ⟨q', walk_cons_iff.mpr ⟨q₁, hq₁, hq'⟩, h'⟩
    · rw [hn] at he; cases he
    · rw [hn] at he; cases he

lemma Beside.walk_cases (h : Beside t t' p q) {ns : List String} (hq : q.walk ns = .ok q') :
    (∃ p', p.walk ns = .ok p' ∧ Beside t t' p' q') ∨
      ∃ front d, ns = front ++ [name] ∧ p.walk front = .ok d ∧ d.names = dir ∧
        d.here.isDirectory := by
  induction ns generalizing p q with
  | nil =>
    cases hq
    exact .inl ⟨p, rfl, h⟩
  | cons n ns ih =>
    obtain ⟨q₁, hn, hrest⟩ := walk_cons_iff.mp hq
    rcases h.enter_cases hadd n with ⟨p₁, q₂, hp₁, hq₂, h₁⟩ | ⟨e, -, he⟩ |
      ⟨hnames, hname, hdir, -, q₂, hq₂, hfile⟩
    · rw [hn] at hq₂
      cases hq₂
      rcases ih h₁ hrest with ⟨p', hp', h'⟩ | ⟨front, d, rfl, hfront, hd⟩
      · exact .inl ⟨p', walk_cons_iff.mpr ⟨p₁, hp₁, hp'⟩, h'⟩
      · exact .inr ⟨n :: front, d, rfl, walk_cons_iff.mpr ⟨p₁, hp₁, hfront⟩, hd⟩
    · rw [hn] at he; cases he
    · rw [hn] at hq₂
      cases hq₂
      rcases ns with _ | ⟨m, ns⟩
      · exact .inr ⟨[], p, by rw [hname]; rfl, rfl, hnames, hdir⟩
      · -- the new file is no directory
        obtain ⟨_, hm, -⟩ := walk_cons_iff.mp hrest
        have hdirectory := isDirectory_of_enter hm
        cases hhere : q₁.here <;> rw [hhere] at hfile hdirectory
        · cases hdirectory
        · cases hfile
        · cases hfile

omit hadd in
lemma Beside.origin (h : Beside t t' p q) (path : Path) :
    Beside t t' (p.origin path) (q.origin path) := by
  unfold Place.origin
  split
  · rw [h.left.root_eq, h.right.root_eq]
    exact ⟨.root, .root, rfl⟩
  · exact h

lemma Beside.isFile_view (h : Beside t t' p q) {path : Path} (hp : p.view.isFile path) :
    q.view.isFile path := by
  obtain ⟨s, hs, hfile⟩ := FileView.isFile_iff.mp hp
  obtain ⟨p', hp', rfl⟩ := view_eq_ok_iff.mp hs
  have hwalkable := walkable_of_resolve hp'
  rw [resolve_of_walkable hwalkable] at hp'
  obtain ⟨q', hq', h'⟩ := (h.origin path).walk hadd hp'
  rw [← resolve_of_walkable hwalkable] at hq'
  obtain ⟨hkind, -⟩ := Prod.mk.inj (h'.kind_eq hadd)
  exact FileView.isFile_iff.mpr
    ⟨q'.here, view_eq_ok_iff.mpr ⟨q', hq', rfl⟩, hkind.trans hfile⟩

/-- **A path that leads to a file only with the new one** comes to its directory and ends in its
name. -/
lemma Beside.isFile_view_cases (h : Beside t t' p q) {path : Path} (hq : q.view.isFile path) :
    p.view.isFile path ∨
      path.Walkable ∧ ∃ front d, path.steps = front ++ [name] ∧
        (p.origin path).walk front = .ok d ∧ d.names = dir ∧ d.here.isDirectory := by
  obtain ⟨s, hs, hfile⟩ := FileView.isFile_iff.mp hq
  obtain ⟨q', hq', rfl⟩ := view_eq_ok_iff.mp hs
  have hwalkable := walkable_of_resolve hq'
  rw [resolve_of_walkable hwalkable] at hq'
  rcases (h.origin path).walk_cases hadd hq' with ⟨p', hp', h'⟩ | hnew
  · rw [← resolve_of_walkable hwalkable] at hp'
    obtain ⟨hkind, -⟩ := Prod.mk.inj (h'.kind_eq hadd)
    exact .inl (FileView.isFile_iff.mpr
      ⟨p'.here, view_eq_ok_iff.mpr ⟨p', hp', rfl⟩, hkind.symm.trans hfile⟩)
  · exact .inr ⟨hwalkable, hnew⟩

end Addition

/-! ### Directories that paths stand for -/

/-- The place that a path of a directory leads to. The empty path stands for the current
directory. -/
def directory? (p : Place) (path : Path) : Except LookupError Place :=
  if path.text = "" then .ok p else p.resolve path

/-- The path leads to the directory of those names. -/
def Denotes (p : Place) (path : Path) (ns : List String) : Prop :=
  ∃ d, p.directory? path = .ok d ∧ d.names = ns

lemma denotes_iff {path : Path} {ns : List String} :
    p.Denotes path ns ↔ (p.directory? path).map names = .ok ns := by
  unfold Denotes
  cases p.directory? path <;> simp [Except.map]

instance (p : Place) (path : Path) (ns : List String) : Decidable (p.Denotes path ns) :=
  decidable_of_iff _ denotes_iff.symm

/-- **Only the directory of the new file has one more file.** -/
lemma Beside.isFile_join_iff {dir : List String} {name : String}
    (hadd : FileTree.Addition t t' dir name) (h : Beside t t' p q)
    (hname : (⟨name⟩ : Path).steps = [name]) (hroot : (⟨name⟩ : Path).isAbsolute = false)
    {path : Path} (hpath : ¬p.Denotes path dir) :
    q.view.isFile (path.join name) = p.view.isFile (path.join name) := by
  rw [Bool.eq_iff_iff]
  refine ⟨fun hq => ?_, h.isFile_view hadd⟩
  rcases h.isFile_view_cases hadd hq with hp | ⟨hwalkable, front, d, hsteps, hfront, hnames, hdir⟩
  · exact hp
  · refine absurd ⟨d, ?_, hnames⟩ hpath
    unfold directory?
    split
    · next hempty =>
      have hjoin : path.join name = ⟨name⟩ := by simp [Path.join, hempty]
      rw [hjoin, hname] at hsteps
      have hnil : front = [] := by simpa using hsteps
      rw [hjoin, Place.origin, hroot, hnil] at hfront
      exact hfront
    · next hne =>
      obtain ⟨front', idle, hsteps', hidle, hjoin⟩ := Path.steps_join hne name
      rw [hjoin, hname] at hsteps
      obtain rfl := (List.append_inj' hsteps rfl).1
      rw [Place.origin, Path.isAbsolute_join hne] at hfront
      rw [resolve_of_walkable (hwalkable.of_join hne), hsteps']
      exact walk_append_idle hfront hdir hidle

end Place

end JFlexReport
