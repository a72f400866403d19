import JFlexReport.Proofs.Ancestors
import JFlexReport.Proofs.FileAddition
import JFlexReport.Proofs.SettingsFile

/-!
The search for a settings file, along the way up.

The search looks into one directory after the other on the way up from where it starts, and it
stops in the first one that holds a settings file. From any directory that it comes to it would
go on in the same way, and a further settings file can only matter in a directory that it
comes to.
-/

namespace JFlexReport.Settings

variable {v v' : FileView} {start d p : Path}

/-- There is a file of the right name in the directory; a directory of that name is none. -/
def HoldsFile (v : FileView) (d : Path) : Prop :=
  ∃ content, v (d.join fileName) = .ok (.file content)

/-- The search from `start` comes to the directory `d`: it is on the way up, and no directory
before it holds a settings file. -/
def ComesTo (v : FileView) (start d : Path) : Prop :=
  ∃ k, start.above k = some d ∧ ∀ j < k, ∀ e, start.above j = some e → ¬HoldsFile v e

lemma holdsFile_iff : HoldsFile v d ↔ v.isFile (d.join fileName) := by
  rw [FileView.isFile_iff]
  constructor
  · rintro ⟨content, h⟩
    exact ⟨_, h, rfl⟩
  · rintro ⟨t, h, hfile⟩
    cases t with
    | file content => exact ⟨content, h⟩
    | device content => cases hfile
    | directory es => cases hfile

instance : Decidable (HoldsFile v d) := decidable_of_iff _ holdsFile_iff.symm

lemma comesTo_self (v : FileView) (d : Path) : ComesTo v d d :=
  ⟨0, rfl, fun j hj => absurd hj (Nat.not_lt_zero j)⟩

lemma above_succ_eq (p : Path) (k : ℕ) : p.above (k + 1) = p.parent?.bind fun q => q.above k := by
  induction k with
  | zero => cases hp : p.parent? <;> simp [Path.above, hp]
  | succ k ih =>
    rw [Path.above, ih]
    cases p.parent? <;> rfl

lemma ComesTo.up {q : Path} (h : ComesTo v q d) (hno : ¬HoldsFile v start)
    (hq : start.parent? = some q) : ComesTo v start d := by
  obtain ⟨k, hk, hbefore⟩ := h
  refine ⟨k + 1, by rw [above_succ_eq, hq]; exact hk, fun j hj e he => ?_⟩
  cases j with
  | zero => cases he; exact hno
  | succ j =>
    rw [above_succ_eq, hq] at he
    exact hbefore j (by omega) e he

lemma discover_of_comesTo (h : ComesTo v start d) : discover v start = discover v d := by
  obtain ⟨k, hk, hbefore⟩ := h
  induction k generalizing start with
  | zero => cases hk; rfl
  | succ k ih =>
    have hno : ¬v.isFile (start.join fileName) := by
      rw [← holdsFile_iff]
      exact hbefore 0 (Nat.succ_pos k) start rfl
    rw [above_succ_eq] at hk
    obtain ⟨q, hq, hk⟩ := Option.bind_eq_some_iff.mp hk
    rw [discover_eq, if_neg hno, hq, Option.bind_some]
    refine ih hk fun j hj e he => hbefore (j + 1) (by omega) e ?_
    rw [above_succ_eq, hq]
    exact he

lemma exists_comesTo (h : Nearest v start p) :
    ∃ d, ComesTo v start d ∧ HoldsFile v d ∧ p = d.join fileName := by
  induction h with
  | @here d hfile => exact ⟨d, comesTo_self v d, holdsFile_iff.mpr hfile, rfl⟩
  | above hno hq _ ih =>
    obtain ⟨d, hd, hfile, hp⟩ := ih
    exact ⟨d, hd.up (by rw [holdsFile_iff, hno]; exact Bool.false_ne_true) hq, hfile, hp⟩

/-- **The search ends in the first directory that holds a settings file.** -/
lemma discover_eq_some_iff_comesTo :
    discover v start = some p ↔ ∃ d, ComesTo v start d ∧ HoldsFile v d ∧ p = d.join fileName := by
  constructor
  · intro h
    exact exists_comesTo (nearest_of_discover h)
  · rintro ⟨d, hd, hfile, rfl⟩
    rw [discover_of_comesTo hd, discover_eq, if_pos (holdsFile_iff.mp hfile)]

lemma discover_eq_none_iff :
    discover v start = none ↔ ∀ k d, start.above k = some d → ¬HoldsFile v d := by
  constructor
  · intro h k
    -- the first directory with a file would have been found
    induction k using Nat.strongRecOn with
    | ind k ih =>
      intro d hd hfile
      have hcome : ComesTo v start d := ⟨k, hd, ih⟩
      have hsome := discover_eq_some_iff_comesTo.mpr ⟨d, hcome, hfile, rfl⟩
      rw [h] at hsome
      cases hsome
  · intro h
    refine Option.eq_none_iff_forall_ne_some.mpr fun p hp => ?_
    obtain ⟨d, ⟨k, hk, -⟩, hfile, -⟩ := discover_eq_some_iff_comesTo.mp hp
    exact h k d hk hfile

/-- Only the directories that a search comes to have a say in it. -/
lemma discover_congr
    (h : ∀ e, ComesTo v start e → v'.isFile (e.join fileName) = v.isFile (e.join fileName)) :
    discover v' start = discover v start := by
  induction hn : start.text.length using Nat.strongRecOn generalizing start with
  | ind n ih =>
    rw [discover_eq, discover_eq v, h start (comesTo_self v start)]
    split
    · rfl
    · next hno =>
      rw [← holdsFile_iff] at hno
      rcases hq : start.parent? with _ | q
      · rfl
      · rw [Option.bind_some, Option.bind_some]
        exact ih _ (hn ▸ Path.parent?_shorter hq) (fun e he => h e (he.up hno hq)) rfl

/-- The tree with a settings file in the directory of those names. -/
def withFile (content : Content) (dir : List String) (tree : FileTree) : FileTree :=
  FileTree.put (.file content) (dir ++ [fileName]) tree

lemma discover_withFile {tree : FileTree} {cwd names : List String} {here dir : Place}
    (hhere : ({ here := tree } : Place).walk cwd = .ok here)
    (hdir : ({ here := tree } : Place).walk names = .ok dir) (hd : dir.here.isDirectory)
    (habsent : dir.here.child? fileName = none) (content : Content)
    (helse : ∀ e, ComesTo here.view start e → ¬here.Denotes e dir.names) :
    ∃ here', ({ here := withFile content dir.names tree } : Place).walk cwd = .ok here' ∧
      discover here'.view start = discover here.view start := by
  have hfind := (Place.Within.root.walk hdir).find?_names
  have hadd := FileTree.addition_put hfind hd habsent content
  have hroots : Place.Beside tree (withFile content dir.names tree) { here := tree }
      { here := withFile content dir.names tree } := ⟨.root, .root, rfl⟩
  obtain ⟨here', hwalk, hbeside⟩ := hroots.walk hadd hhere
  refine ⟨here', hwalk, discover_congr fun e he => ?_⟩
  exact Place.Beside.isFile_join_iff hadd hbeside (by decide) (by decide) (helse e he)

/-- **The search finds the nearest settings file.** It ends in the first directory on the way up
that holds one, which may be any up to the root or, from a relative path, up to the empty one,
and finds nothing only where none of them holds one. It goes on in the same way from wherever it
comes to, and a file that is put into a directory that it does not come to changes nothing. -/
theorem discover_nearest (v : FileView) (start : Path) :
    (∀ p, discover v start = some p ↔
        ∃ d, ComesTo v start d ∧ HoldsFile v d ∧ p = d.join fileName) ∧
      (discover v start = none ↔ ∀ k d, start.above k = some d → ¬HoldsFile v d) ∧
      (∃ top, start.above start.components.length = some top ∧ top.parent? = none ∧
        top.components = [] ∧ top.isAbsolute = start.isAbsolute ∧
        (start.isAbsolute = false → top = ⟨""⟩)) ∧
      (∀ d, ComesTo v start d → discover v start = discover v d) ∧
      ∀ (tree : FileTree) (cwd names : List String) (here dir : Place) (content : Content),
        ({ here := tree } : Place).walk cwd = .ok here → here.view = v →
        ({ here := tree } : Place).walk names = .ok dir → dir.here.isDirectory →
        dir.here.child? fileName = none →
        (∀ e, ComesTo v start e → ¬here.Denotes e dir.names) →
        ∃ here', ({ here := withFile content dir.names tree } : Place).walk cwd = .ok here' ∧
          discover here'.view start = discover v start := by
  refine ⟨fun p => discover_eq_some_iff_comesTo, discover_eq_none_iff, start.exists_top,
    fun d => discover_of_comesTo, ?_⟩
  rintro tree cwd names here dir content hhere rfl hdir hd habsent helse
  exact discover_withFile hhere hdir hd habsent content helse

/-- The search in a directory with a settings file, from a missing directory in one that has
only a directory of that name; a settings file next to those two makes no difference. -/
theorem discover_nearest_beside :
    let inner : FileTree := .directory [(fileName, .empty)]
    let outer : FileTree := .directory [(fileName, .file (.ok [])), ("a", inner), ("c", .empty)]
    let tree : FileTree := .directory [("w", outer)]
    let here : Place := { here := outer, above := [("w", tree)] }
    discover here.view ⟨"a//b/."⟩ = some ⟨"jfx.toml"⟩ ∧
      ∃ here', ({ here := withFile (.ok []) ["w", "c"] tree } : Place).walk ["w"] = .ok here' ∧
        discover here'.view ⟨"a//b/."⟩ = some ⟨"jfx.toml"⟩ := by
  intro inner outer tree here
  let start : Path := ⟨"a//b/."⟩
  let dir : Place := { here := .empty, above := [("c", outer), ("w", tree)] }
  have hholds : HoldsFile here.view ⟨""⟩ := by decide +kernel
  have hinner : ComesTo here.view ⟨"a"⟩ ⟨""⟩ :=
    (comesTo_self _ _).up (by decide +kernel) (by decide +kernel)
  have hcomes : ComesTo here.view start ⟨""⟩ := hinner.up (by decide +kernel) (by decide +kernel)
  obtain ⟨hsome, -, -, -, hadd⟩ := discover_nearest here.view start
  have hfound : discover here.view start = some ⟨"jfx.toml"⟩ :=
    (hsome _).mpr ⟨⟨""⟩, hcomes, hholds, by decide +kernel⟩
  have hbeside : ∀ e, ComesTo here.view start e → ¬here.Denotes e ["w", "c"] := by
    rintro e ⟨k, he, hbefore⟩
    rcases k with _ | _ | _ | k
    · obtain rfl : start = e := Option.some.inj he
      decide +kernel
    · obtain rfl : ⟨"a"⟩ = e := Option.some.inj (Eq.trans (by decide +kernel) he)
      decide +kernel
    · obtain rfl : ⟨""⟩ = e := Option.some.inj (Eq.trans (by decide +kernel) he)
      decide +kernel
    · exact absurd hholds (hbefore 2 (by omega) ⟨""⟩ (by decide +kernel))
  obtain ⟨here', hwalk, hsame⟩ := hadd tree ["w"] ["w", "c"] here dir (.ok []) rfl rfl rfl rfl rfl
    hbeside
  exact ⟨hfound, here', hwalk, hsame.trans hfound⟩

end JFlexReport.Settings
