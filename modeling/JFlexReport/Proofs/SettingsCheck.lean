import JFlexReport.Settings.Check
import JFlexReport.Proofs.FileCreation

/-!
What a check of settings comes down to.

A check looks at the home, at its `bin` directory and at the launcher in there, and then at
the skeleton. In a file tree the first two looks tell nothing that the third would not: where
the launcher is a file, the paths in front of it lead to directories. Only an empty home is a
case of its own, since its launcher is a path that can exist while the home does not.
-/

namespace JFlexReport.Settings

/-- There is a home to speak of, and its launcher is a file. -/
def Launchable (s : Settings) (v : FileView) : Prop :=
  ∃ home launcher, s.home = some home ∧ home.text ≠ "" ∧ s.launcher = some launcher ∧
    v.isFile launcher

/-- A skeleton is in effect and is no file. -/
def LacksSkeleton (s : Settings) (v : FileView) : Prop :=
  ∃ skeleton, s.effectiveSkeleton = some skeleton ∧ v.isFile skeleton = false

section Tree

variable {v : FileView}

lemma directories_of_isFile (hv : v.IsTree) {home : Path} (hne : home.text ≠ "")
    (h : v.isFile ((home.join binDirectoryName).join launcherName)) :
    v.isDirectory home ∧ v.isDirectory (home.join binDirectoryName) := by
  obtain ⟨t, ht, -⟩ := FileView.isFile_iff.mp h
  have hbin := hv.above _ _ t (Path.join_ne_empty hne _) ht
  obtain ⟨t', ht', -⟩ := FileView.isDirectory_iff.mp hbin
  exact ⟨hv.above _ _ t' hne ht', hbin⟩

variable {s : Settings}

lemma check_of_launchable (hv : v.IsTree) (h : s.Launchable v) : s.check v = s.checkSkeleton v := by
  obtain ⟨home, launcher, hhome, hne, hlauncher, hfile⟩ := h
  obtain rfl : (home.join binDirectoryName).join launcherName = launcher := by
    simpa [Settings.launcher, binDirectory, hhome] using hlauncher
  obtain ⟨hdir, hbin⟩ := directories_of_isFile hv hne hfile
  simp [check, hhome, hdir, hbin, hfile]

lemma check_of_not_launchable (hv : v.IsTree) (h : ¬s.Launchable v) :
    (s.check v).value = .homeInvalid := by
  unfold check
  split
  · rfl
  · next home hhome =>
    simp only
    split_ifs with hdir hbin hfile
    · rfl
    · rfl
    · rfl
    · refine absurd ⟨home, _, hhome, ?_, ?_, by simpa using hfile⟩ h
      · -- an empty home can have a launcher, but it is no directory
        intro hempty
        obtain ⟨t, ht, -⟩ := FileView.isDirectory_iff.mp (by simpa using hdir)
        obtain ⟨text⟩ := home
        obtain rfl : text = "" := hempty
        exact hv.empty t ht
      · simp [Settings.launcher, binDirectory, hhome]

/-! ### The skeleton -/

lemma value_checkSkeleton_of_lacks (h : s.LacksSkeleton v) :
    (s.checkSkeleton v).value = .skeletonMissing := by
  obtain ⟨p, hp, hfile⟩ := h
  simp [checkSkeleton, hp, hfile]

lemma value_checkSkeleton (h : ¬s.LacksSkeleton v) : (s.checkSkeleton v).value = .valid := by
  unfold checkSkeleton
  split
  · next p hp =>
    have hfile : v.isFile p = true := by
      by_contra hfile
      exact h ⟨p, hp, by simpa using hfile⟩
    rw [if_pos hfile]
  · rfl

lemma effectiveSkeleton_of_names (h : s.namesSkeleton) : s.effectiveSkeleton = none := by
  unfold effectiveSkeleton
  split
  · rw [if_pos (by simp [h])]
  · rfl

/-! ### Verdicts -/

lemma check_ne_homeInvalid_iff (hv : v.IsTree) :
    (s.check v).value ≠ .homeInvalid ↔ s.Launchable v := by
  constructor
  · intro h
    by_contra hl
    exact h (check_of_not_launchable hv hl)
  · intro hl
    rw [check_of_launchable hv hl]
    by_cases hs : s.LacksSkeleton v
    · rw [value_checkSkeleton_of_lacks hs]; decide
    · rw [value_checkSkeleton hs]; decide

lemma check_eq_skeletonMissing_iff (hv : v.IsTree) (hl : s.Launchable v) :
    (s.check v).value = .skeletonMissing ↔ s.LacksSkeleton v := by
  rw [check_of_launchable hv hl]
  by_cases hs : s.LacksSkeleton v
  · simp [value_checkSkeleton_of_lacks hs, hs]
  · simp [value_checkSkeleton hs, hs]

lemma check_eq_valid_iff (hv : v.IsTree) :
    (s.check v).value = .valid ↔ s.Launchable v ∧ ¬s.LacksSkeleton v := by
  by_cases hl : s.Launchable v
  · rw [check_of_launchable hv hl]
    by_cases hs : s.LacksSkeleton v
    · simp [value_checkSkeleton_of_lacks hs, hs]
    · simp [value_checkSkeleton hs, hs, hl]
  · simp [check_of_not_launchable hv hl, hl]

/-! ### More files, other settings -/

lemma Launchable.mono {v' : FileView} (hfiles : ∀ p, v.isFile p → v'.isFile p)
    (h : s.Launchable v) : s.Launchable v' := by
  obtain ⟨home, launcher, hhome, hne, hlauncher, hfile⟩ := h
  exact ⟨home, launcher, hhome, hne, hlauncher, hfiles _ hfile⟩

lemma LacksSkeleton.anti {v' : FileView} (hfiles : ∀ p, v.isFile p → v'.isFile p)
    (h : s.LacksSkeleton v') : s.LacksSkeleton v := by
  obtain ⟨p, hp, hfile⟩ := h
  refine ⟨p, hp, ?_⟩
  by_contra hf
  rw [hfiles p (by simpa using hf)] at hfile
  cases hfile

lemma launchable_congr {t : Settings} (h : t.home = s.home) :
    t.Launchable v ↔ s.Launchable v := by
  simp only [Launchable, launcher, binDirectory, h]

lemma check_withSkeleton (h : s.namesSkeleton) (skeleton : Option Path) :
    Settings.check { s with skeleton } v = s.check v := by
  have hnames : Settings.namesSkeleton { s with skeleton } := h
  simp only [check, checkSkeleton, effectiveSkeleton_of_names h, effectiveSkeleton_of_names hnames]

/-- **A check says whether the paths in use lead to files.** The home is invalid unless there is
a home whose launcher is a file; only then it matters whether a skeleton in effect is one. More
files never spoil a valid verdict, a configured skeleton has no say where the options name one,
and an invalid home is invalid with any skeleton and options. -/
theorem check_iff (hv : v.IsTree) (s : Settings) :
    ((s.check v).value ≠ .homeInvalid ↔ s.Launchable v) ∧
      (s.Launchable v →
        ((s.check v).value = .skeletonMissing ↔ s.LacksSkeleton v) ∧
          ((s.check v).value = .valid ↔ ¬s.LacksSkeleton v)) ∧
      ((s.check v).value = .valid → ∀ v' : FileView, v'.IsTree →
        (∀ p, v.isFile p → v'.isFile p) → (s.check v').value = .valid) ∧
      (s.namesSkeleton → ∀ skeleton, Settings.check { s with skeleton } v = s.check v) ∧
      ((s.check v).value = .homeInvalid → ∀ t : Settings, t.home = s.home →
        (t.check v).value = .homeInvalid) := by
  refine ⟨check_ne_homeInvalid_iff hv, fun hl => ⟨check_eq_skeletonMissing_iff hv hl, ?_⟩,
    fun hvalid v' hv' hfiles => ?_, check_withSkeleton, fun hhome t ht => ?_⟩
  · rw [check_eq_valid_iff hv, and_iff_right hl]
  · obtain ⟨hl, hs⟩ := (check_eq_valid_iff hv).mp hvalid
    exact (check_eq_valid_iff hv').mpr ⟨hl.mono hfiles, fun h => hs (h.anti hfiles)⟩
  · refine check_of_not_launchable hv fun hl => ?_
    exact (check_ne_homeInvalid_iff hv).mpr ((launchable_congr ht).mp hl) hhome

/-- A home with a slash behind it, a lost skeleton that the options make up for, and a file
created beside the `bin` directory. -/
theorem check_iff_created :
    let tree : FileTree :=
      .directory [("h", .directory [("bin", .directory [("jflex.sh", .file (.ok []))])])]
    let before : Place := { here := tree }
    let after : Place := { here := FileTree.put (.file (.ok [])) ["h", "new"] tree }
    let s : Settings := { home := some ⟨"h/"⟩, skeleton := some ⟨"k"⟩, options := some "--skel l" }
    let t : Settings := { home := some ⟨"h/"⟩, skeleton := some ⟨"k"⟩ }
    before.view.IsTree ∧ (s.check before.view).value = .valid ∧
      (s.check after.view).value = .valid ∧ (t.check before.view).value = .skeletonMissing := by
  intro tree before after s t
  have hs : s.Launchable before.view :=
    ⟨⟨"h/"⟩, ⟨"h/bin/jflex.sh"⟩, rfl, by decide, by decide +kernel, by decide +kernel⟩
  have ht : t.Launchable before.view := (launchable_congr rfl).mp hs
  have hnone : s.effectiveSkeleton = none := by decide +kernel
  have hlacks : ¬s.LacksSkeleton before.view := by
    rintro ⟨p, hp, -⟩
    rw [hnone] at hp
    cases hp
  have hlost : t.LacksSkeleton before.view := ⟨⟨"k"⟩, by decide +kernel, by decide +kernel⟩
  have hfree : FileTree.Free ["h", "new"] tree := by
    refine ⟨rfl, fun sub hsub => ?_⟩
    cases hsub
    exact ⟨rfl, fun sub hsub => by cases hsub⟩
  have hkept : before.KeptIn after := ⟨FileTree.keptIn_put (.file (.ok [])) hfree, .nil⟩
  obtain ⟨-, hverdicts, hmore, -⟩ := check_iff before.isTree_view s
  have hvalid : (s.check before.view).value = .valid := (hverdicts hs).2.mpr hlacks
  refine ⟨before.isTree_view, hvalid, hmore hvalid _ after.isTree_view fun _ => hkept.isFile_view, ?_⟩
  exact ((check_iff before.isTree_view t).2.1 ht).1.mpr hlost

end Tree

end JFlexReport.Settings
