import JFlexReport.CommandLine.Run

/-!
The paths that a run looks at, so that its files can be gathered before it starts. Which
paths a check of settings looks at depends on the settings that it finds, hence on the files
gathered so far; two rounds reach everything, the first for the settings and the second for
what they name. Main statement: a run on the gathered files is the run on all files. It rests
on the fact that a command does the same for any two views of the files that agree on the
paths it looks at.
-/

namespace JFlexReport.CommandLine

def settingsPaths (w : Surroundings) : Option Path → List Path
  | some p => [p]
  | none => w.directory.ancestors.map fun d => d.join Settings.fileName

def namedPaths (s : Settings) : List Path :=
  s.home.toList ++ s.binDirectory.toList ++ s.launcher.toList ++ s.effectiveSkeleton.toList

/-- The paths that a command looks at, judged by the files in view. -/
def reach (w : Surroundings) : Command → List Path
  | .classify r => r.stdout.toList ++ r.stderr.toList
  | .checkConfig file =>
    settingsPaths w file ++
      match settings? w file with
      | some loaded => namedPaths (loaded.value.withOverrides w.env).value
      | none => []

/-! ### Gathering -/

/-- The files that were looked up; no others are to be seen. -/
def viewOf (seen : List (Path × Except LookupError FileTree)) : FileView := fun p =>
  (seen.lookup p).getD (.error .notFound)

section Gather

variable {m : Type → Type} [Monad m] (look : Path → m (Except LookupError FileTree))

def gather (ps : List Path) : m FileView := do
  let seen ← ps.mapM fun p => do return (p, ← look p)
  return viewOf seen

/-- The surroundings of a run, its files gathered in two rounds. -/
def surroundings (w : Surroundings) (arguments : List String) : m Surroundings := do
  match Request.ofArguments w.env arguments with
  | .ok r =>
    let settled := { w with files := ← gather look (reach w r.command) }
    return { w with files := ← gather look (reach settled r.command) }
  | .error _ => return w

end Gather

/-! ### Views that agree -/

variable {v v' : FileView} {p : Path}

theorem readBytes_congr (h : v p = v' p) : v.readBytes p = v'.readBytes p := by
  simp only [FileView.readBytes, h]

theorem isFile_congr (h : v p = v' p) : v.isFile p = v'.isFile p := by
  simp only [FileView.isFile, h]

theorem isDirectory_congr (h : v p = v' p) : v.isDirectory p = v'.isDirectory p := by
  simp only [FileView.isDirectory, h]

theorem load?_congr (h : v p = v' p) : Settings.load? v p = Settings.load? v' p := by
  simp only [Settings.load?, Settings.readText, readBytes_congr h]

theorem find?_isFile_congr {ps : List Path} (h : ∀ p ∈ ps, v p = v' p) :
    ps.find? v.isFile = ps.find? v'.isFile := by
  induction ps with
  | nil => rfl
  | cons p ps ih =>
    rw [List.find?_cons, List.find?_cons, isFile_congr (h p (by simp)),
      ih fun q hq => h q (by simp [hq])]

theorem loadNearest_congr {start : Path}
    (h : ∀ p ∈ start.ancestors.map (fun d => d.join Settings.fileName), v p = v' p) :
    Settings.loadNearest v start = Settings.loadNearest v' start := by
  have hd : Settings.discover v start = Settings.discover v' start := find?_isFile_congr h
  unfold Settings.loadNearest
  rw [← hd]
  cases hf : Settings.discover v start with
  | none => rfl
  | some p =>
    have hp : v p = v' p := h p (List.mem_of_find?_eq_some hf)
    simp only [Settings.load, load?_congr hp]

theorem settings?_congr {w : Surroundings} {file : Option Path}
    (h : ∀ p ∈ settingsPaths w file, w.files p = v p) :
    settings? { w with files := v } file = settings? w file := by
  cases file with
  | none => exact congrArg some (loadNearest_congr h).symm
  | some p =>
    have hp : w.files p = v p := h p (by simp [settingsPaths])
    simp only [settings?, load?_congr hp]

theorem check_congr {s : Settings} (h : ∀ p ∈ namedPaths s, v p = v' p) :
    s.check v = s.check v' := by
  have hs : s.checkSkeleton v = s.checkSkeleton v' := by
    unfold Settings.checkSkeleton
    cases hk : s.effectiveSkeleton with
    | none => rfl
    | some p => simp only [isFile_congr (h p (by simp [namedPaths, hk]))]
  unfold Settings.check
  cases hh : s.home with
  | none => rfl
  | some home =>
    have h₁ : v home = v' home := h home (by simp [namedPaths, hh])
    have h₂ : v (home.join Settings.binDirectoryName) =
        v' (home.join Settings.binDirectoryName) :=
      h _ (by simp [namedPaths, Settings.binDirectory, hh])
    have h₃ : v ((home.join Settings.binDirectoryName).join Settings.launcherName) =
        v' ((home.join Settings.binDirectoryName).join Settings.launcherName) :=
      h _ (by simp [namedPaths, Settings.launcher, Settings.binDirectory, hh])
    simp only [isDirectory_congr h₁, isDirectory_congr h₂, isFile_congr h₃, hs]

theorem capture?_congr {file : Option Path} (h : ∀ p ∈ file.toList, v p = v' p) :
    capture? v file = capture? v' file := by
  cases file with
  | none => rfl
  | some p => simp only [capture?, readBytes_congr (h p (by simp))]

/-- Files that look the same on the paths that a command looks at make it do the same. -/
theorem perform_congr {w : Surroundings} {c : Command}
    (h : ∀ p ∈ reach w c, w.files p = v p) :
    perform { w with files := v } c = perform w c := by
  cases c with
  | classify r =>
    have h₁ : capture? w.files r.stdout = capture? v r.stdout :=
      capture?_congr fun p hp => h p (by simp_all [reach])
    have h₂ : capture? w.files r.stderr = capture? v r.stderr :=
      capture?_congr fun p hp => h p (by simp_all [reach])
    simp only [perform, classify, h₁, h₂]
  | checkConfig file =>
    have hs : settings? { w with files := v } file = settings? w file :=
      settings?_congr fun p hp => h p (by simp [reach, hp])
    simp only [perform, checkConfig, hs]
    cases hl : settings? w file with
    | none => rfl
    | some loaded =>
      have hc : ((loaded.value.withOverrides w.env).value).check v =
          ((loaded.value.withOverrides w.env).value).check w.files :=
        (check_congr fun p hp => h p (by simp only [reach, hl, List.mem_append, hp, or_true])).symm
      simp only [bind, Log.Logged.bind, hc]

/-! ### Two rounds -/

theorem viewOf_map {ps : List Path} (h : p ∈ ps) : viewOf (ps.map fun q => (q, v q)) p = v p := by
  unfold viewOf
  induction ps with
  | nil => cases h
  | cons q ps ih =>
    rw [List.map_cons, List.lookup_cons]
    by_cases hq : p = q
    · simp [hq]
    · have hmem : p ∈ ps := (List.mem_cons.mp h).resolve_left hq
      have hne : (p == q) = false := by simpa using hq
      simpa [hne] using ih hmem

theorem gather_pure (ps : List Path) :
    (gather (fun p => (pure (v p) : Id _)) ps).run = viewOf (ps.map fun q => (q, v q)) := by
  simp [gather]

/-- What a command looks at is settled by where its settings come from. -/
theorem reach_congr {w : Surroundings} {c : Command}
    (h : ∀ file, c = .checkConfig file → ∀ p ∈ settingsPaths w file, w.files p = v p) :
    reach { w with files := v } c = reach w c := by
  cases c with
  | classify r => rfl
  | checkConfig file =>
    have hs : settings? { w with files := v } file = settings? w file :=
      settings?_congr (h file rfl)
    simp only [reach, hs]
    rfl

/-- The first round has the files of the settings, so the second looks at what a run on all
files looks at. -/
theorem reach_viewOf (v : FileView) (w : Surroundings) (c : Command) :
    reach { w with files := viewOf ((reach w c).map fun q => (q, v q)) } c =
      reach { w with files := v } c := by
  refine reach_congr (w := { w with files := v }) fun file hfile p hp => (viewOf_map ?_).symm
  rw [hfile, reach]
  exact List.mem_append_left _ hp

/-- **Two rounds reach everything.** A run on the gathered files is the run on all files, as long
as these stay as they are meanwhile. -/
theorem run_surroundings (v : FileView) (w : Surroundings) (arguments : List String) :
    run arguments (surroundings (fun p => (pure (v p) : Id _)) w arguments).run =
      run arguments { w with files := v } := by
  rcases hr : Request.ofArguments w.env arguments with stop | r
  · simp only [surroundings, run, hr, Id.run_pure]
  · have hperform := perform_congr (w := { w with files := v }) (c := r.command)
      fun p hp => (viewOf_map (v := v) hp).symm
    simp only [surroundings, run, hr, Id.run_bind, Id.run_pure, gather_pure, reach_viewOf]
    rw [hperform]

end JFlexReport.CommandLine
