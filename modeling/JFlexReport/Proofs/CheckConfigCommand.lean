import JFlexReport.CommandLine.Run
import JFlexReport.Proofs.Arguments
import JFlexReport.Proofs.SettingsFile
import JFlexReport.Proofs.SettingsLoading

/-!
The check-config command against the settings that it is about.

The settings come from one of four sources, of which the first that is there is used. A named
file has to hold settings; a file that was only found counts as empty settings when it is
unusable. Variables of the environment then replace the two paths, the verdict on the result is
the exit status, and the second line of a bad verdict names what is missing.
-/

namespace JFlexReport

open Text

namespace Settings

variable {s t : Settings}

/-! ### Overrides -/

/-- A variable with something to be seen in it replaces the path, and any other one keeps it. -/
def Replaces (env : String → Option String) (name : String) (before after : Option Path) : Prop :=
  (∀ v, env name = some v → allBlank v.toList = false → after = some ⟨v⟩) ∧
    ((∀ v, env name = some v → allBlank v.toList = true) → after = before)

/-- Settings with the paths that the environment has for them. -/
structure Overridden (env : String → Option String) (s t : Settings) : Prop where
  home : Replaces env homeVariable s.home t.home
  skeleton : Replaces env skeletonVariable s.skeleton t.skeleton
  options : t.options = s.options

lemma replaces_override? (env : String → Option String) (name : String) (before : Option Path) :
    Replaces env name before ((override? env name).or before) := by
  unfold override?
  refine ⟨fun v hv hvisible => ?_, fun hblank => ?_⟩
  · simp [hv, hvisible]
  · cases hv : env name with
    | none => rfl
    | some v => simp [hblank v hv]

lemma overridden_withOverrides (env : String → Option String) (s : Settings) :
    Overridden env s (s.withOverrides env).value := by
  have hhome := replaces_override? env homeVariable s.home
  have hskeleton := replaces_override? env skeletonVariable s.skeleton
  unfold withOverrides
  cases hh : override? env homeVariable <;> cases hs : override? env skeletonVariable <;>
    rw [hh] at hhome <;> rw [hs] at hskeleton <;> exact ⟨hhome, hskeleton, rfl⟩

lemma Replaces.unique {env : String → Option String} {name : String} {p q q' : Option Path}
    (h : Replaces env name p q) (h' : Replaces env name p q') : q = q' := by
  by_cases hvisible : ∃ v, env name = some v ∧ allBlank v.toList = false
  · obtain ⟨v, hv, hvisible⟩ := hvisible
    rw [h.1 v hv hvisible, h'.1 v hv hvisible]
  · have hblank : ∀ v, env name = some v → allBlank v.toList = true := fun v hv => by
      simpa using fun hb => hvisible ⟨v, hv, hb⟩
    rw [h.2 hblank, h'.2 hblank]

lemma Overridden.unique {env : String → Option String} {t' : Settings}
    (h : Overridden env s t) (h' : Overridden env s t') : t = t' := by
  obtain ⟨home, skeleton, options⟩ := t
  obtain ⟨home', skeleton', options'⟩ := t'
  obtain rfl : home = home' := h.home.unique h'.home
  obtain rfl : skeleton = skeleton' := h.skeleton.unique h'.skeleton
  obtain rfl : options = options' := h.options.trans h'.options.symm
  rfl

/-! ### Verdicts -/

lemma check_cases (s : Settings) (v : FileView) :
    ((s.check v).value = .valid ∧ ∃ home, s.home = some home) ∨
      ((s.check v).value = .homeInvalid) ∨
      ((s.check v).value = .skeletonMissing ∧ (∃ home, s.home = some home) ∧
        ∃ skeleton, s.effectiveSkeleton = some skeleton) := by
  unfold check
  split
  · simp
  · next home hhome =>
    simp only
    split_ifs
    · simp
    · simp
    · simp
    · unfold checkSkeleton
      split
      · next p hp =>
        split <;> simp [hhome, hp]
      · simp [hhome]

end Settings

namespace CommandLine

open Report (unlines)

/-! ### Where settings come from -/

/-- The file that has to be used: that of the option, or else that of the variable. -/
inductive Named (w : Surroundings) (arguments : List String) : Path → Prop
  | option {v : String} (h : Gives arguments "config" v) : Named w arguments ⟨v⟩
  | environment {v : String} (hoption : ∀ v, ¬ Gives arguments "config" v)
    (h : w.env configVariable = some v) : Named w arguments ⟨v⟩

/-- What a check of settings is about: the settings of the named file, where there is one, or
else of the nearest one. There are none when a named file is unusable; otherwise unusable and
missing files leave everything open. -/
inductive Configured (w : Surroundings) (arguments : List String) : Option Settings → Prop
  | named {p : Path} {s : Settings} (hp : Named w arguments p)
    (h : Settings.Holds w.files p s) : Configured w arguments (some s)
  | refused {p : Path} (hp : Named w arguments p) (h : Settings.Unusable w.files p) :
    Configured w arguments none
  | found {p : Path} {s : Settings} (hnone : ∀ p, ¬ Named w arguments p)
    (hp : Settings.Nearest w.files w.directory p) (h : Settings.Holds w.files p s) :
    Configured w arguments (some s)
  | ignored {p : Path} (hnone : ∀ p, ¬ Named w arguments p)
    (hp : Settings.Nearest w.files w.directory p) (h : Settings.Unusable w.files p) :
    Configured w arguments (some {})
  | absent (hnone : ∀ p, ¬ Named w arguments p)
    (hp : ∀ p, ¬ Settings.Nearest w.files w.directory p) : Configured w arguments (some {})

section Source

variable {w : Surroundings} {arguments : List String} {n : ℕ} {file : Option Path} {p : Path}

lemma exists_configured (w : Surroundings) (arguments : List String) :
    ∃ loaded, Configured w arguments loaded := by
  by_cases hnamed : ∃ p, Named w arguments p
  · obtain ⟨p, hp⟩ := hnamed
    rcases Settings.holds_or_unusable w.files p with ⟨s, h⟩ | h
    · exact ⟨_, .named hp h⟩
    · exact ⟨_, .refused hp h⟩
  · have hnone : ∀ p, ¬ Named w arguments p := fun p hp => hnamed ⟨p, hp⟩
    by_cases hnearest : ∃ p, Settings.Nearest w.files w.directory p
    · obtain ⟨p, hp⟩ := hnearest
      rcases Settings.holds_or_unusable w.files p with ⟨s, h⟩ | h
      · exact ⟨_, .found hnone hp h⟩
      · exact ⟨_, .ignored hnone hp h⟩
    · exact ⟨_, .absent hnone fun p hp => hnearest ⟨p, hp⟩⟩

lemma file_of_named
    (h : Request.ofArguments w.env arguments = .ok { verbosity := n, command := .checkConfig file })
    (hp : Named w arguments p) : file = some p := by
  obtain ⟨hgiven, hnone⟩ := file_of_checkConfig h
  cases hp with
  | option hv => exact hgiven _ hv
  | environment hoption hv => rw [hnone hoption, hv, Option.map_some]

lemma file_of_not_named
    (h : Request.ofArguments w.env arguments = .ok { verbosity := n, command := .checkConfig file })
    (hp : ∀ p, ¬ Named w arguments p) : file = none := by
  have hoption : ∀ v, ¬ Gives arguments "config" v := fun v hv => hp _ (.option hv)
  rw [(file_of_checkConfig h).2 hoption, Option.map_eq_none_iff]
  exact Option.eq_none_iff_forall_ne_some.mpr fun v hv => hp _ (.environment hoption hv)

lemma value_loadNearest (hp : Settings.Nearest w.files w.directory p) :
    (Settings.loadNearest w.files w.directory).value = (Settings.load w.files p).value := by
  rw [Settings.loadNearest, Settings.discover_eq_some_iff.mpr hp]
  rfl

lemma settings?_of_configured {loaded : Option Settings}
    (h : Request.ofArguments w.env arguments = .ok { verbosity := n, command := .checkConfig file })
    (hc : Configured w arguments loaded) : (settings? w file).map (·.value) = loaded := by
  cases hc with
  | named hp hholds =>
    rw [file_of_named h hp, settings?, Settings.load?_eq_ok_iff.mpr hholds]
    rfl
  | refused hp hunusable =>
    obtain ⟨e, he⟩ := Settings.exists_load?_eq_error_iff.mpr hunusable
    rw [file_of_named h hp, settings?, he]
    rfl
  | found hnone hp hholds =>
    rw [file_of_not_named h hnone, settings?, Option.map_some, value_loadNearest hp, Settings.load,
      Settings.load?_eq_ok_iff.mpr hholds]
  | ignored hnone hp hunusable =>
    obtain ⟨e, he⟩ := Settings.exists_load?_eq_error_iff.mpr hunusable
    rw [file_of_not_named h hnone, settings?, Option.map_some, value_loadNearest hp, Settings.load,
      he]
  | absent hnone hp =>
    have hdiscover : Settings.discover w.files w.directory = none :=
      Option.eq_none_iff_forall_ne_some.mpr fun p h => hp p (Settings.discover_eq_some_iff.mp h)
    rw [file_of_not_named h hnone, settings?, Settings.loadNearest, hdiscover]
    rfl

end Source

/-! ### What is said about a verdict -/

section Answer

variable (p : Palette)

def skeletonLine (skeleton : Path) : String := "   skeleton: " ++ paint p .code skeleton.text

def launcherLine (launcher : Path) : String :=
  "   expected launcher: " ++ paint p .code launcher.text

def homeLine : String := "   set `home` in jfx.toml or the JFLEX_HOME environment variable"

/-- What an answer says about settings and the verdict on them. -/
structure Reports (s : Settings) (verdict : Settings.Verdict) (a : Answer) : Prop where
  status : a.status = 0 ↔ verdict = .valid
  failed : verdict ≠ .valid → a.status = 1
  success : verdict = .valid →
    a.output = unlines [paint p .success Symbol.success ++ " " ++ verdict.message]
  failure : verdict ≠ .valid → ∃ line,
    a.output = unlines [paint p .warning Symbol.warning ++ " " ++ verdict.message, line] ∧
      ((∃ skeleton, s.effectiveSkeleton = some skeleton ∧ line = skeletonLine p skeleton) ↔
        verdict = .skeletonMissing) ∧
      ((∃ launcher, s.launcher = some launcher ∧ line = launcherLine p launcher) ↔
        verdict = .homeInvalid ∧ ∃ home, s.home = some home) ∧
      (line = homeLine ↔ s.home = none)

variable {p}

lemma Reports.congr {s : Settings} {verdict : Settings.Verdict} {a b : Answer}
    (h : Reports p s verdict a) (hstatus : b.status = a.status) (houtput : b.output = a.output) :
    Reports p s verdict b :=
  ⟨hstatus ▸ h.status, hstatus ▸ h.failed, houtput ▸ h.success, houtput ▸ h.failure⟩

lemma Reports.output_skeleton {s : Settings} {a : Answer} {skeleton : Path}
    (h : Reports p s .skeletonMissing a) (hs : s.effectiveSkeleton = some skeleton) :
    a.output = unlines [paint p .warning Symbol.warning ++ " " ++
      Settings.Verdict.skeletonMissing.message, skeletonLine p skeleton] := by
  obtain ⟨line, houtput, hline, -, -⟩ := h.failure (by decide)
  obtain ⟨skeleton', hs', rfl⟩ := hline.mpr rfl
  rwa [Option.some.inj (hs.symm.trans hs')]

lemma Reports.output_home {s : Settings} {verdict : Settings.Verdict} {a : Answer}
    (h : Reports p s verdict a) (hverdict : verdict ≠ .valid) (hs : s.home = none) :
    a.output = unlines [paint p .warning Symbol.warning ++ " " ++ verdict.message, homeLine] := by
  obtain ⟨line, houtput, -, -, hline⟩ := h.failure hverdict
  rwa [hline.mpr hs] at houtput

-- The fifth character tells the three lines apart.

lemma fifth_append {l s : String} {c : Char} (h : l.toList[4]? = some c) :
    (l ++ s).toList[4]? = some c := by
  rw [String.toList_append]
  exact List.getElem?_append_left (List.getElem?_eq_some_iff.mp h).1 ▸ h

lemma ne_of_fifth {l l' : String} {c c' : Char} (h : l.toList[4]? = some c)
    (h' : l'.toList[4]? = some c') (hne : c ≠ c') : l ≠ l' := by
  rintro rfl
  exact hne (Option.some.inj (h.symm.trans h'))

lemma skeletonLine_fifth (skeleton : Path) : (skeletonLine p skeleton).toList[4]? = some 'k' :=
  fifth_append (by decide +kernel)

lemma launcherLine_fifth (launcher : Path) : (launcherLine p launcher).toList[4]? = some 'x' :=
  fifth_append (by decide +kernel)

lemma homeLine_fifth : homeLine.toList[4]? = some 'e' := by
  decide +kernel

lemma skeletonLine_ne_launcherLine (skeleton launcher : Path) :
    skeletonLine p skeleton ≠ launcherLine p launcher :=
  ne_of_fifth (skeletonLine_fifth skeleton) (launcherLine_fifth launcher) (by decide)

lemma skeletonLine_ne_homeLine (skeleton : Path) : skeletonLine p skeleton ≠ homeLine :=
  ne_of_fifth (skeletonLine_fifth skeleton) homeLine_fifth (by decide)

lemma launcherLine_ne_homeLine (launcher : Path) : launcherLine p launcher ≠ homeLine :=
  ne_of_fifth (launcherLine_fifth launcher) homeLine_fifth (by decide)

variable {s : Settings} {verdict : Settings.Verdict}

lemma verdictAnswer_bad (h : verdict ≠ .valid) :
    verdictAnswer p s verdict =
      { status := 1
        output := unlines [paint p .warning Symbol.warning ++ " " ++ verdict.message,
          advice p s verdict] } := by
  cases verdict with
  | valid => exact absurd rfl h
  | homeInvalid | skeletonMissing =>
    simp [verdictAnswer, unlines, statusFailed, String.append_assoc]

lemma advice_skeletonMissing {skeleton : Path} (h : s.effectiveSkeleton = some skeleton) :
    advice p s .skeletonMissing = skeletonLine p skeleton := by
  unfold advice
  rw [h]
  rfl

lemma exists_launcher {home : Path} (h : s.home = some home) :
    ∃ launcher, s.launcher = some launcher := by
  simp [Settings.launcher, Settings.binDirectory, h]

lemma advice_homeInvalid {launcher : Path} (h : s.launcher = some launcher) :
    advice p s .homeInvalid = launcherLine p launcher := by
  unfold advice
  rw [h]
  rfl

lemma launcher_eq_none (h : s.home = none) : s.launcher = none := by
  rw [Settings.launcher, Settings.binDirectory, h, Option.map_none, Option.map_none]

lemma advice_none (h : s.home = none) : advice p s .homeInvalid = homeLine := by
  unfold advice
  rw [launcher_eq_none h]
  rfl

lemma reports_check (s : Settings) (v : FileView) :
    Reports p s (s.check v).value (verdictAnswer p s (s.check v).value) := by
  rcases s.check_cases v with ⟨hverdict, -⟩ | hverdict | ⟨hverdict, ⟨home, hhome⟩, skeleton, hs⟩
  · rw [hverdict]
    exact ⟨by simp [verdictAnswer], by simp, fun _ => by simp [verdictAnswer, unlines], by simp⟩
  · rw [hverdict, verdictAnswer_bad (by simp)]
    refine ⟨by simp, fun _ => rfl, by simp, fun _ => ⟨_, rfl, ?_⟩⟩
    rcases hhome : s.home with _ | home
    · rw [advice_none hhome]
      simp [launcher_eq_none hhome, (skeletonLine_ne_homeLine _).symm]
    · obtain ⟨launcher, hlauncher⟩ := exists_launcher hhome
      rw [advice_homeInvalid hlauncher]
      simp [hlauncher, (skeletonLine_ne_launcherLine _ _).symm, launcherLine_ne_homeLine]
  · rw [hverdict, verdictAnswer_bad (by simp), advice_skeletonMissing hs]
    refine ⟨by simp, fun _ => rfl, by simp, fun _ => ⟨_, rfl, ?_⟩⟩
    simp [hs, hhome, skeletonLine_ne_launcherLine, skeletonLine_ne_homeLine]

end Answer

/-! ### The command -/

lemma value_checkConfig {w : Surroundings} {file : Option Path} {s : Settings}
    (h : (settings? w file).map (·.value) = some s) :
    (checkConfig w file).value =
      let t := (s.withOverrides w.env).value
      verdictAnswer (palette w.env) t (t.check w.files).value := by
  obtain ⟨loaded, hloaded, rfl⟩ := Option.map_eq_some_iff.mp h
  rw [checkConfig, hloaded]
  rfl

lemma checkConfig_of_none {w : Surroundings} {file : Option Path}
    (h : (settings? w file).map (·.value) = none) :
    (checkConfig w file).value = { status := 1 } := by
  rw [checkConfig, Option.map_eq_none_iff.mp h]
  rfl

/-- **The check-config command reports on what is configured.** Where a named file is unusable
it says nothing and fails; in every other case its answer is that of the verdict on the settings
with the paths that the environment has for them. -/
theorem run_checkConfig {arguments : List String} {w : Surroundings} {n : ℕ} {file : Option Path}
    (h : Request.ofArguments w.env arguments =
      .ok { verbosity := n, command := .checkConfig file }) :
    (∃ loaded, Configured w arguments loaded) ∧
      (Configured w arguments none →
        (run arguments w).status = 1 ∧ (run arguments w).output = "") ∧
      ∀ s, Configured w arguments (some s) → ∃ t, Settings.Overridden w.env s t ∧
        Reports (palette w.env) t (t.check w.files).value (run arguments w) := by
  have hrun : (run arguments w).status = (checkConfig w file).value.status ∧
      (run arguments w).output = (checkConfig w file).value.output := by
    rw [run, h]
    exact ⟨rfl, rfl⟩
  refine ⟨exists_configured w arguments, fun hc => ?_, fun s hc => ?_⟩
  · rw [hrun.1, hrun.2, checkConfig_of_none (settings?_of_configured h hc)]
    exact ⟨rfl, rfl⟩
  · refine ⟨_, Settings.overridden_withOverrides w.env s, ?_⟩
    rw [value_checkConfig (settings?_of_configured h hc)] at hrun
    exact (reports_check _ _).congr hrun.1 hrun.2

/-- A skeleton of the environment that is not there, with settings from three sources: a file
above the current directory that must not be opened, the file of the variable, whose home the
environment replaces, and a file of the option that is no text. -/
theorem run_checkConfig_sources :
    let files : FileView := fun p =>
      if p.text = "/a/jfx.toml" ∨ p.text = "h/bin/jflex.sh" then .ok (.file (.error .denied))
      else if p.text = "good" then .ok (.file (.ok (Utf8.encode "home = 'g'".toList)))
      else if p.text = "bad" then .ok (.file (.ok [0xFF]))
      else if p.text = "h" ∨ p.text = "h/bin" then .ok .empty
      else .error .notFound
    let w (config home : Option String) : Surroundings :=
      { files
        directory := ⟨"/a/b"⟩
        env := fun name =>
          if name = "JFX_CONFIG" then config
          else if name = "JFLEX_HOME" then home
          else if name = "JFLEX_SKELETON" then some " k" else none }
    let bare := ["check-config"]
    let naming := ["check-config", "--config", "bad"]
    (Configured (w none none) bare (some {}) ∧ (run bare (w none none)).status = 1 ∧
      (run bare (w none none)).output = "⚠️ JFlex home path is invalid\n" ++
        "   set `home` in jfx.toml or the JFLEX_HOME environment variable\n") ∧
    (Configured (w "good" "h") bare (some { home := some ⟨"g"⟩ }) ∧
      (run bare (w "good" "h")).status = 1 ∧
      (run bare (w "good" "h")).output =
        "⚠️ JFlex skeleton file was not found\n   skeleton:  k\n") ∧
    Configured (w "good" "h") naming none ∧ (run naming (w "good" "h")).status = 1 ∧
      (run naming (w "good" "h")).output = "" := by
  intro files w bare naming
  have hword : Argument.ofText "check-config" = .word "check-config" := by decide +kernel
  have hbare : ∀ v, ¬ Gives bare "config" v := fun v hv => by
    rw [gives_cons_iff (by decide), hword] at hv
    simp [not_gives_nil] at hv
  have hgives : Gives naming "config" "bad" := .inr ⟨["check-config"], [], rfl⟩
  have hnone : ∀ p, ¬ Named (w none none) bare p := fun p hp => by
    cases hp with
    | option hv => exact hbare _ hv
    | environment _ h => cases h
  have hnearest : Settings.Nearest files ⟨"/a/b"⟩ ⟨"/a/jfx.toml"⟩ :=
    Settings.discover_eq_some_iff.mp (by decide +kernel)
  have hdenied : Settings.Unusable files ⟨"/a/jfx.toml"⟩ :=
    .unreadable fun bytes h => by rcases h with h | h <;> cases h
  have hgood : Settings.Holds files ⟨"good"⟩ { home := some ⟨"g"⟩ } :=
    ⟨"home = 'g'".toList, .inl rfl, by decide +kernel⟩
  have hbad : Settings.Unusable files ⟨"bad"⟩ :=
    .noText (.inl rfl) fun text h => by cases Utf8.decode?_eq_some_iff.mpr h
  refine ⟨?_, ?_, ?_⟩
  · have hconfigured : Configured (w none none) bare (some {}) := .ignored hnone hnearest hdenied
    have haccepted : Request.ofArguments (w none none).env bare =
        .ok { verbosity := 0, command := .checkConfig none } := by decide +kernel
    obtain ⟨t, hoverridden, hreports⟩ := (run_checkConfig haccepted).2.2 {} hconfigured
    obtain rfl : ({ skeleton := some ⟨" k"⟩ } : Settings) = t :=
      (Settings.overridden_withOverrides _ _).unique hoverridden
    have hverdict : (Settings.check { skeleton := some ⟨" k"⟩ } files).value = .homeInvalid := by
      decide +kernel
    rw [hverdict] at hreports
    refine ⟨hconfigured, hreports.failed (by decide), ?_⟩
    rw [hreports.output_home (by decide) rfl]
    decide +kernel
  · have hconfigured : Configured (w "good" "h") bare (some { home := some ⟨"g"⟩ }) :=
      .named (.environment hbare rfl) hgood
    have haccepted : Request.ofArguments (w "good" "h").env bare =
        .ok { verbosity := 0, command := .checkConfig (some ⟨"good"⟩) } := by decide +kernel
    obtain ⟨t, hoverridden, hreports⟩ := (run_checkConfig haccepted).2.2 _ hconfigured
    obtain rfl : ({ home := some ⟨"h"⟩, skeleton := some ⟨" k"⟩ } : Settings) = t :=
      (Settings.overridden_withOverrides _ _).unique hoverridden
    have hverdict : (Settings.check { home := some ⟨"h"⟩, skeleton := some ⟨" k"⟩ } files).value =
        .skeletonMissing := by decide +kernel
    have hskeleton : Settings.effectiveSkeleton { home := some ⟨"h"⟩, skeleton := some ⟨" k"⟩ } =
        some ⟨" k"⟩ := by decide +kernel
    rw [hverdict] at hreports
    refine ⟨hconfigured, hreports.failed (by decide), ?_⟩
    rw [hreports.output_skeleton hskeleton]
    decide +kernel
  · have hconfigured : Configured (w "good" "h") naming none := .refused (.option hgives) hbad
    have haccepted : Request.ofArguments (w "good" "h").env naming =
        .ok { verbosity := 0, command := .checkConfig (some ⟨"bad"⟩) } := by decide +kernel
    exact ⟨hconfigured, (run_checkConfig haccepted).2.1 hconfigured⟩

end CommandLine

end JFlexReport
