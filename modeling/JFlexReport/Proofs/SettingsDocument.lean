import Mathlib.Data.List.Induction
import JFlexReport.Proofs.DocumentText
import JFlexReport.Settings.Reading

/-!
Which documents hold settings.

An entry fits if it puts a string under one of the three names. Entries are taken in one after
the other, and each of them says one thing only, so as long as all fit, the settings are what the
entries say, in whatever order. The first entry that does not fit decides the problem, whatever
comes behind it.
-/

namespace JFlexReport.Settings

open Toml (Entries Node)

variable {s s' : Settings} {es es' : Entries} {e : String × Node} {problem : Problem}

def fieldNames : List String := ["home", "skeleton", "options"]

/-- The entry puts a string under one of the names. -/
def Fits (e : String × Node) : Prop := e.1 ∈ fieldNames ∧ ∃ t, e.2 = .string t

/-- The entry does not fit: its key is none of the names, whatever it stands for, or it stands
for no string. -/
inductive Offends : String × Node → Problem → Prop
  | unknownField {k : String} {v : Node} (h : k ∉ fieldNames) : Offends (k, v) (.unknownField k)
  | noPath {k : String} {v : Node} (h : k = "home" ∨ k = "skeleton") (hv : ∀ t, v ≠ .string t) :
    Offends (k, v) (.invalidType (kindOf v) "path string")
  | noString {v : Node} (hv : ∀ t, v ≠ .string t) :
    Offends ("options", v) (.invalidType (kindOf v) "a string")

/-- The settings are what the entries say: each string under its name, and nothing where there is
no entry. -/
structure Shows (es : Entries) (s : Settings) : Prop where
  home : es.lookup "home" = s.home.map fun p => .string p.text
  skeleton : es.lookup "skeleton" = s.skeleton.map fun p => .string p.text
  options : es.lookup "options" = s.options.map .string

lemma Shows.unique (h : Shows es s) (h' : Shows es s') : s = s' := by
  have hpath : Function.Injective fun p : Path => Node.string p.text := by
    rintro ⟨a⟩ ⟨b⟩ hab
    cases hab
    rfl
  have htext : Function.Injective Node.string := fun a b hab => Node.string.inj hab
  obtain ⟨home, skeleton, options⟩ := s
  obtain ⟨home', skeleton', options'⟩ := s'
  rw [Settings.mk.injEq]
  exact ⟨Option.map_injective hpath (h.home.symm.trans h'.home),
    Option.map_injective hpath (h.skeleton.symm.trans h'.skeleton),
    Option.map_injective htext (h.options.symm.trans h'.options)⟩

lemma Shows.perm (hnodup : es.keys.Nodup) (hperm : es'.Perm es) (h : Shows es s) :
    Shows es' s := by
  have hlookup : ∀ k, es'.lookup k = es.lookup k := by
    intro k
    have hnodup' : es'.keys.Nodup := (hperm.map Prod.fst).nodup_iff.mpr hnodup
    refine Option.ext fun v => ?_
    rw [Entries.lookup_eq_some_iff hnodup', Entries.lookup_eq_some_iff hnodup, hperm.mem_iff]
  exact ⟨(hlookup _).trans h.home, (hlookup _).trans h.skeleton, (hlookup _).trans h.options⟩

/-! ### One entry -/

lemma fits_or_offends (e : String × Node) : Fits e ∨ ∃ problem, Offends e problem := by
  obtain ⟨k, v⟩ := e
  by_cases hk : k ∈ fieldNames
  · by_cases hv : ∃ t, v = .string t
    · exact .inl ⟨hk, hv⟩
    · have hv : ∀ t, v ≠ .string t := fun t ht => hv ⟨t, ht⟩
      have hnames : k = "home" ∨ k = "skeleton" ∨ k = "options" := by simpa [fieldNames] using hk
      rcases hnames with rfl | rfl | rfl
      · exact .inr ⟨_, .noPath (.inl rfl) hv⟩
      · exact .inr ⟨_, .noPath (.inr rfl) hv⟩
      · exact .inr ⟨_, .noString hv⟩
  · exact .inr ⟨_, .unknownField hk⟩

lemma stringOr_of_ne {v : Node} (hv : ∀ t, v ≠ .string t) (expected : String) :
    stringOr expected v = .error (.invalidType (kindOf v) expected) := by
  cases v with
  | string t => exact absurd rfl (hv t)
  | _ => rfl

lemma takeEntry_of_offends (h : Offends e problem) (s : Settings) :
    takeEntry s e = .error problem := by
  cases h with
  | @unknownField k v h =>
    obtain ⟨hhome, hskeleton, hoptions⟩ : k ≠ "home" ∧ k ≠ "skeleton" ∧ k ≠ "options" := by
      simpa [fieldNames] using h
    rw [takeEntry, if_neg hhome, if_neg hskeleton, if_neg hoptions]
  | noPath h hv =>
    rcases h with rfl | rfl
    · rw [takeEntry, if_pos rfl, pathOr, stringOr_of_ne hv]
      rfl
    · rw [takeEntry, if_neg (by decide), if_pos rfl, pathOr, stringOr_of_ne hv]
      rfl
  | noString hv =>
    rw [takeEntry, if_neg (by decide), if_neg (by decide), if_pos rfl, stringOr_of_ne hv]
    rfl

/-- **An entry that fits is taken in** and says what no entry before it has said. -/
lemma Shows.take (h : Shows es s) (hk : es.lookup e.1 = none) (hfits : Fits e) :
    ∃ s', takeEntry s e = .ok s' ∧ Shows (es ++ [e]) s' := by
  obtain ⟨k, v⟩ := e
  obtain ⟨hname, t, rfl⟩ := hfits
  have hnames : k = "home" ∨ k = "skeleton" ∨ k = "options" := by simpa [fieldNames] using hname
  have hsame : ∀ k', k' ≠ k → (es ++ [(k, Node.string t)]).lookup k' = es.lookup k' := by
    intro k' hne
    have hlookup := es.lookup_append (k := k) (v := Node.string t) k'
    rw [if_neg hne, Option.or_none] at hlookup
    exact hlookup
  have hnew : (es ++ [(k, Node.string t)]).lookup k = some (.string t) := by
    have hlookup := es.lookup_append (k := k) (v := Node.string t) k
    rw [if_pos rfl, hk, Option.none_or] at hlookup
    exact hlookup
  rcases hnames with rfl | rfl | rfl
  · refine ⟨{ s with home := some ⟨t⟩ }, rfl, hnew, ?_, ?_⟩
    · exact (hsame _ (by decide)).trans h.skeleton
    · exact (hsame _ (by decide)).trans h.options
  · refine ⟨{ s with skeleton := some ⟨t⟩ }, rfl, ?_, hnew, ?_⟩
    · exact (hsame _ (by decide)).trans h.home
    · exact (hsame _ (by decide)).trans h.options
  · refine ⟨{ s with options := some t }, rfl, ?_, ?_, hnew⟩
    · exact (hsame _ (by decide)).trans h.home
    · exact (hsame _ (by decide)).trans h.skeleton

/-! ### All entries -/

lemma ofEntries_append (es es' : Entries) :
    ofEntries (es ++ es') = (ofEntries es).bind fun s => es'.foldlM takeEntry s :=
  List.foldlM_append

/-- **Entries that all fit are settings**, which say the same. -/
lemma ofEntries_of_fits (hnodup : es.keys.Nodup) (hfits : ∀ e ∈ es, Fits e) :
    ∃ s, ofEntries es = .ok s ∧ Shows es s := by
  induction es using List.reverseRecOn with
  | nil => exact ⟨{}, rfl, rfl, rfl, rfl⟩
  | append_singleton es e ih =>
    obtain ⟨s, hs, hshows⟩ :=
      ih (Entries.nodup_front hnodup) fun x hx => hfits x (List.mem_append_left _ hx)
    have hk : es.lookup e.1 = none := by
      rw [Entries.keys, List.map_append, List.nodup_append] at hnodup
      rw [Entries.lookup_eq_none_iff]
      exact fun hmem => hnodup.2.2 _ hmem _ List.mem_cons_self rfl
    obtain ⟨s', hs', hshows'⟩ := hshows.take hk (hfits e (by simp))
    refine ⟨s', ?_, hshows'⟩
    rw [ofEntries_append, hs, Except.bind, List.foldlM_cons, hs']
    rfl

/-- **The first entry that does not fit decides.** -/
lemma ofEntries_of_offends {front rest : Entries} (hnodup : front.keys.Nodup)
    (hfits : ∀ x ∈ front, Fits x) (h : Offends e problem) :
    ofEntries (front ++ e :: rest) = .error problem := by
  obtain ⟨s, hs, -⟩ := ofEntries_of_fits hnodup hfits
  rw [ofEntries_append, hs, Except.bind, List.foldlM_cons, takeEntry_of_offends h]
  rfl

lemma all_fit_or_first (es : Entries) : (∀ e ∈ es, Fits e) ∨ ∃ front e rest problem,
    es = front ++ e :: rest ∧ (∀ x ∈ front, Fits x) ∧ Offends e problem := by
  induction es with
  | nil => exact .inl fun e he => absurd he List.not_mem_nil
  | cons e es ih =>
    rcases fits_or_offends e with he | ⟨problem, he⟩
    · rcases ih with hes | ⟨front, x, rest, problem, rfl, hfront, hx⟩
      · exact .inl (List.forall_mem_cons.mpr ⟨he, hes⟩)
      · exact .inr ⟨e :: front, x, rest, problem, rfl, List.forall_mem_cons.mpr ⟨he, hfront⟩, hx⟩
    · exact .inr ⟨[], e, es, problem, rfl, fun x hx => absurd hx List.not_mem_nil, he⟩

lemma ofEntries_eq_ok_iff (hnodup : es.keys.Nodup) :
    ofEntries es = .ok s ↔ (∀ e ∈ es, Fits e) ∧ Shows es s := by
  constructor
  · intro h
    rcases all_fit_or_first es with hfits | ⟨front, e, rest, problem, rfl, hfront, he⟩
    · obtain ⟨s', hs', hshows⟩ := ofEntries_of_fits hnodup hfits
      rw [hs'] at h
      cases h
      exact ⟨hfits, hshows⟩
    · rw [ofEntries_of_offends (Entries.nodup_front hnodup) hfront he] at h
      cases h
  · rintro ⟨hfits, hshows⟩
    obtain ⟨s', hs', hshows'⟩ := ofEntries_of_fits hnodup hfits
    rw [hs', hshows'.unique hshows]

lemma ofEntries_eq_error_iff (hnodup : es.keys.Nodup) :
    ofEntries es = .error problem ↔ ∃ front e rest,
      es = front ++ e :: rest ∧ (∀ x ∈ front, Fits x) ∧ Offends e problem := by
  constructor
  · intro h
    rcases all_fit_or_first es with hfits | ⟨front, e, rest, problem', rfl, hfront, he⟩
    · obtain ⟨s, hs, -⟩ := ofEntries_of_fits hnodup hfits
      rw [hs] at h
      cases h
    · rw [ofEntries_of_offends (Entries.nodup_front hnodup) hfront he] at h
      cases h
      exact ⟨front, e, rest, rfl, hfront, he⟩
  · rintro ⟨front, e, rest, rfl, hfront, he⟩
    exact ofEntries_of_offends (Entries.nodup_front hnodup) hfront he

/-! ### Documents -/

variable {doc : List Char}

lemma ofDocument_of_entries (h : Entries.ofDocument doc = some es) :
    ofDocument doc = ofEntries es := by
  rw [ofDocument, h]

def fields (s : Settings) : List (String × String) :=
  (s.home.map fun p => ("home", p.text)).toList ++
    (s.skeleton.map fun p => ("skeleton", p.text)).toList ++
    (s.options.map fun t => ("options", t)).toList

lemma names_field {α : Type} (o : Option α) (k : String) (text : α → String) :
    ((o.map fun x => (k, text x)).toList.map Prod.fst).Sublist [k] := by
  cases o with
  | none => exact List.nil_sublist _
  | some x => exact List.Sublist.refl _

lemma names_fields (s : Settings) : (s.fields.map Prod.fst).Sublist fieldNames := by
  rw [fields, List.map_append, List.map_append]
  exact ((names_field _ _ _).append (names_field _ _ _)).append (names_field _ _ _)

lemma isBare_fieldNames : ∀ k ∈ fieldNames, Toml.IsBare k := by
  intro k hk
  have hbare : ∀ k ∈ fieldNames, k.toList ≠ [] ∧ k.toList.all Toml.Key.isBareChar := by decide
  obtain ⟨hne, hall⟩ := hbare k hk
  exact ⟨hne, List.all_eq_true.mp hall⟩

lemma shows_fields (s : Settings) : Shows (Toml.stringEntries s.fields) s := by
  obtain ⟨home, skeleton, options⟩ := s
  cases home <;> cases skeleton <;> cases options <;> exact ⟨rfl, rfl, rfl⟩

/-- **Settings that are written in a document are read from it.** -/
lemma ofDocument_of_written {fs : List (String × String)} (hfs : fs.Perm s.fields)
    (h : Toml.Written fs doc) : ofDocument doc = .ok s := by
  have hnames : ∀ f ∈ fs, f.1 ∈ fieldNames := fun f hf =>
    s.names_fields.subset (List.mem_map_of_mem (hfs.mem_iff.mp hf))
  have hnodup : (Toml.stringEntries s.fields).keys.Nodup := by
    rw [Toml.keys_stringEntries]
    exact s.names_fields.nodup (by decide)
  have hnew : (fs.map Prod.fst).Nodup := by
    rw [Toml.keys_stringEntries] at hnodup
    exact (hfs.map Prod.fst).nodup_iff.mpr hnodup
  have hentries : Entries.ofDocument doc = some (Toml.stringEntries fs) :=
    Toml.ofDocument_of_written h (fun f hf => isBare_fieldNames _ (hnames f hf)) hnew
  have hfits : ∀ e ∈ Toml.stringEntries fs, Fits e := by
    intro e he
    obtain ⟨f, hf, rfl⟩ := List.mem_map.mp he
    exact ⟨hnames f hf, f.2, rfl⟩
  rw [ofDocument_of_entries hentries, ofEntries_eq_ok_iff (Entries.nodup_ofDocument hentries)]
  exact ⟨hfits, s.shows_fields.perm hnodup (hfs.map _)⟩

/-- **Which documents hold settings.** Those in which every entry fits, and then the settings are
what the entries say, in whatever order these stand. Otherwise the problem is that of the first
entry that does not fit. So settings that are written down, in any order and however their
strings are spelled, are read as they were. -/
theorem ofDocument_iff :
    (∀ (doc : List Char) (es : Entries), Entries.ofDocument doc = some es →
      es.keys.Nodup ∧
        ((∃ s, ofDocument doc = .ok s) ↔ ∀ e ∈ es, Fits e) ∧
        (∀ s, ofDocument doc = .ok s ↔ (∀ e ∈ es, Fits e) ∧ Shows es s) ∧
        (∀ doc' es', Entries.ofDocument doc' = some es' → es'.Perm es →
          ∀ s, ofDocument doc = .ok s → ofDocument doc' = .ok s) ∧
        ∀ problem, ofDocument doc = .error problem ↔ ∃ front e rest,
          es = front ++ e :: rest ∧ (∀ x ∈ front, Fits x) ∧ Offends e problem) ∧
      ∀ (s : Settings) (fs : List (String × String)), fs.Perm s.fields →
        (∃ doc, Toml.Written fs doc) ∧ ∀ doc, Toml.Written fs doc → ofDocument doc = .ok s := by
  refine ⟨fun doc es hdoc => ?_, fun s fs hfs => ?_⟩
  · have hnodup := Entries.nodup_ofDocument hdoc
    have hok : ∀ s, ofDocument doc = .ok s ↔ (∀ e ∈ es, Fits e) ∧ Shows es s := by
      intro s
      rw [ofDocument_of_entries hdoc, ofEntries_eq_ok_iff hnodup]
    refine ⟨hnodup, ?_, hok, ?_, ?_⟩
    · constructor
      · rintro ⟨s, hs⟩
        exact ((hok s).mp hs).1
      · intro hfits
        obtain ⟨s, hs, -⟩ := ofEntries_of_fits hnodup hfits
        exact ⟨s, (ofDocument_of_entries hdoc).trans hs⟩
    · intro doc' es' hdoc' hperm s hs
      obtain ⟨hfits, hshows⟩ := (hok s).mp hs
      have hfits' : ∀ e ∈ es', Fits e := fun e he => hfits e (hperm.mem_iff.mp he)
      rw [ofDocument_of_entries hdoc', ofEntries_eq_ok_iff (Entries.nodup_ofDocument hdoc')]
      exact ⟨hfits', hshows.perm hnodup hperm⟩
    · intro problem
      rw [ofDocument_of_entries hdoc, ofEntries_eq_error_iff hnodup]
  · exact ⟨Toml.exists_written fs, fun doc hdoc => ofDocument_of_written hfs hdoc⟩

/-- A document whose second entry is a table and whose third has an unknown name, and one with
three kinds of escapes in two strings, the later field first. -/
theorem ofDocument_iff_escapes :
    let doc := "options = \"x\"\nhome.x = 1\nskel = 2\n".toList
    (∃ es front v rest, Entries.ofDocument doc = some es ∧
      es = front ++ ("home", v) :: rest ∧ (∀ x ∈ front, Fits x) ∧ ∀ t, v ≠ .string t) ∧
      ofDocument "options = \"é\\u0000\"\nskeleton = \"\\\"\\U0000005c\"\n".toList =
        .ok { skeleton := some ⟨"\"\\"⟩, options := some "é\x00" } := by
  intro doc
  obtain ⟨hentries, hwritten⟩ := ofDocument_iff
  constructor
  · have hread : (Entries.ofDocument doc).map Entries.keys = some ["options", "home", "skel"] := by
      decide +kernel
    obtain ⟨es, hes, hkeys⟩ := Option.map_eq_some_iff.mp hread
    obtain ⟨-, -, -, -, herror⟩ := hentries doc es hes
    have hfails : ofDocument doc = .error (.invalidType "map" "path string") := by decide +kernel
    obtain ⟨front, ⟨k, v⟩, rest, rfl, hfront, hoffends⟩ := (herror _).mp hfails
    have hk : k ∈ ["options", "home", "skel"] := hkeys ▸ List.mem_map.mpr ⟨(k, v), by simp, rfl⟩
    generalize hproblem : Problem.invalidType "map" "path string" = problem at hoffends
    cases hoffends with
    | unknownField => cases hproblem
    | noPath hname hv =>
      rcases hname with rfl | rfl
      · exact ⟨_, front, v, rest, hes, rfl, hfront, hv⟩
      · exact absurd hk (by decide)
    | noString =>
      obtain ⟨-, hstring⟩ := Problem.invalidType.inj hproblem
      exact absurd hstring (by decide)
  · have hspells : Toml.Quoting.Spells "é\x00".toList "é\\u0000".toList :=
      .plain (by decide) (by decide) (by decide) (.escape (.four (by decide) (by decide)) .nil)
    have hspells' : Toml.Quoting.Spells "\"\\".toList "\\\"\\U0000005c".toList :=
      .escape (.letter (by decide)) (.escape (.eight (by decide) (by decide)) .nil)
    refine (hwritten _ [("options", "é\x00"), ("skeleton", "\"\\")] ?_).2 _ ?_
    · exact List.Perm.swap _ _ _
    · exact .line hspells (.line hspells' .nil)

end JFlexReport.Settings
