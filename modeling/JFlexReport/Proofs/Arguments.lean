import Mathlib.Data.List.Basic
import Mathlib.Data.List.Infix
import Mathlib.Data.List.TakeWhile
import JFlexReport.CommandLine.Request

/-!
The arguments of an accepted request.

In front of its command an accepted request has nothing but flags that ask for more detail.
Behind the command it is a row of items: such flags, and options with their values, joined by
an equals sign or apart. So the detail can be counted argument by argument, and an option has
the value that it stands with.
-/

namespace JFlexReport.CommandLine

open Text

/-! ### Single arguments -/

/-- How often the argument asks for more detail. -/
def requests (a : String) : ℕ :=
  match Argument.ofText a with
  | .short fs => fs.count 'v'
  | .long "verbose" none => 1
  | _ => 0

/-- How often the arguments ask for more detail. -/
def detail : List String → ℕ
  | [] => 0
  | a :: rest => requests a + detail rest

/-- The argument does nothing but ask for more detail. -/
def IsDetail (a : String) : Prop :=
  (∃ k, Argument.ofText a = .short (List.replicate k 'v')) ∨
    Argument.ofText a = .long "verbose" none

/-- What stands behind the name of an option in one argument. -/
def attached : Option String → List Char
  | none => []
  | some value => '=' :: value.toList

section Argument

variable {a name value : String}

lemma detail_cons (a : String) (arguments : List String) :
    detail (a :: arguments) = requests a + detail arguments := rfl

lemma detail_append (l l' : List String) : detail (l ++ l') = detail l + detail l' := by
  induction l with
  | nil => rw [List.nil_append, detail, Nat.zero_add]
  | cons a l ih => rw [List.cons_append, detail_cons, ih, detail_cons, Nat.add_assoc]

lemma requests_cluster {k : ℕ} (h : Argument.ofText a = .short (List.replicate k 'v')) :
    requests a = k := by
  simp [requests, h]

lemma requests_verbose (h : Argument.ofText a = .long "verbose" none) : requests a = 1 := by
  simp [requests, h]

lemma requests_word (h : Argument.ofText a = .word value) : requests a = 0 := by
  simp [requests, h]

lemma requests_separator (h : Argument.ofText a = .separator) : requests a = 0 := by
  simp [requests, h]

lemma requests_joined (h : Argument.ofText a = .long name (some value)) : requests a = 0 := by
  simp [requests, h]

lemma requests_apart (h : Argument.ofText a = .long name none) (hname : name ≠ "verbose") :
    requests a = 0 := by
  simp [requests, h, hname]

lemma ofText_eq_long_iff {v : Option String} :
    Argument.ofText a = .long name v ↔
      a.toList = '-' :: '-' :: (name.toList ++ attached v) ∧ '=' ∉ name.toList ∧
        name.toList ++ attached v ≠ [] := by
  constructor
  · intro h
    unfold Argument.ofText at h
    split at h
    · cases h
    · cases h
    · next r hr ha =>
      injection h with hname hv
      subst hname
      have hrest : r.dropWhile (· != '=') = attached v := by
        rw [← hv]
        split
        · assumption
        · next c s hs =>
          have hc := List.head_dropWhile_not (· != '=') (l := r) (by rw [hs]; simp)
          simp only [hs, List.head_cons, bne_eq_false_iff_eq] at hc
          rw [attached, String.toList_ofList, hs, hc]
      have hparts : r.takeWhile (· != '=') ++ attached v = r := by
        rw [← hrest, List.takeWhile_append_dropWhile]
      rw [String.toList_ofList, hparts]
      exact ⟨ha, fun hmem => by simpa using List.mem_takeWhile_imp hmem, hr⟩
    · cases h
    · cases h
  · rintro ⟨ha, hname, hne⟩
    have hpos : ∀ c ∈ name.toList, (c != '=') = true := fun c hc =>
      bne_iff_ne.mpr fun h => hname (h ▸ hc)
    obtain ⟨c, r, hr⟩ := List.exists_cons_of_ne_nil hne
    have htake : (c :: r).takeWhile (· != '=') = name.toList := by
      rw [← hr, List.takeWhile_append_of_pos hpos]
      cases v <;> simp [attached]
    have hdrop : (c :: r).dropWhile (· != '=') = attached v := by
      rw [← hr, List.dropWhile_append_of_pos hpos]
      cases v <;> simp [attached]
    rw [hr] at ha
    cases v <;> simp [Argument.ofText, ha, htake, hdrop, attached]

lemma ofText_eq_joined_iff :
    Argument.ofText a = .long name (some value) ↔
      a = "--" ++ name ++ "=" ++ value ∧ '=' ∉ name.toList := by
  rw [ofText_eq_long_iff, String.ext_iff]
  simp [attached]

lemma ofText_eq_apart_iff :
    Argument.ofText a = .long name none ↔ a = "--" ++ name ∧ '=' ∉ name.toList ∧ name ≠ "" := by
  rw [ofText_eq_long_iff, String.ext_iff]
  simp [attached]

lemma eq_of_ofText_word (h : Argument.ofText a = .word name) : a = name := by
  unfold Argument.ofText at h
  split at h <;> cases h <;> rfl

end Argument

/-! ### Flags -/

lemma flags_ok {topic : Topic} {fs : List Char} {n : ℕ} (h : flags topic fs = .ok n) :
    fs = List.replicate n 'v' := by
  fun_induction flags topic fs generalizing n with
  | case1 => cases h; rfl
  | case2 r ih =>
    cases hr : flags topic r with
    | error e => rw [hr] at h; cases h
    | ok m =>
      rw [hr] at h
      cases h
      rw [ih hr, List.replicate_succ]
  | case3 | case4 | case5 => cases h

/-! ### Values -/

lemma digits_of_readSigned? {r : List Char} {n : ℤ} (h : readSigned? ('-' :: r) = some n) :
    ∀ c ∈ r, c.isDigit = true := by
  simp only [readSigned?] at h
  split at h
  · cases h
  · next hr => exact (by simpa using hr : _ ∧ _).2

lemma ofText_of_readSigned? {v : String} {n : ℤ} (h : readSigned? v.toList = some n) :
    Argument.ofText v = .word v ∨
      ∃ ds, Argument.ofText v = .short ds ∧ ∀ c ∈ ds, c.isDigit = true := by
  unfold Argument.ofText
  split
  · exact .inl rfl
  · next hv => rw [hv] at h; cases h
  · next r hr hv =>
    rw [hv] at h
    simpa using digits_of_readSigned? h '-'
  · next r _ _ _ hv =>
    rw [hv] at h
    exact .inr ⟨r, rfl, digits_of_readSigned? h⟩
  · exact .inl rfl

/-- An argument that asks for no detail and does not look like an option. -/
def IsPlainValue (v : String) : Prop :=
  requests v = 0 ∧ ∀ name value, Argument.ofText v ≠ .long name value

lemma isPlainValue_of_word {v : String} (h : Argument.ofText v = .word v) : IsPlainValue v :=
  ⟨requests_word h, fun _ _ hlong => by rw [h] at hlong; cases hlong⟩

lemma isPlainValue_of_accepts {rule : OptionRule} {v : String} (hform : rule.anyForm = false)
    (h : rule.accepts v) : IsPlainValue v := by
  rw [OptionRule.accepts, hform, Bool.false_or] at h
  split at h
  · next t ht =>
    obtain rfl := eq_of_ofText_word ht
    exact isPlainValue_of_word ht
  · cases h

lemma isPlainValue_of_exitCode? {v : String} (h : (exitCode? v).isSome) : IsPlainValue v := by
  unfold exitCode? at h
  split at h
  · next n hn =>
    rcases ofText_of_readSigned? hn with hv | ⟨ds, hv, hds⟩
    · exact isPlainValue_of_word hv
    · refine ⟨?_, fun _ _ hlong => by rw [hv] at hlong; cases hlong⟩
      have hnot : 'v' ∉ ds := fun hmem => by simpa using hds 'v' hmem
      simp [requests, hv, List.count_eq_zero_of_not_mem hnot]
  · cases h

/-- Values that stand in arguments of their own are told from flags and options. -/
def Separate (rules : List OptionRule) : Prop :=
  ∀ rule ∈ rules, ∀ v, rule.accepts v → rule.isValid v → IsPlainValue v

lemma separate_classifyRules : Separate classifyRules := by
  intro rule hrule v haccepts hvalid
  simp only [classifyRules, List.mem_cons, List.not_mem_nil, or_false] at hrule
  obtain rfl | rfl | rfl | rfl | rfl | rfl := hrule
  · exact isPlainValue_of_exitCode? hvalid
  all_goals exact isPlainValue_of_accepts rfl haccepts

lemma separate_checkConfigRules : Separate checkConfigRules := by
  intro rule hrule v haccepts _
  obtain rfl := List.mem_singleton.mp hrule
  exact isPlainValue_of_accepts rfl haccepts

/-! ### Behind the command -/

/-- The arguments behind a command, item by item, with the options that they give in order. -/
inductive Spelled (rules : List OptionRule) : List String → List (String × String) → Prop
  | nil : Spelled rules [] []
  | separator {a : String} (ha : Argument.ofText a = .separator) : Spelled rules [a] []
  | detail {a : String} {rest : List String} {values : List (String × String)} (ha : IsDetail a)
    (hrest : Spelled rules rest values) : Spelled rules (a :: rest) values
  | joined {a v : String} {rule : OptionRule} {rest : List String}
    {values : List (String × String)} (hrule : rule ∈ rules)
    (ha : Argument.ofText a = .long rule.name (some v)) (hrest : Spelled rules rest values) :
    Spelled rules (a :: rest) ((rule.name, v) :: values)
  | apart {a v : String} {rule : OptionRule} {rest : List String}
    {values : List (String × String)} (hrule : rule ∈ rules)
    (ha : Argument.ofText a = .long rule.name none) (hv : rule.accepts v ∧ rule.isValid v)
    (hrest : Spelled rules rest values) :
    Spelled rules (a :: v :: rest) ((rule.name, v) :: values)

lemma take_ok {g g' : Given} {rule : OptionRule} {v : String} (h : g.take rule v = .ok g')
    (hnew : g.value? rule.name = none) :
    rule.isValid v ∧ g'.verbosity = g.verbosity ∧
      ∀ name x, g'.value? name = some x ↔ g.value? name = some x ∨ (name, x) = (rule.name, v) := by
  unfold Given.take at h
  split at h
  · next hvalid =>
    cases h
    refine ⟨hvalid, rfl, fun name x => ?_⟩
    rw [Given.value?, List.lookup_cons]
    by_cases hname : name = rule.name
    · subst hname
      simp [hnew, eq_comm]
    · have hne : (name == rule.name) = false := by simpa using hname
      simp [hne, hname, Given.value?]
  · cases h

lemma name_of_find? {rules : List OptionRule} {rule : OptionRule} {name : String}
    (h : rules.find? (fun r => r.name = name) = some rule) : rule ∈ rules ∧ rule.name = name :=
  ⟨List.mem_of_find?_eq_some h, by simpa using List.find?_some h⟩

/-- **Accepted arguments are spelled out item by item**: what they ask for is the sum of their
requests, and the options have the values given in them. -/
theorem options_ok {topic : Topic} {rules : List OptionRule} (hrules : Separate rules)
    {args : List String} {g g' : Given} (h : options topic rules args g = .ok g') :
    g'.verbosity = g.verbosity + detail args ∧
      ∃ values, Spelled rules args values ∧
        ∀ name v, g'.value? name = some v ↔ g.value? name = some v ∨ (name, v) ∈ values := by
  -- the cases of `options` that go on; all others refuse the arguments
  fun_induction options topic rules args g with
  | case1 g =>
    cases h
    exact ⟨rfl, [], .nil, by simp⟩
  | case2 a rest g ha hrest =>
    cases h
    obtain rfl := List.isEmpty_iff.mp hrest
    exact ⟨by rw [detail_cons, requests_separator ha]; rfl, [], .separator ha, by simp⟩
  | case5 a rest g fs ha k hk ih =>
    obtain ⟨hverbosity, values, hspelled, hvalues⟩ := ih h
    rw [flags_ok hk] at ha
    refine ⟨?_, values, .detail (.inl ⟨k, ha⟩) hspelled, hvalues⟩
    rw [hverbosity, detail_cons, requests_cluster ha, Nat.add_assoc]
  | case7 a rest g ha ih =>
    obtain ⟨hverbosity, values, hspelled, hvalues⟩ := ih h
    refine ⟨?_, values, .detail (.inr ha) hspelled, hvalues⟩
    rw [hverbosity, detail_cons, requests_verbose ha, Nat.add_assoc]
  | case11 a g name rule hfind hnew v rest g₁ htake _ _ ha ih =>
    obtain ⟨hverbosity, values, hspelled, hvalues⟩ := ih h
    obtain ⟨hrule, rfl⟩ := name_of_find? hfind
    obtain ⟨-, hsame, htaken⟩ := take_ok htake (by simpa using hnew)
    refine ⟨?_, _, .joined hrule ha hspelled, fun name x => ?_⟩
    · rw [hverbosity, hsame, detail_cons, requests_joined ha, Nat.zero_add]
    · rw [hvalues, htaken, List.mem_cons, or_assoc]
  | case13 a g name rule hfind hnew v rest haccepts g₁ htake hverbose _ ha ih =>
    obtain ⟨hverbosity, values, hspelled, hvalues⟩ := ih h
    obtain ⟨hrule, rfl⟩ := name_of_find? hfind
    obtain ⟨hvalid, hsame, htaken⟩ := take_ok htake (by simpa using hnew)
    refine ⟨?_, _, .apart hrule ha ⟨haccepts, hvalid⟩ hspelled, fun name x => ?_⟩
    · rw [hverbosity, hsame, detail_cons, requests_apart ha fun hname => hverbose hname rfl,
        detail_cons, (hrules rule hrule v haccepts hvalid).1, Nat.zero_add, Nat.zero_add]
    · rw [hvalues, htaken, List.mem_cons, or_assoc]
  | case3 | case4 | case6 | case8 | case9 | case10 | case12 | case14 | case15 | case16 => cases h

/-! ### The options that are given -/

/-- The option stands among the arguments with the value, joined to it or in front of it. -/
def Gives (arguments : List String) (name value : String) : Prop :=
  "--" ++ name ++ "=" ++ value ∈ arguments ∨ ["--" ++ name, value] <:+: arguments

/-- A name that can be written out in full and is not that of the flag. -/
def IsOptionName (name : String) : Prop := '=' ∉ name.toList ∧ name ≠ "" ∧ name ≠ "verbose"

instance (name : String) : Decidable (IsOptionName name) :=
  inferInstanceAs (Decidable (_ ∧ _))

section Gives

variable {rules : List OptionRule} {a name value : String} {args : List String}

lemma not_gives_nil : ¬ Gives [] name value := by
  simp [Gives]

lemma gives_cons_iff (hname : IsOptionName name) :
    Gives (a :: args) name value ↔ Argument.ofText a = .long name (some value) ∨
      (Argument.ofText a = .long name none ∧ args.head? = some value) ∨
      Gives args name value := by
  obtain ⟨hequals, hne, -⟩ := hname
  have hpair : ["--" ++ name, value] <+: a :: args ↔
      a = "--" ++ name ∧ args.head? = some value := by
    cases args <;> simp [List.cons_prefix_cons, eq_comm]
  have hjoined : Argument.ofText a = .long name (some value) ↔
      "--" ++ name ++ "=" ++ value = a := by
    rw [ofText_eq_joined_iff, eq_comm]
    exact and_iff_left hequals
  have hapart : Argument.ofText a = .long name none ↔ a = "--" ++ name := by
    rw [ofText_eq_apart_iff]
    exact and_iff_left ⟨hequals, hne⟩
  rw [Gives, Gives, List.mem_cons, List.infix_cons_iff, hpair, hjoined, hapart, or_assoc,
    or_left_comm (a := _ ∈ args)]

lemma not_long_of_isDetail {v : Option String} (ha : IsDetail a) (hname : IsOptionName name) :
    Argument.ofText a ≠ .long name v := by
  intro hlong
  rcases ha with ⟨k, ha⟩ | ha
  · rw [ha] at hlong
    cases hlong
  · rw [ha] at hlong
    cases hlong
    exact hname.2.2 rfl

/-- **The options read are those that stand among the arguments.** -/
theorem mem_iff_gives (hrules : Separate rules) {values : List (String × String)}
    (hspelled : Spelled rules args values) (hname : IsOptionName name) :
    (name, value) ∈ values ↔ Gives args name value := by
  induction hspelled with
  | nil => simp [not_gives_nil]
  | separator ha => simp [gives_cons_iff hname, ha, not_gives_nil]
  | detail ha _ ih =>
    rw [gives_cons_iff hname, ih]
    simp [not_long_of_isDetail ha hname]
  | joined _ ha _ ih =>
    rw [gives_cons_iff hname, List.mem_cons, ih, ha]
    simp [eq_comm]
  | @apart a v rule rest values hrule ha hv _ ih =>
    have hrest : Gives (v :: rest) name value ↔ Gives rest name value := by
      rw [gives_cons_iff hname]
      simp [(hrules rule hrule v hv.1 hv.2).2]
    rw [gives_cons_iff hname, hrest, List.mem_cons, ih, ha]
    simp [eq_comm]

lemma gives_front_iff {front behind : List String} (hfront : ∀ a ∈ front, IsDetail a)
    (ha : Argument.ofText a = .word a) (hname : IsOptionName name) :
    Gives (front ++ a :: behind) name value ↔ Gives behind name value := by
  induction front with
  | nil =>
    rw [List.nil_append, gives_cons_iff hname]
    simp [ha]
  | cons b front ih =>
    obtain ⟨hb, hfront⟩ := List.forall_mem_cons.mp hfront
    rw [List.cons_append, gives_cons_iff hname, ih hfront]
    simp [not_long_of_isDetail hb hname]

end Gives

/-! ### All arguments -/

theorem readFrom_ok {env : String → Option String} {n : ℕ} {args : List String} {r : Request}
    (h : readFrom env n args = .ok r) :
    ∃ front name behind, args = front ++ name :: behind ∧ (∀ a ∈ front, IsDetail a) ∧
      Argument.ofText name = .word name ∧ command env (n + detail front) name behind = .ok r := by
  -- only a flag leads on to further arguments, and only a word to a command
  fun_induction readFrom env n args with
  | case2 n a rest name ha =>
    obtain rfl := eq_of_ofText_word ha
    exact ⟨[], a, rest, rfl, by simp, ha, h⟩
  | case3 n a rest fs ha k hk ih =>
    obtain ⟨front, name, behind, rfl, hfront, hname, hcommand⟩ := ih h
    rw [flags_ok hk] at ha
    refine ⟨a :: front, name, behind, rfl, ?_, hname, ?_⟩
    · exact List.forall_mem_cons.mpr ⟨.inl ⟨k, ha⟩, hfront⟩
    · rwa [detail_cons, requests_cluster ha, ← Nat.add_assoc]
  | case5 n a rest ha ih =>
    obtain ⟨front, name, behind, rfl, hfront, hname, hcommand⟩ := ih h
    refine ⟨a :: front, name, behind, rfl, ?_, hname, ?_⟩
    · exact List.forall_mem_cons.mpr ⟨.inr ha, hfront⟩
    · rwa [detail_cons, requests_verbose ha, ← Nat.add_assoc]
  | case1 | case4 | case6 | case7 | case8 => cases h

lemma bind_ok {α β : Type} {x : Except Stop α} {f : α → Except Stop β} {b : β}
    (h : x >>= f = .ok b) : ∃ a, x = .ok a ∧ f a = .ok b := by
  rcases x with e | a
  · cases h
  · exact ⟨a, rfl, h⟩

lemma orUsage_ok {α : Type} {x : Option α} {a : α} (h : orUsage x = .ok a) : x = some a := by
  cases x <;> cases h
  rfl

lemma command_ok {env : String → Option String} {n : ℕ} {name : String} {args : List String}
    {r : Request} (h : command env n name args = .ok r) :
    ∃ g, r.verbosity = totalVerbosity n g.verbosity ∧
      ((options .classify classifyRules args {} = .ok g ∧
          ∃ q, classifyRequest? g = some q ∧ r.command = .classify q) ∨
        (options .checkConfig checkConfigRules args {} = .ok g ∧
          ∃ file, configFile? env g = some file ∧ r.command = .checkConfig file)) := by
  unfold command at h
  split at h
  · obtain ⟨g, hg, h⟩ := bind_ok h
    obtain ⟨q, hq, h⟩ := bind_ok h
    cases h
    exact ⟨g, rfl, .inl ⟨hg, q, orUsage_ok hq, rfl⟩⟩
  · split at h
    · obtain ⟨g, hg, h⟩ := bind_ok h
      obtain ⟨file, hfile, h⟩ := bind_ok h
      cases h
      exact ⟨g, rfl, .inr ⟨hg, file, orUsage_ok hfile, rfl⟩⟩
    · split at h <;> cases h

/-- The arguments in front of the command. -/
def front (arguments : List String) : List String :=
  arguments.takeWhile fun a => Argument.ofText a ≠ .word a

/-- The arguments behind the name of the command. -/
def behind (arguments : List String) : List String :=
  (arguments.dropWhile fun a => Argument.ofText a ≠ .word a).tail

/-- The detail that counts: what is asked for behind the command, or in front of it where
nothing is asked for behind it. -/
def effectiveDetail (arguments : List String) : ℕ :=
  totalVerbosity (detail (front arguments)) (detail (behind arguments))

lemma detail_eq_add (arguments : List String) :
    detail arguments = detail (front arguments) + detail (behind arguments) := by
  induction arguments with
  | nil => rfl
  | cons a rest ih =>
    by_cases ha : Argument.ofText a = .word a
    · have hfront : front (a :: rest) = [] := by simp [front, ha]
      have hbehind : behind (a :: rest) = rest := by simp [behind, ha]
      rw [hfront, hbehind, detail_cons, requests_word ha]
      rfl
    · have hfront : front (a :: rest) = a :: front rest := by simp [front, ha]
      have hbehind : behind (a :: rest) = behind rest := by simp [behind, ha]
      rw [hfront, hbehind, detail_cons, detail_cons, ih, Nat.add_assoc]

lemma effectiveDetail_eq_detail {arguments : List String}
    (h : detail (front arguments) = 0 ∨ detail (behind arguments) = 0) :
    effectiveDetail arguments = detail arguments := by
  rw [detail_eq_add, effectiveDetail, totalVerbosity]
  split <;> omega

section Request

variable {env : String → Option String} {arguments : List String} {r : Request}

/-- **An accepted request**: flags, the name of the command, and what the command reads. -/
theorem ofArguments_ok (h : Request.ofArguments env arguments = .ok r) :
    ∃ name, Argument.ofText name = .word name ∧
      arguments = front arguments ++ name :: behind arguments ∧
      (∀ a ∈ front arguments, IsDetail a) ∧
      command env (detail (front arguments)) name (behind arguments) = .ok r := by
  obtain ⟨before, name, after, harguments, hdetail, hname, hcommand⟩ := readFrom_ok h
  have hword : ∀ a ∈ before, decide (Argument.ofText a ≠ .word a) = true := by
    intro a ha
    rcases hdetail a ha with ⟨k, hk⟩ | hk <;> simp [hk]
  have hbefore : front arguments = before := by
    rw [front, harguments, List.takeWhile_append_of_pos hword]
    simp [hname]
  have hafter : behind arguments = after := by
    rw [behind, harguments, List.dropWhile_append_of_pos hword]
    simp [hname]
  rw [Nat.zero_add] at hcommand
  rw [hbefore, hafter]
  exact ⟨name, hname, harguments, hdetail, hcommand⟩

theorem verbosity_eq_effectiveDetail (h : Request.ofArguments env arguments = .ok r) :
    r.verbosity = effectiveDetail arguments := by
  obtain ⟨name, -, -, -, hcommand⟩ := ofArguments_ok h
  obtain ⟨g, hverbosity, ⟨hg, -⟩ | ⟨hg, -⟩⟩ := command_ok hcommand
  · rw [hverbosity, (options_ok separate_classifyRules hg).1, Nat.zero_add, effectiveDetail]
  · rw [hverbosity, (options_ok separate_checkConfigRules hg).1, Nat.zero_add, effectiveDetail]

lemma readOptional_path? {value : Option String} {file : Option Path}
    (h : readOptional path? value = some file) : file = value.map Path.mk := by
  rcases value with _ | v
  · cases h
    rfl
  · simp only [readOptional, path?] at h
    split at h
    · cases h
    · cases h
      rfl

/-- **The settings file of a request** is that of its option, or else that of the variable. -/
theorem file_of_checkConfig {n : ℕ} {file : Option Path}
    (h : Request.ofArguments env arguments = .ok { verbosity := n, command := .checkConfig file }) :
    (∀ v, Gives arguments "config" v → file = some ⟨v⟩) ∧
      ((∀ v, ¬ Gives arguments "config" v) → file = (env configVariable).map Path.mk) := by
  obtain ⟨name, hname, harguments, hfront, hcommand⟩ := ofArguments_ok h
  obtain ⟨g, -, ⟨-, q, -, hq⟩ | ⟨hg, file', hfile, heq⟩⟩ := command_ok hcommand
  · cases hq
  · cases heq
    obtain ⟨-, values, hspelled, hvalues⟩ := options_ok separate_checkConfigRules hg
    have hgives : ∀ v, g.value? "config" = some v ↔ Gives arguments "config" v := by
      intro v
      calc g.value? "config" = some v ↔ ("config", v) ∈ values :=
          (hvalues "config" v).trans (by simp [Given.value?])
        _ ↔ Gives (behind arguments) "config" v :=
          mem_iff_gives separate_checkConfigRules hspelled (by decide)
        _ ↔ Gives (front arguments ++ name :: behind arguments) "config" v :=
          (gives_front_iff hfront hname (by decide)).symm
        _ ↔ Gives arguments "config" v := by rw [← harguments]
    rw [readOptional_path? hfile]
    refine ⟨fun v hv => ?_, fun hnone => ?_⟩
    · rw [(hgives v).mpr hv]
      rfl
    · have hgiven : g.value? "config" = none :=
        Option.eq_none_iff_forall_ne_some.mpr fun v hv => hnone v ((hgives v).mp hv)
      rw [hgiven, Option.none_or]

end Request

end JFlexReport.CommandLine
