import JFlexReport.Proofs.DocumentEntries

/-!
Writing documents.

A document of strings has one line for each key. Inside its quotes a string may hold characters
as they are, unless they are quotes, backslashes or control characters, and any character as an
escape. However a text is spelled, the reader finds it again, and the document that it reads has
the entries that were written.
-/

namespace JFlexReport.Toml

open Text

/-! ### Strings -/

namespace Quoting

/-- Characters with an escape of one letter, and those letters. -/
def letters : List (Char × Char) :=
  [('\x08', 'b'), ('\t', 't'), ('\n', 'n'), ('\x0c', 'f'), ('\r', 'r'), ('"', '"'), ('\\', '\\')]

/-- What may stand for a character behind a backslash: its letter, or its code in four or eight
hexadecimal digits. -/
inductive Escape : Char → List Char → Prop
  | letter {c x : Char} (h : (c, x) ∈ letters) : Escape c [x]
  | four {c d₁ d₂ d₃ d₄ : Char} (hdigits : [d₁, d₂, d₃, d₄].all isHexDigit)
    (hcode : valueIn 16 [d₁, d₂, d₃, d₄] = c.toNat) : Escape c ['u', d₁, d₂, d₃, d₄]
  | eight {c d₁ d₂ d₃ d₄ d₅ d₆ d₇ d₈ : Char}
    (hdigits : [d₁, d₂, d₃, d₄, d₅, d₆, d₇, d₈].all isHexDigit)
    (hcode : valueIn 16 [d₁, d₂, d₃, d₄, d₅, d₆, d₇, d₈] = c.toNat) :
    Escape c ['U', d₁, d₂, d₃, d₄, d₅, d₆, d₇, d₈]

/-- The inside of a basic string spells a text. -/
inductive Spells : List Char → List Char → Prop
  | nil : Spells [] []
  | plain {c : Char} {cs w : List Char} (htext : isTextChar c) (hquote : c ≠ '"')
    (hback : c ≠ '\\') (h : Spells cs w) : Spells (c :: cs) (c :: w)
  | escape {c : Char} {e cs w : List Char} (he : Escape c e) (h : Spells cs w) :
    Spells (c :: cs) ('\\' :: (e ++ w))

variable {c : Char} {e cs w : List Char}

lemma charOfHex?_of_code {ds : List Char} (hdigits : ds.all isHexDigit)
    (hcode : valueIn 16 ds = c.toNat) : charOfHex? ds = some c := by
  have hvalid : c.toNat.isValidChar := c.valid
  simp only [charOfHex?, hdigits, hcode, Bool.not_true, Bool.false_eq_true, if_false, hvalid,
    if_true, Char.ofNat_toNat]

lemma escape?_append (h : Escape c e) (r : List Char) : escape? (e ++ r) = some (c, r) := by
  cases h with
  | letter h =>
    simp only [letters, List.mem_cons, Prod.mk.injEq, List.not_mem_nil, or_false] at h
    rcases h with ⟨rfl, rfl⟩ | ⟨rfl, rfl⟩ | ⟨rfl, rfl⟩ | ⟨rfl, rfl⟩ | ⟨rfl, rfl⟩ | ⟨rfl, rfl⟩ |
      ⟨rfl, rfl⟩ <;> rfl
  | four hdigits hcode =>
    simp only [List.cons_append, List.nil_append, escape?, charOfHex?_of_code hdigits hcode,
      Option.map_some]
  | eight hdigits hcode =>
    simp only [List.cons_append, List.nil_append, escape?, charOfHex?_of_code hdigits hcode,
      Option.map_some]

lemma basic?_escape {r r' : List Char} (h : escape? r = some (c, r')) :
    basic? ('\\' :: r) = (basic? r').map fun (cs, rest) => (c :: cs, rest) := by
  rw [basic?]
  split
  · next h' => rw [h] at h'; cases h'
  · next h' => rw [h] at h'; cases h'; rfl

lemma basic?_plain (htext : isTextChar c) (hquote : c ≠ '"') (hback : c ≠ '\\') (r : List Char) :
    basic? (c :: r) = (basic? r).map fun (cs, rest) => (c :: cs, rest) := by
  rw [basic?, if_pos htext]
  · exact hquote
  · exact hback

lemma basic?_of_spells (h : Spells cs w) (r : List Char) :
    basic? (w ++ '"' :: r) = some (cs, r) := by
  induction h with
  | nil => rw [List.nil_append, basic?]
  | plain htext hquote hback h ih =>
    rw [List.cons_append, basic?_plain htext hquote hback, ih]
    rfl
  | escape he h ih =>
    rw [List.cons_append, List.append_assoc, basic?_escape (escape?_append he _), ih]
    rfl

/-- **A string is read as the text that it spells**, unless a third quote follows an empty one. -/
lemma read?_of_spells (h : Spells cs w) {r : List Char} (hr : ∀ t, r ≠ '"' :: t) :
    read? ('"' :: (w ++ '"' :: r)) = some (cs, r) := by
  unfold read?
  split
  · next t heq =>
    cases h with
    | nil => cases heq; exact absurd rfl (hr _)
    | plain _ hquote =>
      obtain ⟨-, heq⟩ := List.cons.inj heq
      exact absurd (List.cons.inj heq).1 hquote
    | escape => cases (List.cons.inj (List.cons.inj heq).2).1
  · next heq => cases heq
  · next => exact basic?_of_spells h r

/-! One way to spell a text is to escape only what has to be escaped. -/

def spelledChar (c : Char) : List Char :=
  if c = '"' ∨ c = '\\' then ['\\', c]
  else if isTextChar c then [c]
  else ['\\', 'u', '0', '0', hexDigit (c.toNat / 16), hexDigit (c.toNat % 16)]

def spelling (cs : List Char) : List Char := cs.flatMap spelledChar

lemma toNat_lt_of_not_isTextChar (h : ¬isTextChar c) : c.toNat < 0x80 := by
  by_contra hlt
  have hne : c ≠ '\x7f' := by
    rintro rfl
    exact hlt (by decide)
  have hle : 0x20 ≤ c.toNat := by omega
  exact h (by simp [isTextChar, hne, hle])

lemma escape_of_not_isTextChar (h : ¬isTextChar c) :
    Escape c ['u', '0', '0', hexDigit (c.toNat / 16), hexDigit (c.toNat % 16)] := by
  have hcode : ∀ n < 0x80, ['0', '0', hexDigit (n / 16), hexDigit (n % 16)].all isHexDigit ∧
      valueIn 16 ['0', '0', hexDigit (n / 16), hexDigit (n % 16)] = n := by
    decide
  obtain ⟨hdigits, hvalue⟩ := hcode c.toNat (toNat_lt_of_not_isTextChar h)
  exact .four hdigits hvalue

lemma spells_spelling (cs : List Char) : Spells cs (spelling cs) := by
  induction cs with
  | nil => exact .nil
  | cons c cs ih =>
    rw [spelling, List.flatMap_cons, ← spelling, spelledChar]
    split
    · next hc =>
      refine .escape (e := [c]) (.letter ?_) ih
      rcases hc with rfl | rfl <;> decide
    · next hc =>
      obtain ⟨hquote, hback⟩ := not_or.mp hc
      split
      · next htext => exact .plain htext hquote hback ih
      · next htext => exact .escape (escape_of_not_isTextChar htext) ih

end Quoting

/-! ### Lines -/

section Line

/-- A key that needs no quotes. -/
structure IsBare (k : String) : Prop where
  ne_nil : k.toList ≠ []
  bare : ∀ c ∈ k.toList, Key.isBareChar c

/-- A line with a key and with a string that is spelled `w`, and the text behind it. -/
def lineText (k : String) (w s : List Char) : List Char :=
  k.toList ++ ' ' :: '=' :: ' ' :: '"' :: (w ++ '"' :: '\n' :: s)

variable {k : String} {c : Char} {cs w : List Char}

lemma ne_of_isBareChar (hc : Key.isBareChar c) {x : Char} (hx : Key.isBareChar x = false) :
    c ≠ x := by
  rintro rfl
  rw [hx] at hc
  cases hc

lemma IsBare.exists_cons (hk : IsBare k) : ∃ c cs, k.toList = c :: cs ∧ Key.isBareChar c := by
  obtain ⟨c, cs, hcs⟩ := List.exists_cons_of_ne_nil hk.ne_nil
  exact ⟨c, cs, hcs, hk.bare c (hcs ▸ List.mem_cons_self)⟩

lemma skipSpace_cons (hc : Quoting.isSpace c = false) (s : List Char) :
    Key.skipSpace (c :: s) = c :: s :=
  List.dropWhile_cons_of_neg (by simp [hc])

lemma skipSpace_bare (hk : IsBare k) (s : List Char) :
    Key.skipSpace (k.toList ++ s) = k.toList ++ s := by
  obtain ⟨c, cs, hcs, hc⟩ := hk.exists_cons
  have hspace : Quoting.isSpace c = false := by
    have hblank : c ≠ ' ' := ne_of_isBareChar hc (by decide)
    have htab : c ≠ '\t' := ne_of_isBareChar hc (by decide)
    simp [Quoting.isSpace, hblank, htab]
  rw [hcs, List.cons_append, skipSpace_cons hspace]

lemma part?_bare (hk : IsBare k) (s : List Char) :
    Key.part? (k.toList ++ ' ' :: s) = some (k, ' ' :: s) := by
  have htake : (k.toList ++ ' ' :: s).takeWhile Key.isBareChar = k.toList := by
    rw [List.takeWhile_append_of_pos hk.bare, List.takeWhile_cons_of_neg (by decide),
      List.append_nil]
  have hdrop : (k.toList ++ ' ' :: s).dropWhile Key.isBareChar = ' ' :: s := by
    rw [List.dropWhile_append_of_pos hk.bare, List.dropWhile_cons_of_neg (by decide)]
  have hline : Quoting.line? (k.toList ++ ' ' :: s) = none := by
    obtain ⟨c, cs, hcs, hc⟩ := hk.exists_cons
    rw [hcs, List.cons_append, Quoting.line?]
    · rintro t h
      exact ne_of_isBareChar hc (by decide) (List.cons.inj h).1
    · rintro t h
      exact ne_of_isBareChar hc (by decide) (List.cons.inj h).1
  rw [Key.part?, hline]
  simp only [htake, hdrop, List.isEmpty_eq_false_iff.mpr hk.ne_nil, String.ofList_toList,
    Bool.false_eq_true, if_false]

lemma read?_bare (hk : IsBare k) (s : List Char) :
    Key.read? (k.toList ++ ' ' :: '=' :: s) = some ([k], '=' :: s) := by
  have hparts : Key.parts? (k.toList ++ ' ' :: '=' :: s) = some ([k], '=' :: s) := by
    rw [Key.parts?]
    split
    · next h => rw [skipSpace_bare hk, part?_bare hk] at h; cases h
    · next h =>
      rw [skipSpace_bare hk, part?_bare hk] at h
      cases h
      rfl
  rw [Key.read?, hparts]
  rfl

lemma value_of_spells (h : Quoting.Spells cs w) (s : List Char) :
    ∃ hr, Node.read? ('"' :: (w ++ '"' :: '\n' :: s)) =
      some (.string (String.ofList cs), ⟨'\n' :: s, hr⟩) := by
  have hread := Quoting.read?_of_spells h (r := '\n' :: s) fun t ht => by cases ht
  refine ⟨Quoting.read?_shorter hread, ?_⟩
  rw [Node.read?, Compound.value]
  · split
    · next h' => rw [hread] at h'; cases h'; rfl
    · next h' => rw [hread] at h'; cases h'
  · rintro _ _ h
    cases h
  · rintro _ _ h
    cases h

lemma pair?_lineText (hk : IsBare k) (h : Quoting.Spells cs w) (s : List Char) :
    ∃ hr, Compound.pair? Node.read? (lineText k w s) =
      some ([k], .string (String.ofList cs), ⟨'\n' :: s, hr⟩) := by
  obtain ⟨hr, hread⟩ := value_of_spells h s
  refine ⟨?_, ?_⟩
  · simp only [lineText, List.length_append, List.length_cons]
    omega
  rw [Compound.pair?]
  split
  · next ks r hkey =>
    rw [lineText, read?_bare hk] at hkey
    cases hkey
    split
    · next v q hq hv =>
      cases hread.symm.trans hv
      rfl
    · next hv => cases hread.symm.trans hv
  · next hkey => exact absurd (read?_bare hk _) (hkey _ _)

lemma line?_lineText (hk : IsBare k) (h : Quoting.Spells cs w) (s : List Char) :
    Statement.line? (lineText k w s) = some (some (.pair [k] (.string (String.ofList cs))), s) := by
  obtain ⟨hr, hpair⟩ := pair?_lineText hk h s
  obtain ⟨c, ds, hds, hc⟩ := hk.exists_cons
  have hspace : Key.skipSpace (lineText k w s) = lineText k w s := skipSpace_bare hk _
  have hcons : lineText k w s =
      c :: (ds ++ ' ' :: '=' :: ' ' :: '"' :: (w ++ '"' :: '\n' :: s)) := by
    rw [lineText, hds, List.cons_append]
  have hnext : Statement.nextLine? (lineText k w s) = none := by
    have hcomment : c ≠ '#' := ne_of_isBareChar hc (by decide)
    have hfeed : c ≠ '\n' := ne_of_isBareChar hc (by decide)
    have hreturn : c ≠ '\r' := ne_of_isBareChar hc (by decide)
    rw [Statement.nextLine?, hspace, hcons, Statement.skipComment]
    · split
      · next h => cases h
      · next h => exact absurd (List.cons.inj h).1 hfeed
      · next h => exact absurd (List.cons.inj h).1 hreturn
      · rfl
    · rintro t h
      exact hcomment (List.cons.inj h).1
  have hread : Statement.read? (lineText k w s) =
      some (.pair [k] (.string (String.ofList cs)), '\n' :: s) := by
    rw [Statement.read?, hpair]
    · rfl
    · rintro t h
      rw [hcons] at h
      exact ne_of_isBareChar hc (by decide) (List.cons.inj h).1
  have hend : Statement.nextLine? ('\n' :: s) = some s := by
    rw [Statement.nextLine?, skipSpace_cons (by decide)]
    rfl
  rw [Statement.line?, hnext]
  simp only [hspace, hread, hend, Option.map_some]

end Line

/-! ### Documents -/

/-- A document of strings says which of them stands under which key, line by line. -/
inductive Written : List (String × String) → List Char → Prop
  | nil : Written [] []
  | line {k t : String} {fs : List (String × String)} {w s : List Char}
    (hspells : Quoting.Spells t.toList w) (h : Written fs s) :
    Written ((k, t) :: fs) (lineText k w s)

/-- The entries of a document of strings. -/
def stringEntries (fs : List (String × String)) : Entries := fs.map fun f => (f.1, .string f.2)

variable {fs : List (String × String)} {s : List Char}

lemma keys_stringEntries (fs : List (String × String)) :
    (stringEntries fs).keys = fs.map Prod.fst := by
  rw [Entries.keys, stringEntries, List.map_map]
  rfl

lemma exists_written (fs : List (String × String)) : ∃ s, Written fs s := by
  induction fs with
  | nil => exact ⟨[], .nil⟩
  | cons f fs ih =>
    obtain ⟨s, hs⟩ := ih
    exact ⟨_, .line (Quoting.spells_spelling f.2.toList) hs⟩

lemma readAll?_of_written (h : Written fs s) (hbare : ∀ f ∈ fs, IsBare f.1) :
    Statement.readAll? s = some (fs.map fun f => .pair [f.1] (.string f.2)) := by
  induction h with
  | nil => rw [Statement.readAll?, dif_pos rfl]; rfl
  | @line k t fs w s hspells h ih =>
    have hk : IsBare k := hbare (k, t) List.mem_cons_self
    have hne : lineText k w s ≠ [] := by simp [lineText]
    have hline := line?_lineText hk hspells s
    rw [String.ofList_toList] at hline
    rw [Statement.readAll?, dif_neg hne]
    split
    · next hnone => rw [hline] at hnone; cases hnone
    · next hsome =>
      rw [hline] at hsome
      cases hsome
      rw [ih fun f hf => hbare f (List.mem_cons_of_mem _ hf)]
      rfl

lemma add_string {es : Entries} {k : String} (hk : k ∉ es.keys) (v : Node) :
    Draft.add { entries := es } (.pair [k] v) = some { entries := es.append k v } := by
  have hput : Compound.putKey es [k] v = some (es.append k v) := by
    have hlookup := Entries.lookup_eq_none_iff.mpr hk
    simp only [Compound.putKey, List.getLast?_singleton, List.dropLast_singleton, Entries.put,
      Entries.holds, hlookup, Option.isSome_none, Bool.false_eq_true, if_false]
  rw [Draft.add, Entries.atPath, hput]
  rfl

lemma addAll_strings (es : Entries) (hnew : (es.keys ++ fs.map Prod.fst).Nodup) :
    (fs.map fun f => Statement.pair [f.1] (.string f.2)).foldlM Draft.add { entries := es } =
      some { entries := es ++ stringEntries fs } := by
  induction fs generalizing es with
  | nil => rw [stringEntries, List.map_nil, List.map_nil, List.append_nil]; rfl
  | cons f fs ih =>
    have hk : f.1 ∉ es.keys := by
      intro hmem
      exact (List.nodup_append.mp hnew).2.2 _ hmem _ List.mem_cons_self rfl
    have hrest : ((es.append f.1 (.string f.2)).keys ++ fs.map Prod.fst).Nodup := by
      rw [Entries.keys_append, List.append_assoc]
      exact hnew
    rw [List.map_cons, List.foldlM_cons, add_string hk]
    refine (ih _ hrest).trans ?_
    rw [Entries.append, List.append_assoc]
    rfl

/-- **A document of strings is read as it was written.** -/
theorem ofDocument_of_written (h : Written fs s) (hbare : ∀ f ∈ fs, IsBare f.1)
    (hnew : (fs.map Prod.fst).Nodup) : Entries.ofDocument s = some (stringEntries fs) := by
  have hmark : ∀ t, s ≠ '\ufeff' :: t := by
    intro t hs
    cases h with
    | nil => cases hs
    | @line k _ _ w s _ _ =>
      obtain ⟨c, cs, hcs, hc⟩ := (hbare _ List.mem_cons_self).exists_cons
      rw [lineText, hcs, List.cons_append] at hs
      exact ne_of_isBareChar hc (by decide) (List.cons.inj hs).1
  have hadd : Entries.ofStatements (fs.map fun f => .pair [f.1] (.string f.2)) =
      some (stringEntries fs) := by
    have hdraft : ({} : Draft) = { entries := [] } := rfl
    rw [Entries.ofStatements, hdraft, addAll_strings [] hnew]
    rfl
  unfold Entries.ofDocument
  split
  · next t => exact absurd rfl (hmark t)
  · next => simp only [readAll?_of_written h hbare, Option.bind_some, hadd]

end JFlexReport.Toml
