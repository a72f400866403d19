import Mathlib.Data.List.Infix
import JFlexReport.Proofs.JsonReader
import JFlexReport.Proofs.Numerals

/-!
Written JSON is read back.

Each part of a written text is read as what it was written for, whatever follows it: a string
up to its closing quote, a number up to a character that no number goes on with, the entries
of an array or an object up to the closing bracket. So a text tells its tree, and the blanks
of the layout tell nothing.
-/

namespace JFlexReport.Json

open Text

/-! ### Trees and values -/

lemma sizeOf_lt_array {x : Json} {items : List Json} (h : x ∈ items) :
    sizeOf x < sizeOf (array items) := by
  have := List.sizeOf_lt_of_mem h
  simp only [array.sizeOf_spec]
  omega

lemma sizeOf_lt_object {f : String × Json} {fields : List (String × Json)} (h : f ∈ fields) :
    sizeOf f.2 < sizeOf (object fields) := by
  have hf := List.sizeOf_lt_of_mem h
  obtain ⟨k, v⟩ := f
  simp only [Prod.mk.sizeOf_spec, object.sizeOf_spec] at hf ⊢
  omega

/-- The value that a tree stands for. -/
def toValue : Json → Value
  | .null => .null
  | .number n => .number n
  | .string s => .string s
  | .array items => .array (items.map toValue)
  | .object fields => .object (fields.map fun f => (f.1, toValue f.2))
decreasing_by
  · exact sizeOf_lt_array ‹_ ∈ items›
  · exact sizeOf_lt_object ‹_ ∈ fields›

/-- **Induction over a tree**, through the lists of its entries. -/
@[elab_as_elim]
theorem induction {P : Json → Prop} (null : P .null) (number : ∀ n, P (.number n))
    (string : ∀ s, P (.string s)) (array : ∀ items, (∀ x ∈ items, P x) → P (.array items))
    (object : ∀ fields, (∀ f ∈ fields, P f.2) → P (.object fields)) : ∀ j, P j
  | .null => null
  | .number n => number n
  | .string s => string s
  | .array items => array items fun x _ => induction null number string array object x
  | .object fields => object fields fun f _ => induction null number string array object f.2
decreasing_by
  · exact sizeOf_lt_array ‹_ ∈ items›
  · exact sizeOf_lt_object ‹_ ∈ fields›

/-! ### Blanks -/

lemma skip_cons {c : Char} (hc : isSpace c = false) (s : List Char) : skip (c :: s) = c :: s := by
  rw [skip, List.dropWhile_cons_of_neg (by simp [hc])]

lemma skip_newline (d : ℕ) (s : List Char) : skip (newline d ++ s) = skip s := by
  have h : ∀ c ∈ newline d, isSpace c := by
    intro c hc
    rcases List.mem_cons.mp hc with rfl | hc
    · decide
    · rw [List.eq_of_mem_replicate hc]; decide
  rw [skip, List.dropWhile_append_of_pos h, skip]

/-! ### Strings -/

lemma chars?_escape {c : Char} {r r' : List Char} (h : escape? r = some (c, r')) :
    chars? ('\\' :: r) = (chars? r').map (Prod.map (c :: ·) id) := by
  rw [chars?]
  split
  · next h' => rw [h] at h'; cases h'
  · next h' => rw [h] at h'; cases h'; rfl

lemma chars?_plain {c : Char} (hquote : c ≠ '"') (hback : c ≠ '\\') (hc : ¬c.toNat < 0x20)
    (s : List Char) : chars? (c :: s) = (chars? s).map (Prod.map (c :: ·) id) := by
  rw [chars?, if_neg hc]
  · exact hquote
  · exact hback

lemma escape?_control {c : Char} (hc : c.toNat < 0x20) (s : List Char) :
    escape? ('u' :: '0' :: '0' :: hexDigit (c.toNat / 16) :: hexDigit (c.toNat % 16) :: s) =
      some (c, s) := by
  have hcode : ∀ n < 0x20, charOfHex? ['0', '0', hexDigit (n / 16), hexDigit (n % 16)] =
      some (Char.ofNat n) := by
    decide
  simp only [escape?, hcode _ hc, Char.ofNat_toNat]

/-- **A written character is read as itself.** -/
lemma chars?_escapedChar (c : Char) (s : List Char) :
    chars? (escapedChar c ++ s) = (chars? s).map (Prod.map (c :: ·) id) := by
  unfold escapedChar
  split
  case h_8 hquote hback _ _ _ _ _ =>
    split
    · next hc => exact chars?_escape (escape?_control hc s)
    · next hc => exact chars?_plain hquote hback hc s
  all_goals exact chars?_escape rfl

lemma chars?_flatMap (cs s : List Char) :
    chars? (cs.flatMap escapedChar ++ '"' :: s) = some (cs, s) := by
  induction cs with
  | nil => rw [List.flatMap_nil, List.nil_append, chars?]
  | cons c cs ih =>
    rw [List.flatMap_cons, List.append_assoc, chars?_escapedChar, ih]
    rfl

/-! ### Numbers -/

/-- Nothing that a number could go on with. -/
def EndsNumber (s : List Char) : Prop :=
  ∀ c ∈ s.head?, c.isDigit = false ∧ c ≠ '.' ∧ c ≠ 'e' ∧ c ≠ 'E'

lemma endsNumber_nil : EndsNumber [] := by simp [EndsNumber]

lemma endsNumber_comma (s : List Char) : EndsNumber (',' :: s) := by
  simp [EndsNumber]

lemma endsNumber_newline (d : ℕ) (s : List Char) : EndsNumber (newline d ++ s) := by
  simp [EndsNumber, newline]

lemma digits?_numeral_append (n : ℕ) {s : List Char} (hs : ∀ c ∈ s.head?, c.isDigit = false) :
    digits? (numeral n ++ s) = some (numeral n, s) := by
  rw [digits?, takeWhile_numeral_append hs, dropWhile_numeral_append hs,
    if_neg (by simp [numeral_ne_nil])]

lemma whole?_numeral_append (n : ℕ) {s : List Char} (hs : ∀ c ∈ s.head?, c.isDigit = false) :
    whole? (numeral n ++ s) = some (numeral n, s) := by
  obtain ⟨c, ds, hn⟩ := List.exists_cons_of_ne_nil (numeral_ne_nil n)
  by_cases hc : c = '0'
  · -- behind a zero no digits are expected, and none stand there
    subst hc
    obtain ⟨-, rfl⟩ := eq_nil_of_numeral_eq hn
    rw [hn]
    rfl
  · have hds := digits?_numeral_append n hs
    rw [hn, List.cons_append] at hds ⊢
    rw [← hds, whole?]
    rintro s' h
    exact hc (List.cons.inj h).1

section Numbers

variable {s : List Char} (hs : EndsNumber s)

include hs

lemma fraction?_of_endsNumber : fraction? s = some ([], s) := by
  unfold fraction?
  split
  · next r => exact absurd rfl (hs '.' rfl).2.1
  · rfl

lemma exponent?_of_endsNumber : exponent? s = some (0, s) := by
  rcases s with _ | ⟨c, s⟩
  · rfl
  · obtain ⟨-, -, he, hE⟩ := hs c rfl
    rw [exponent?, if_neg (by simp [he, hE])]

lemma magnitude?_numeral_append (n : ℕ) : magnitude? (numeral n ++ s) = some ((n : ℚ), s) := by
  simp [magnitude?, whole?_numeral_append n fun c hc => (hs c hc).1, fraction?_of_endsNumber hs,
    exponent?_of_endsNumber hs, digitsValue_numeral]

/-- **A written number is read as itself.** -/
lemma number?_signedNumeral_append (n : ℤ) :
    number? (signedNumeral n ++ s) = some ((n : ℚ), s) := by
  cases n with
  | ofNat n =>
    have hm := magnitude?_numeral_append hs n
    obtain ⟨c, ds, hn⟩ := List.exists_cons_of_ne_nil (numeral_ne_nil n)
    have hc : c.isDigit := isDigit_of_mem_numeral (by rw [hn]; exact List.mem_cons_self)
    rw [hn, List.cons_append] at hm
    rw [signedNumeral, hn, List.cons_append, number?, hm]
    · rfl
    · rintro s' h
      rw [(List.cons.inj h).1] at hc
      exact absurd hc (by decide)
  | negSucc n =>
    rw [signedNumeral, List.cons_append, number?, magnitude?_numeral_append hs]
    simp [Int.negSucc_eq]

end Numbers

/-! ### Entries -/

/-- How a value or a field begins: neither with a blank nor with a closing bracket. -/
def IsFront (c : Char) : Prop := isSpace c = false ∧ c ≠ ']' ∧ c ≠ '\x7d'

instance (c : Char) : Decidable (IsFront c) :=
  inferInstanceAs (Decidable (isSpace c = false ∧ c ≠ ']' ∧ c ≠ '\x7d'))

/-- Entries with commas between them, each on a line of its own. -/
def prettyEntries {α : Type} (print : α → List Char) (d : ℕ) : List α → List Char
  | [] => []
  | x :: xs => print x ++ xs.flatMap fun y => ',' :: (newline d ++ print y)

section Entries

variable {α β : Type} {print : α → List Char} {entry : Reader β} {value : α → β} {close : Char}

variable (print) in
lemma length_le_prettyEntries (d : ℕ) {x : α} {xs : List α} (hx : x ∈ xs) :
    (print x).length ≤ (prettyEntries print d xs).length := by
  rcases xs with _ | ⟨y, ys⟩
  · cases hx
  · rw [prettyEntries, List.length_append]
    rcases List.mem_cons.mp hx with rfl | hx
    · omega
    · have h : print x <:+: ys.flatMap fun y => ',' :: (newline d ++ print y) := by
        rw [List.flatMap_def]
        refine List.IsInfix.trans ?_ (List.infix_of_mem_flatten (List.mem_map_of_mem hx))
        exact (List.suffix_append (',' :: newline d) (print x)).isInfix
      have := h.length_le
      omega

lemma entries?_last {s r t : List Char} {v : β} (h : entry.read? s = some (v, r))
    (hr : skip r = close :: t) : entries? entry close s = some ([v], t) := by
  rw [entries?]
  split
  · next h' => rw [h] at h'; cases h'
  · next h' =>
    rw [h] at h'
    cases h'
    split
    · next hr' => rw [hr] at hr'; cases hr'
    · next hr' => rw [hr] at hr'; cases hr'; rw [if_pos rfl]

lemma entries?_comma (hcomma : close ≠ ',') {s r t : List Char} {v : β}
    (h : entry.read? s = some (v, r)) (hr : skip r = ',' :: t) :
    entries? entry close s = (entries? entry close (skip t)).map (Prod.map (v :: ·) id) := by
  rw [entries?]
  split
  · next h' => rw [h] at h'; cases h'
  · next h' =>
    rw [h] at h'
    cases h'
    split
    · next hr' => rw [hr] at hr'; cases hr'
    · next hr' => rw [hr] at hr'; cases hr'; rw [if_neg hcomma.symm, if_pos rfl]

lemma prettyEntries_cons_cons (d : ℕ) (x y : α) (ys : List α) :
    prettyEntries print d (x :: y :: ys) =
      print x ++ ',' :: (newline d ++ prettyEntries print d (y :: ys)) := by
  simp [prettyEntries]

lemma enclosed?_close (hclose : close = ']' ∨ close = '\x7d') (s : List Char) :
    enclosed? entry close (close :: s) = some ([], s) := by
  have hspace : isSpace close = false := by rcases hclose with rfl | rfl <;> decide
  simp [enclosed?, skip_cons hspace]

section Front

variable (hfront : ∀ y, ∃ c s, print y = c :: s ∧ IsFront c)

include hfront

lemma skip_prettyEntries (d d' : ℕ) (x : α) (xs : List α) (s : List Char) :
    skip (newline d ++ (prettyEntries print d' (x :: xs) ++ s)) =
      prettyEntries print d' (x :: xs) ++ s := by
  obtain ⟨c, t, hx, hc⟩ := hfront x
  rw [skip_newline, prettyEntries, hx, List.cons_append, List.cons_append, skip_cons hc.1]

/-- **Entries are read one by one**, when each of them is read as itself. -/
theorem entries?_prettyEntries (hspace : isSpace close = false) (hcomma : close ≠ ',')
    (d d' : ℕ) (x : α) (xs : List α)
    (hread : ∀ y ∈ x :: xs, ∀ s, EndsNumber s → entry.read? (print y ++ s) = some (value y, s))
    (s : List Char) :
    entries? entry close (prettyEntries print d (x :: xs) ++ (newline d' ++ close :: s)) =
      some ((x :: xs).map value, s) := by
  induction xs generalizing x with
  | nil =>
    have hx := hread x List.mem_cons_self _ (endsNumber_newline d' (close :: s))
    have hclose : skip (newline d' ++ close :: s) = close :: s := by
      rw [skip_newline, skip_cons hspace]
    rw [prettyEntries, List.flatMap_nil, List.append_nil, entries?_last hx hclose]
    rfl
  | cons y ys ih =>
    have hx := hread x List.mem_cons_self _ (endsNumber_comma (newline d ++
      (prettyEntries print d (y :: ys) ++ (newline d' ++ close :: s))))
    have hys := ih y fun z hz => hread z (List.mem_cons_of_mem x hz)
    rw [prettyEntries_cons_cons, List.append_assoc, List.cons_append, List.append_assoc,
      entries?_comma hcomma hx (skip_cons (by decide) _), skip_prettyEntries hfront, hys]
    rfl

lemma enclosed?_prettyEntries (hclose : close = ']' ∨ close = '\x7d') (d d' : ℕ) (x : α)
    (xs : List α)
    (hread : ∀ y ∈ x :: xs, ∀ s, EndsNumber s → entry.read? (print y ++ s) = some (value y, s))
    (s : List Char) :
    enclosed? entry close
        (newline d ++ (prettyEntries print d (x :: xs) ++ (newline d' ++ close :: s))) =
      some ((x :: xs).map value, s) := by
  have hspace : isSpace close = false := by rcases hclose with rfl | rfl <;> decide
  have hcomma : close ≠ ',' := by rcases hclose with rfl | rfl <;> decide
  have hentries := entries?_prettyEntries hfront hspace hcomma d d' x xs hread s
  obtain ⟨c, t, hx, hc⟩ := hfront x
  have hne : c ≠ close := by
    rcases hclose with rfl | rfl
    · exact hc.2.1
    · exact hc.2.2
  rw [enclosed?, skip_prettyEntries hfront]
  rw [prettyEntries, hx, List.cons_append, List.cons_append] at hentries ⊢
  simp only
  rw [if_neg hne, hentries]

end Front

end Entries

/-! ### Values -/

/-- A field as it stands at a level. -/
def prettyField (d : ℕ) (f : String × Json) : List Char :=
  quotedText f.1 ++ ':' :: ' ' :: pretty d f.2

lemma prettyItems_eq (d : ℕ) (items : List Json) :
    prettyItems d items = items.flatMap fun x => ',' :: (newline d ++ pretty d x) := by
  induction items with
  | nil => rfl
  | cons x xs ih => rw [prettyItems, ih]; simp

lemma prettyFields_eq (d : ℕ) (fields : List (String × Json)) :
    prettyFields d fields = fields.flatMap fun f => ',' :: (newline d ++ prettyField d f) := by
  induction fields with
  | nil => rfl
  | cons f fs ih => rw [prettyFields, ih]; simp [prettyField]

lemma pretty_array (d : ℕ) (x : Json) (xs : List Json) :
    pretty d (.array (x :: xs)) = '[' :: (newline (d + 1) ++
      (prettyEntries (pretty (d + 1)) (d + 1) (x :: xs) ++ (newline d ++ [']']))) := by
  rw [pretty, prettyItems_eq, prettyEntries]
  simp

lemma pretty_object (d : ℕ) (f : String × Json) (fs : List (String × Json)) :
    pretty d (.object (f :: fs)) = '\x7b' :: (newline (d + 1) ++
      (prettyEntries (prettyField (d + 1)) (d + 1) (f :: fs) ++ (newline d ++ ['\x7d']))) := by
  rw [pretty, prettyFields_eq, prettyEntries]
  simp [prettyField]

lemma exists_front_signedNumeral (n : ℤ) :
    ∃ c s, signedNumeral n = c :: s ∧ (c.isDigit ∨ c = '-') := by
  cases n with
  | ofNat n =>
    obtain ⟨c, s, h⟩ := List.exists_cons_of_ne_nil (numeral_ne_nil n)
    exact ⟨c, s, h, .inl (isDigit_of_mem_numeral (by rw [h]; exact List.mem_cons_self))⟩
  | negSucc n => exact ⟨'-', _, rfl, .inr rfl⟩

lemma isFront_of_isDigit {c : Char} (hc : c.isDigit ∨ c = '-') : IsFront c := by
  refine ⟨?_, ?_, ?_⟩
  · by_contra h
    simp only [isSpace, Bool.not_eq_false, Bool.or_eq_true, beq_iff_eq] at h
    rcases h with ((rfl | rfl) | rfl) | rfl <;> exact absurd hc (by decide)
  · rintro rfl; exact absurd hc (by decide)
  · rintro rfl; exact absurd hc (by decide)

lemma exists_front_pretty (d : ℕ) (j : Json) : ∃ c s, pretty d j = c :: s ∧ IsFront c := by
  cases j with
  | null => exact ⟨'n', _, rfl, by decide⟩
  | number n =>
    obtain ⟨c, s, h, hc⟩ := exists_front_signedNumeral n
    exact ⟨c, s, h, isFront_of_isDigit hc⟩
  | string s => exact ⟨'"', _, rfl, by decide⟩
  | array items => cases items <;> exact ⟨'[', _, rfl, by decide⟩
  | object fields => cases fields <;> exact ⟨'\x7b', _, rfl, by decide⟩

lemma exists_front_prettyField (d : ℕ) (f : String × Json) :
    ∃ c s, prettyField d f = c :: s ∧ IsFront c :=
  ⟨'"', _, rfl, by decide⟩

lemma value_of_scalar (n : ℕ) {c : Char} (hopen : c ≠ '[') (hbrace : c ≠ '\x7b') (s : List Char) :
    (Reader.value n).read? (c :: s) = scalar? (c :: s) := by
  cases n with
  | zero => rfl
  | succ n =>
    simp only [Reader.value]
    split
    · next h => exact absurd (List.cons.inj h).1 hopen
    · next h => exact absurd (List.cons.inj h).1 hbrace
    · rfl

lemma scalar?_of_number {c : Char} (hc : c.isDigit ∨ c = '-') (s : List Char) :
    scalar? (c :: s) = (number? (c :: s)).map (Prod.map .number id) := by
  rw [scalar?]
  all_goals
    rintro s' h
    rw [(List.cons.inj h).1] at hc
    exact absurd hc (by decide)

lemma member_prettyField {reader : Reader Value} {d : ℕ} {f : String × Json} {s : List Char}
    (h : reader.read? (pretty d f.2 ++ s) = some (f.2.toValue, s)) :
    reader.member.read? (prettyField d f ++ s) = some ((f.1, f.2.toValue), s) := by
  obtain ⟨c, t, hv, hc⟩ := exists_front_pretty d f.2
  have hskip : skip (' ' :: (pretty d f.2 ++ s)) = pretty d f.2 ++ s := by
    rw [hv, List.cons_append, skip, List.dropWhile_cons_of_pos (by decide), ← skip, skip_cons hc.1]
  have htext : prettyField d f ++ s =
      '"' :: (f.1.toList.flatMap escapedChar ++ '"' :: ':' :: ' ' :: (pretty d f.2 ++ s)) := by
    simp [prettyField, quotedText]
  rw [htext]
  simp only [Reader.member, chars?_flatMap, skip_cons (show isSpace ':' = false by decide), hskip, h]
  simp

section Brackets

variable {n d : ℕ} {items : List Json} {fields : List (String × Json)}

lemma length_lt_pretty_array {x : Json} (hx : x ∈ items) :
    (pretty (d + 1) x).length < (pretty d (.array items)).length := by
  cases items with
  | nil => cases hx
  | cons y ys =>
    have := length_le_prettyEntries (pretty (d + 1)) (d + 1) hx
    rw [pretty_array]
    simp only [List.length_cons, List.length_append]
    omega

lemma length_lt_pretty_object {f : String × Json} (hf : f ∈ fields) :
    (pretty (d + 1) f.2).length < (pretty d (.object fields)).length := by
  cases fields with
  | nil => cases hf
  | cons g gs =>
    have := length_le_prettyEntries (prettyField (d + 1)) (d + 1) hf
    rw [pretty_object]
    simp only [prettyField, List.length_cons, List.length_append] at this ⊢
    omega

lemma value_array (hread : ∀ x ∈ items, ∀ s, EndsNumber s →
      (Reader.value n).read? (pretty (d + 1) x ++ s) = some (x.toValue, s)) (s : List Char) :
    (Reader.value (n + 1)).read? (pretty d (.array items) ++ s) =
      some ((array items).toValue, s) := by
  cases items with
  | nil => simp [Reader.value, pretty, enclosed?_close, toValue]
  | cons x xs =>
    have hitems := enclosed?_prettyEntries (exists_front_pretty (d + 1)) (.inl rfl) (d + 1) d
      x xs hread s
    simp [Reader.value, pretty_array, hitems, toValue]

lemma value_object (hread : ∀ f ∈ fields, ∀ s, EndsNumber s →
      (Reader.value n).read? (pretty (d + 1) f.2 ++ s) = some (f.2.toValue, s)) (s : List Char) :
    (Reader.value (n + 1)).read? (pretty d (.object fields) ++ s) =
      some ((object fields).toValue, s) := by
  cases fields with
  | nil => simp [Reader.value, pretty, enclosed?_close, toValue]
  | cons f fs =>
    have hfields := enclosed?_prettyEntries (exists_front_prettyField (d + 1)) (.inr rfl) (d + 1) d
      f fs (fun g hg s hs => member_prettyField (hread g hg s hs)) s
    simp [Reader.value, pretty_object, hfields, toValue]

end Brackets

/-- **A written value is read as itself**, in front of anything that ends a number. -/
theorem value_pretty (j : Json) {n d : ℕ} {s : List Char} (hn : (pretty d j).length ≤ n)
    (hs : EndsNumber s) : (Reader.value n).read? (pretty d j ++ s) = some (j.toValue, s) := by
  induction j using Json.induction generalizing n d s with
  | null =>
    rw [pretty, List.cons_append, value_of_scalar n (by decide) (by decide), toValue]
    rfl
  | number k =>
    obtain ⟨c, t, hk, hc⟩ := exists_front_signedNumeral k
    have hread := number?_signedNumeral_append hs k
    have hopen : c ≠ '[' := by rintro rfl; exact absurd hc (by decide)
    have hbrace : c ≠ '\x7b' := by rintro rfl; exact absurd hc (by decide)
    rw [hk, List.cons_append] at hread
    rw [pretty, hk, List.cons_append, value_of_scalar n hopen hbrace, scalar?_of_number hc, hread,
      toValue]
    rfl
  | string t =>
    rw [pretty, quotedText, List.cons_append, List.append_assoc, List.singleton_append,
      value_of_scalar n (by decide) (by decide), scalar?, chars?_flatMap, toValue]
    simp
  | array items ih =>
    cases n with
    | zero => cases items <;> simp [pretty] at hn
    | succ n =>
      refine value_array (fun x hx s hs => ih x hx ?_ hs) s
      have := length_lt_pretty_array (d := d) hx
      omega
  | object fields ih =>
    cases n with
    | zero => cases fields <;> simp [pretty] at hn
    | succ n =>
      refine value_object (fun f hf s hs => ih f hf ?_ hs) s
      have := length_lt_pretty_object (d := d) hf
      omega

/-- **The text of a tree says its value.** -/
theorem ofText?_text (j : Json) : Value.ofText? j.text = some j.toValue := by
  obtain ⟨c, t, hj, hc⟩ := exists_front_pretty 0 j
  have hread := value_pretty j (le_refl (pretty 0 j).length) endsNumber_nil
  have hskip : skip (pretty 0 j) = pretty 0 j := by rw [hj, skip_cons hc.1]
  rw [List.append_nil] at hread
  rw [Value.ofText?, text, String.toList_ofList, hskip, hread]
  rfl

end JFlexReport.Json
