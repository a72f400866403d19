import Mathlib.Algebra.Group.Nat.Defs
import Mathlib.Data.List.Basic
import JFlexReport.Text.Utf8

/-!
Texts and their bytes.

The machine that decodes bytes is followed through one character: what its first byte starts,
what each further byte does, and that all of them together give the character back. So a text
is read from its bytes, whatever follows them. The other way round, bytes that the machine
finds nothing wrong with are followed byte by byte, and they are those of what it has read.
Between characters the machine is idle; inside one it can only be on its way to a character
that no single byte stands for.
-/

namespace JFlexReport.Text.Utf8

/-- The bytes of a text. -/
def encode (s : List Char) : List UInt8 := s.flatMap String.utf8EncodeChar

/-- What is read as a text. -/
def lossy (cs : List Decoded) : List Char := cs.map fun c => c.getD '\ufffd'

lemma lossy_append (cs ds : List Decoded) : lossy (cs ++ ds) = lossy cs ++ lossy ds :=
  List.map_append

lemma run_cons (s : State) (b : UInt8) (bs : List UInt8) :
    run s (b :: bs) = (feed s b).1 ++ run (feed s b).2 bs := by
  cases s <;> rfl

/-! ### One byte inside a character -/

section Within

variable {due value : ℕ} {lo hi b : UInt8}

lemma feed_inside (h : lo ≤ b ∧ b ≤ hi) :
    feed (.within due lo hi value) b =
      if due = 1 then ([some (Char.ofNat (64 * value + (b.toNat - 0x80)))], .idle)
      else ([], .within (due - 1) 0x80 0xBF (64 * value + (b.toNat - 0x80))) := by
  simp only [feed, h.1, h.2, decide_true, Bool.and_self, if_true]

lemma feed_outside (h : ¬(lo ≤ b ∧ b ≤ hi)) :
    feed (.within due lo hi value) b = (none :: (start b).1, (start b).2) := by
  have hb : ¬(decide (lo ≤ b) && decide (b ≤ hi)) = true := by simpa using h
  simp only [feed, if_neg hb]

end Within

/-! ### A text comes back from its bytes -/

lemma start_one : ∀ n < 0x80, start (.ofNat n) = ([some (Char.ofNat n)], .idle) := by
  decide

lemma start_two : ∀ n < 0x20, 2 ≤ n →
    start (.ofNat (n + 0xC0)) = ([], .within 1 0x80 0xBF n) := by
  decide

lemma start_three : ∀ n < 0x10,
    start (.ofNat (n + 0xE0)) =
      ([], .within 2 (if n = 0 then 0xA0 else 0x80) (if n = 13 then 0x9F else 0xBF) n) := by
  decide

lemma start_four : ∀ n < 5,
    start (.ofNat (n + 0xF0)) =
      ([], .within 3 (if n = 0 then 0x90 else 0x80) (if n = 4 then 0x8F else 0xBF) n) := by
  decide

section Tail

variable {value n : ℕ} {lo hi : UInt8}

lemma toNat_tail (h : n < 0x40) : (UInt8.ofNat (n + 0x80)).toNat = n + 0x80 := by
  rw [UInt8.toNat_ofNat']
  omega

lemma tail_inside (hn : n < 0x40) (h : lo.toNat ≤ n + 0x80 ∧ n + 0x80 ≤ hi.toNat) :
    lo ≤ UInt8.ofNat (n + 0x80) ∧ UInt8.ofNat (n + 0x80) ≤ hi := by
  rwa [UInt8.le_iff_toNat_le, UInt8.le_iff_toNat_le, toNat_tail hn]

lemma run_last (hn : n < 0x40) (h : lo.toNat ≤ n + 0x80 ∧ n + 0x80 ≤ hi.toNat)
    (bs : List UInt8) :
    run (.within 1 lo hi value) (.ofNat (n + 0x80) :: bs) =
      some (Char.ofNat (64 * value + n)) :: run .idle bs := by
  rw [run_cons, feed_inside (tail_inside hn h), if_pos rfl, toNat_tail hn, Nat.add_sub_cancel]
  rfl

lemma run_more (due : ℕ) (hn : n < 0x40) (h : lo.toNat ≤ n + 0x80 ∧ n + 0x80 ≤ hi.toNat)
    (bs : List UInt8) :
    run (.within (due + 2) lo hi value) (.ofNat (n + 0x80) :: bs) =
      run (.within (due + 1) 0x80 0xBF (64 * value + n)) bs := by
  rw [run_cons, feed_inside (tail_inside hn h), if_neg (by omega), toNat_tail hn,
    Nat.add_sub_cancel]
  rfl

end Tail

/-- **One character is read from its bytes**, whatever follows them. -/
theorem run_utf8EncodeChar (c : Char) (bs : List UInt8) :
    run .idle (String.utf8EncodeChar c ++ bs) = some c :: run .idle bs := by
  have hvalid : c.toNat < 0xD800 ∨ 0xDFFF < c.toNat ∧ c.toNat < 0x110000 := c.valid
  have hchar : some (Char.ofNat c.toNat) :: run .idle bs = some c :: run .idle bs := by
    rw [Char.ofNat_toNat]
  generalize hv : c.toNat = v at hvalid hchar
  have hv' : c.val.toNat = v := hv
  rw [← hchar, String.utf8EncodeChar]
  simp only [hv']
  split
  · -- one byte
    next h =>
      rw [List.singleton_append, run_cons, feed, start_one v (by omega)]
      rfl
  split
  · -- two bytes
    next h =>
      rw [List.cons_append, run_cons, feed, start_two _ (by omega) (by omega)]
      simp only [List.nil_append, List.cons_append]
      rw [run_last (by omega) ⟨by simp, by simp; omega⟩]
      congr 3
      omega
  split
  · -- three bytes, none of them overlong or a surrogate
    next h =>
      have hlo : (if v / 4096 % 16 = 0 then 0xA0 else 0x80 : UInt8).toNat ≤ v / 64 % 64 + 0x80 := by
        split
        · simp; omega
        · simp
      have hhi : v / 64 % 64 + 0x80 ≤ (if v / 4096 % 16 = 13 then 0x9F else 0xBF : UInt8).toNat := by
        split <;> (simp; omega)
      rw [List.cons_append, run_cons, feed, start_three _ (by omega)]
      simp only [List.nil_append, List.cons_append]
      rw [run_more 0 (by omega) ⟨hlo, hhi⟩, run_last (by omega) ⟨by simp, by simp; omega⟩]
      congr 3
      omega
  · -- four bytes, up to the last code point
    next h =>
      have hlo : (if v / 262144 % 8 = 0 then 0x90 else 0x80 : UInt8).toNat ≤
          v / 4096 % 64 + 0x80 := by
        split
        · simp; omega
        · simp
      have hhi : v / 4096 % 64 + 0x80 ≤ (if v / 262144 % 8 = 4 then 0x8F else 0xBF : UInt8).toNat := by
        split <;> (simp; omega)
      rw [List.cons_append, run_cons, feed, start_four _ (by omega)]
      simp only [List.nil_append, List.cons_append]
      rw [run_more 1 (by omega) ⟨hlo, hhi⟩, run_more 0 (by omega) ⟨by simp, by simp; omega⟩,
        run_last (by omega) ⟨by simp, by simp; omega⟩]
      congr 3
      omega

lemma run_encode (s : List Char) : run .idle (encode s) = s.map some := by
  induction s with
  | nil => rfl
  | cons c s ih => rw [encode, List.flatMap_cons, run_utf8EncodeChar, List.map_cons, ← ih, encode]

/-- **A text is read from its bytes.** -/
theorem decodeLossy_encode (s : List Char) : decodeLossy (encode s) = s := by
  rw [decodeLossy, decode, run_encode, List.map_map]
  exact List.map_id s

lemma encode_injective : Function.Injective encode :=
  Function.LeftInverse.injective decodeLossy_encode

/-! ### Bytes without anything invalid are those of a text -/

lemma start_invalid : ∀ n < 0x100, (0x80 ≤ n ∧ n < 0xC2) ∨ 0xF5 ≤ n →
    start (.ofNat n) = ([none], .idle) := by
  decide +kernel

section Bytes

variable {value due n m k l : ℕ} {lo hi : UInt8} {bs : List UInt8} {s : List Char}

lemma exists_tail {b : UInt8} (hlo : 0x80 ≤ lo.toNat) (hhi : hi.toNat ≤ 0xBF)
    (h : lo ≤ b ∧ b ≤ hi) :
    ∃ n < 0x40, (lo.toNat ≤ n + 0x80 ∧ n + 0x80 ≤ hi.toNat) ∧ b = .ofNat (n + 0x80) := by
  rw [UInt8.le_iff_toNat_le, UInt8.le_iff_toNat_le] at h
  refine ⟨b.toNat - 0x80, by omega, by omega, ?_⟩
  rw [Nat.sub_add_cancel (by omega), UInt8.ofNat_toNat]

lemma exists_cons_of_run (hlo : 0x80 ≤ lo.toNat) (hhi : hi.toNat ≤ 0xBF)
    (h : run (.within due lo hi value) bs = s.map some) :
    ∃ n rest, bs = .ofNat (n + 0x80) :: rest ∧ n < 0x40 ∧
      (lo.toNat ≤ n + 0x80 ∧ n + 0x80 ≤ hi.toNat) := by
  rcases bs with - | ⟨b, rest⟩
  · cases s <;> cases h
  · by_cases hb : lo ≤ b ∧ b ≤ hi
    · obtain ⟨n, hn, hbounds, rfl⟩ := exists_tail hlo hhi hb
      exact ⟨n, rest, rfl, hn, hbounds⟩
    · rw [run_cons, feed_outside hb] at h
      cases s <;> cases h

lemma run_last_inv (hlo : 0x80 ≤ lo.toNat) (hhi : hi.toNat ≤ 0xBF)
    (h : run (.within 1 lo hi value) bs = s.map some) :
    ∃ n rest s', bs = .ofNat (n + 0x80) :: rest ∧ n < 0x40 ∧
      (lo.toNat ≤ n + 0x80 ∧ n + 0x80 ≤ hi.toNat) ∧
      s = Char.ofNat (64 * value + n) :: s' ∧ run .idle rest = s'.map some := by
  obtain ⟨n, rest, rfl, hn, hbounds⟩ := exists_cons_of_run hlo hhi h
  rw [run_last hn hbounds] at h
  rcases s with - | ⟨c, s'⟩
  · cases h
  · injection h with hc hrest
    exact ⟨n, rest, s', rfl, hn, hbounds, by rw [Option.some.inj hc], hrest⟩

lemma run_more_inv (hlo : 0x80 ≤ lo.toNat) (hhi : hi.toNat ≤ 0xBF)
    (h : run (.within (due + 2) lo hi value) bs = s.map some) :
    ∃ n rest, bs = .ofNat (n + 0x80) :: rest ∧ n < 0x40 ∧
      (lo.toNat ≤ n + 0x80 ∧ n + 0x80 ≤ hi.toNat) ∧
      run (.within (due + 1) 0x80 0xBF (64 * value + n)) rest = s.map some := by
  obtain ⟨n, rest, rfl, hn, hbounds⟩ := exists_cons_of_run hlo hhi h
  rw [run_more due hn hbounds] at h
  exact ⟨n, rest, rfl, hn, hbounds, h⟩

lemma toNat_val_ofNat (h : n.isValidChar) : (Char.ofNat n).val.toNat = n := by
  rw [Char.ofNat, dif_pos h]
  rfl

lemma utf8EncodeChar_one (hn : n < 0x80) : String.utf8EncodeChar (.ofNat n) = [.ofNat n] := by
  have hv : (Char.ofNat n).val.toNat = n := toNat_val_ofNat (.inl (by omega))
  simp only [String.utf8EncodeChar, hv]
  rw [if_pos (by omega)]

lemma utf8EncodeChar_two (hn : 2 ≤ n ∧ n < 0x20) (hm : m < 0x40) :
    String.utf8EncodeChar (.ofNat (64 * n + m)) = [.ofNat (n + 0xC0), .ofNat (m + 0x80)] := by
  have hv : (Char.ofNat (64 * n + m)).val.toNat = 64 * n + m :=
    toNat_val_ofNat (.inl (by omega))
  simp only [String.utf8EncodeChar, hv]
  rw [if_neg (by omega), if_pos (by omega)]
  congr <;> omega

lemma utf8EncodeChar_three (hn : n < 0x10) (hm : m < 0x40) (hk : k < 0x40)
    (hlow : n = 0 → 0x20 ≤ m) (hhigh : n = 13 → m < 0x20) :
    String.utf8EncodeChar (.ofNat (64 * (64 * n + m) + k)) =
      [.ofNat (n + 0xE0), .ofNat (m + 0x80), .ofNat (k + 0x80)] := by
  have hv : (Char.ofNat (64 * (64 * n + m) + k)).val.toNat = 64 * (64 * n + m) + k := by
    refine toNat_val_ofNat ?_
    by_cases h : n < 14
    · exact .inl (by omega)
    · exact .inr (by omega)
  simp only [String.utf8EncodeChar, hv]
  rw [if_neg (by omega), if_neg (by omega), if_pos (by omega)]
  congr <;> omega

lemma utf8EncodeChar_four (hn : n < 5) (hm : m < 0x40) (hk : k < 0x40) (hl : l < 0x40)
    (hlow : n = 0 → 0x10 ≤ m) (hhigh : n = 4 → m < 0x10) :
    String.utf8EncodeChar (.ofNat (64 * (64 * (64 * n + m) + k) + l)) =
      [.ofNat (n + 0xF0), .ofNat (m + 0x80), .ofNat (k + 0x80), .ofNat (l + 0x80)] := by
  have hv : (Char.ofNat (64 * (64 * (64 * n + m) + k) + l)).val.toNat =
      64 * (64 * (64 * n + m) + k) + l :=
    toNat_val_ofNat (.inr (by omega))
  simp only [String.utf8EncodeChar, hv]
  rw [if_neg (by omega), if_neg (by omega), if_neg (by omega)]
  congr <;> omega

/-- The bytes begin with those of the first character of the text, and the others are read as
the rest of it. -/
def BeginsWith (bytes : List UInt8) (s : List Char) : Prop :=
  ∃ c rest s', s = c :: s' ∧ bytes = String.utf8EncodeChar c ++ rest ∧
    run .idle rest = s'.map some

lemma beginsWith_one (hn : n < 0x80) (h : some (Char.ofNat n) :: run .idle bs = s.map some) :
    BeginsWith (.ofNat n :: bs) s := by
  rcases s with - | ⟨c, s'⟩
  · cases h
  · injection h with hc hrest
    refine ⟨c, bs, s', rfl, ?_, hrest⟩
    rw [← Option.some.inj hc, utf8EncodeChar_one hn]
    rfl

lemma beginsWith_two (hn : 2 ≤ n ∧ n < 0x20)
    (h : run (.within 1 0x80 0xBF n) bs = s.map some) :
    BeginsWith (.ofNat (n + 0xC0) :: bs) s := by
  obtain ⟨m, rest, s', rfl, hm, -, rfl, hrest⟩ := run_last_inv (by decide) (by decide) h
  refine ⟨_, rest, s', rfl, ?_, hrest⟩
  rw [utf8EncodeChar_two hn hm]
  rfl

lemma beginsWith_three (hn : n < 0x10)
    (h : run (.within 2 (if n = 0 then 0xA0 else 0x80) (if n = 13 then 0x9F else 0xBF) n) bs =
      s.map some) :
    BeginsWith (.ofNat (n + 0xE0) :: bs) s := by
  obtain ⟨m, bs, rfl, hm, hbounds, h⟩ :=
    run_more_inv (by split <;> decide) (by split <;> decide) h
  obtain ⟨k, rest, s', rfl, hk, -, rfl, hrest⟩ := run_last_inv (by decide) (by decide) h
  refine ⟨_, rest, s', rfl, ?_, hrest⟩
  rw [utf8EncodeChar_three hn hm hk]
  · rfl
  · rintro rfl
    simpa using hbounds.1
  · rintro rfl
    exact Nat.lt_succ_of_le (by simpa using hbounds.2)

lemma beginsWith_four (hn : n < 5)
    (h : run (.within 3 (if n = 0 then 0x90 else 0x80) (if n = 4 then 0x8F else 0xBF) n) bs =
      s.map some) :
    BeginsWith (.ofNat (n + 0xF0) :: bs) s := by
  obtain ⟨m, bs, rfl, hm, hbounds, h⟩ :=
    run_more_inv (by split <;> decide) (by split <;> decide) h
  obtain ⟨k, bs, rfl, hk, -, h⟩ := run_more_inv (by decide) (by decide) h
  obtain ⟨l, rest, s', rfl, hl, -, rfl, hrest⟩ := run_last_inv (by decide) (by decide) h
  refine ⟨_, rest, s', rfl, ?_, hrest⟩
  rw [utf8EncodeChar_four hn hm hk hl]
  · rfl
  · rintro rfl
    simpa using hbounds.1
  · rintro rfl
    exact Nat.lt_succ_of_le (by simpa using hbounds.2)

lemma beginsWith_of_run {b : UInt8} (h : run .idle (b :: bs) = s.map some) :
    BeginsWith (b :: bs) s := by
  obtain ⟨n, hn, rfl⟩ : ∃ n < 0x100, b = .ofNat n := ⟨b.toNat, b.toNat_lt, UInt8.ofNat_toNat.symm⟩
  rw [run_cons, feed] at h
  -- the ranges of first bytes, as `start` tells them apart
  by_cases hone : n < 0x80
  · rw [start_one n hone] at h
    exact beginsWith_one hone h
  by_cases hinvalid : n < 0xC2 ∨ 0xF5 ≤ n
  · rw [start_invalid n hn (by omega)] at h
    cases s <;> cases h
  by_cases htwo : n < 0xE0
  · obtain ⟨n, rfl⟩ : ∃ d, n = d + 0xC0 := ⟨n - 0xC0, by omega⟩
    rw [start_two n (by omega) (by omega)] at h
    exact beginsWith_two (by omega) h
  by_cases hthree : n < 0xF0
  · obtain ⟨n, rfl⟩ : ∃ d, n = d + 0xE0 := ⟨n - 0xE0, by omega⟩
    rw [start_three n (by omega)] at h
    exact beginsWith_three (by omega) h
  · obtain ⟨n, rfl⟩ : ∃ d, n = d + 0xF0 := ⟨n - 0xF0, by omega⟩
    rw [start_four n (by omega)] at h
    exact beginsWith_four (by omega) h

end Bytes

lemma eq_encode_of_run {bytes : List UInt8} {s : List Char} (h : run .idle bytes = s.map some) :
    bytes = encode s := by
  induction s generalizing bytes with
  | nil =>
    rcases bytes with - | ⟨b, bs⟩
    · rfl
    · obtain ⟨c, rest, s', hs, -⟩ := beginsWith_of_run h
      cases hs
  | cons c s ih =>
    rcases bytes with - | ⟨b, bs⟩
    · cases h
    · obtain ⟨c', rest, s', hs, hbytes, hrest⟩ := beginsWith_of_run h
      cases hs
      rw [hbytes, ih hrest, encode, encode, List.flatMap_cons]

lemma mapM_id_eq_some_iff {α : Type} {xs : List (Option α)} {s : List α} :
    xs.mapM id = some s ↔ xs = s.map some := by
  induction xs generalizing s with
  | nil => cases s <;> simp
  | cons x xs ih =>
    cases s <;> simp [List.mapM_cons, Option.bind_eq_some_iff, ih]

/-- **What is read strictly are the bytes of a text**, and nothing else. -/
theorem decode?_eq_some_iff {bytes : List UInt8} {s : List Char} :
    decode? bytes = some s ↔ bytes = encode s := by
  rw [decode?, mapM_id_eq_some_iff, decode]
  refine ⟨eq_encode_of_run, ?_⟩
  rintro rfl
  exact run_encode s

/-! ### On the way to a character -/

/-- Whatever character comes of the state, it is none of ASCII: the least code point that the
bytes so far and the least next byte allow lies beyond. -/
def State.Beyond : State → Prop
  | .idle => True
  | .within due lo _ value =>
    0 < due ∧ 0x80 ≤ lo.toNat ∧ 0x80 ≤ (64 * value + (lo.toNat - 0x80)) * 64 ^ (due - 1)

lemma beyond_idle : State.idle.Beyond := trivial

lemma beyond_start (b : UInt8) : (start b).2.Beyond := by
  unfold start
  split
  · trivial
  split
  · trivial
  -- the lower bounds are those of UTF-8: two bytes from C2, three from E0 A0, four from F0 90
  split
  · next h _ =>
    rw [UInt8.lt_iff_toNat_lt] at h
    refine ⟨by decide, by decide, ?_⟩
    simp at h ⊢
    omega
  split
  · refine ⟨by decide, by split <;> decide, ?_⟩
    split
    · simp; omega
    · next h _ hE =>
      rw [UInt8.lt_iff_toNat_lt] at h
      rw [← UInt8.toNat_inj] at hE
      simp at h hE ⊢
      omega
  split
  · refine ⟨by decide, by split <;> decide, ?_⟩
    split
    · simp; omega
    · next h _ hF =>
      rw [UInt8.lt_iff_toNat_lt] at h
      rw [← UInt8.toNat_inj] at hF
      simp at h hF ⊢
      omega
  · trivial

lemma beyond_feed {s : State} (hs : s.Beyond) (b : UInt8) : (feed s b).2.Beyond := by
  cases s with
  | idle => exact beyond_start b
  | within due lo hi value =>
    by_cases h : lo ≤ b ∧ b ≤ hi
    · rw [feed_inside h]
      split
      · trivial
      · next hdue =>
        obtain ⟨hpos, hlo, hmin⟩ := hs
        obtain ⟨due, rfl⟩ : ∃ d, due = d + 2 := ⟨due - 2, by omega⟩
        have hb : lo.toNat ≤ b.toNat := UInt8.le_iff_toNat_le.mp h.1
        refine ⟨Nat.succ_pos due, by decide, ?_⟩
        calc 0x80 ≤ (64 * value + (lo.toNat - 0x80)) * 64 ^ (due + 1) := hmin
          _ ≤ (64 * value + (b.toNat - 0x80)) * 64 ^ (due + 1) :=
            Nat.mul_le_mul_right _ (by omega)
          _ = (64 * (64 * value + (b.toNat - 0x80)) + (0x80 - 0x80)) * 64 ^ due := by
            rw [Nat.pow_succ', ← Nat.mul_assoc, Nat.mul_comm _ 64, Nat.sub_self, Nat.add_zero]
    · rw [feed_outside h]
      exact beyond_start b

end JFlexReport.Text.Utf8
