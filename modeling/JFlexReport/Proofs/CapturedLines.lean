import Mathlib.Data.List.Basic
import JFlexReport.CommandLine.Run
import JFlexReport.Proofs.Breaks
import JFlexReport.Proofs.Encoding

/-!
The lines of a captured file.

A file is decoded as a whole and cut into lines afterwards. A line break is a single byte that
stands in no longer character, so the order does not matter: the lines are those of the bytes,
each decoded on its own. Bytes that are no character damage the line that they stand in and
no other, and a line that is the encoding of a text is read as this text.
-/

namespace JFlexReport

open Text

namespace Text.Utf8

/-- The bytes of line breaks. -/
def isBreakByte (b : UInt8) : Bool := b == 0x0A || b == 0x0D

lemma isBreak_ofNat {n : ℕ} (h : 0x80 ≤ n) : isBreak (Char.ofNat n) = false := by
  by_cases hn : n.isValidChar
  · have htoNat : (Char.ofNat n).toNat = n := by rw [Char.ofNat, dif_pos hn]; rfl
    have hne (c : Char) (hc : c.toNat < 0x80) : Char.ofNat n ≠ c := by
      rintro rfl
      omega
    simp [isBreak, hne '\n' (by decide), hne '\r' (by decide)]
  · rw [Char.ofNat, dif_neg hn]
    decide

lemma isBreak_mark : isBreak '\ufffd' = false := by
  decide

lemma isUnbroken_start {b : UInt8} (hb : isBreakByte b = false) :
    IsUnbroken (lossy (start b).1) := by
  have hascii : ∀ n < 0x80, (n == 0x0A || n == 0x0D) = false → isBreak (Char.ofNat n) = false := by
    decide
  have hmark : IsUnbroken (lossy [none]) := List.forall_mem_singleton.mpr isBreak_mark
  unfold start
  split
  · next h =>
    have hn : (b.toNat == 0x0A || b.toNat == 0x0D) = false := by
      simpa [isBreakByte, ← UInt8.toNat_inj] using hb
    exact List.forall_mem_singleton.mpr (hascii b.toNat (UInt8.lt_iff_toNat_lt.mp h) hn)
  repeat' split
  all_goals first | exact hmark | exact List.forall_mem_nil _

lemma isUnbroken_feed {s : State} (hs : s.Beyond) {b : UInt8} (hb : isBreakByte b = false) :
    IsUnbroken (lossy (feed s b).1) := by
  cases s with
  | idle => exact isUnbroken_start hb
  | within due lo hi value =>
    by_cases h : lo ≤ b ∧ b ≤ hi
    · rw [feed_inside h]
      split
      · next hdue =>
        obtain ⟨-, -, hmin⟩ := hs
        have hlo : lo.toNat ≤ b.toNat := UInt8.le_iff_toNat_le.mp h.1
        rw [hdue, Nat.sub_self, Nat.pow_zero, Nat.mul_one] at hmin
        have hc : isBreak (Char.ofNat (64 * value + (b.toNat - 0x80))) = false :=
          isBreak_ofNat (by omega)
        simpa [lossy, IsUnbroken] using hc
      · exact List.forall_mem_nil _
    · rw [feed_outside h]
      exact List.forall_mem_cons.mpr ⟨isBreak_mark, isUnbroken_start hb⟩

lemma run_break {s : State} (hs : s.Beyond) {b : UInt8} (hb : isBreakByte b) :
    ∃ c, isBreak c ∧ ∀ bs, lossy (run s (b :: bs)) = lossy (run s []) ++ c :: decodeLossy bs := by
  obtain ⟨c, hc, hstart, hascii⟩ :
      ∃ c, isBreak c ∧ start b = ([some c], .idle) ∧ b.toNat < 0x80 := by
    rw [isBreakByte, Bool.or_eq_true, beq_iff_eq, beq_iff_eq] at hb
    rcases hb with rfl | rfl
    · exact ⟨'\n', by decide, by decide, by decide⟩
    · exact ⟨'\r', by decide, by decide, by decide⟩
  refine ⟨c, hc, fun bs => ?_⟩
  cases s with
  | idle =>
    rw [run_cons, feed, hstart]
    rfl
  | within due lo hi value =>
    have hout : ¬(lo ≤ b ∧ b ≤ hi) := by
      rintro ⟨h, -⟩
      have hlo := hs.2.1
      rw [UInt8.le_iff_toNat_le] at h
      omega
    rw [run_cons, feed_outside hout, hstart]
    rfl

/-! ### Lines -/

lemma ne_idle_of_feed {s : State} {b : UInt8} (h : (feed s b).1 = []) : (feed s b).2 ≠ .idle := by
  cases s with
  | idle =>
    unfold feed start at h ⊢
    repeat' split
    all_goals simp_all
  | within due lo hi value =>
    by_cases hin : lo ≤ b ∧ b ≤ hi
    · rw [feed_inside hin] at h ⊢
      split
      · next hdue => rw [if_pos hdue] at h; simp at h
      · exact State.noConfusion
    · rw [feed_outside hin] at h
      simp at h

/-- No break comes next, unless the next byte is one and stands between characters. -/
lemma head?_run {s : State} (hs : s.Beyond) {bs : List UInt8}
    (h : ∀ b ∈ bs.head?, isBreakByte b → s ≠ .idle) :
    ∀ c ∈ (lossy (run s bs)).head?, isBreak c = false := by
  induction bs generalizing s with
  | nil =>
    cases s with
    | idle => simp [run, lossy]
    | within due lo hi value => simp [run, lossy, isBreak_mark]
  | cons b bs ih =>
    by_cases hb : isBreakByte b
    · cases s with
      | idle => exact absurd rfl (h b rfl hb)
      | within due lo hi value =>
        obtain ⟨c, -, hrun⟩ := run_break hs hb
        rw [hrun]
        simp [run, lossy, isBreak_mark]
    · rw [Bool.not_eq_true] at hb
      rcases hread : (feed s b).1 with _ | ⟨d, ds⟩
      · rw [run_cons, hread, List.nil_append]
        exact ih (beyond_feed hs b) fun _ _ _ => ne_idle_of_feed hread
      · have hd := isUnbroken_feed hs hb
        rw [hread] at hd
        rw [run_cons, hread]
        simpa [lossy] using hd (d.getD '\ufffd') (by simp [lossy])

lemma head?_decodeLossy (bs : List UInt8) :
    (decodeLossy bs).head?.any isBreak = bs.head?.any isBreakByte := by
  rcases bs with _ | ⟨b, bs⟩
  · rfl
  by_cases hb : isBreakByte b
  · obtain ⟨c, hc, hrun⟩ := run_break beyond_idle hb
    rw [decodeLossy, decode, ← lossy, hrun]
    simp [run, lossy, hb, hc]
  · have h : ∀ c ∈ (lossy (run .idle (b :: bs))).head?, isBreak c = false :=
      head?_run beyond_idle (by simpa using hb)
    rw [decodeLossy, decode, ← lossy]
    cases hhead : (lossy (run .idle (b :: bs))).head? with
    | none => simp [hb]
    | some c => simp [hb, h c hhead]

lemma isUnbroken_run_nil (s : State) : IsUnbroken (lossy (run s [])) := by
  cases s with
  | idle => exact List.forall_mem_nil _
  | within due lo hi value => exact List.forall_mem_singleton.mpr isBreak_mark

/-- **Cutting and decoding commute**, in whatever state the text begins. -/
theorem splitRuns_run {s : State} (hs : s.Beyond) (bs : List UInt8) :
    ∃ p ps, splitRuns isBreakByte bs = p :: ps ∧
      splitRuns isBreak (lossy (run s bs)) = lossy (run s p) :: ps.map decodeLossy := by
  induction bs generalizing s with
  | nil =>
    have h := splitRuns_append (isUnbroken_run_nil s) []
    rw [List.append_nil] at h
    exact ⟨[], [], rfl, by rw [h]; simp [splitRuns]⟩
  | cons b bs ih =>
    by_cases hb : isBreakByte b
    · obtain ⟨c, hc, hrun⟩ := run_break hs hb
      obtain ⟨p, ps, hsplit, hread⟩ := ih beyond_idle
      have hread' : splitRuns isBreak (decodeLossy bs) = decodeLossy p :: ps.map decodeLossy := hread
      rw [hrun, splitRuns_append (isUnbroken_run_nil s), splitRuns, splitRuns, if_pos hc, if_pos hb,
        head?_decodeLossy]
      by_cases hrest : bs.head?.any isBreakByte
      · -- the break goes on, so the first piece behind it is empty
        obtain ⟨d, bs, rfl⟩ : ∃ d ds, bs = d :: ds := by
          rcases bs with _ | ⟨d, ds⟩
          · simp at hrest
          · exact ⟨d, ds, rfl⟩
        have hd : isBreakByte d := by simpa using hrest
        obtain ⟨q, qs, hq⟩ := splitRuns_of_sep hd bs
        obtain ⟨rfl, rfl⟩ := List.cons.inj (hsplit.symm.trans hq)
        refine ⟨[], q :: qs, by rw [if_pos hrest, hq], ?_⟩
        rw [if_pos hrest, hread', List.modifyHead_cons]
        simp [decodeLossy, decode, run]
      · refine ⟨[], p :: ps, by rw [if_neg hrest, hsplit], ?_⟩
        rw [if_neg hrest, hread', List.modifyHead_cons, List.append_nil, List.map_cons]
    · rw [Bool.not_eq_true] at hb
      obtain ⟨p, ps, hsplit, hread⟩ := ih (beyond_feed hs b)
      refine ⟨b :: p, ps, by rw [splitRuns, if_neg (by simp [hb]), hsplit, List.modifyHead_cons], ?_⟩
      rw [run_cons, run_cons, lossy_append, lossy_append,
        splitRuns_append (isUnbroken_feed hs hb), hread, List.modifyHead_cons]

/-- **The lines of decoded bytes** are those of the bytes, each decoded on its own. -/
theorem lines_decodeLossy (bs : List UInt8) :
    lines (decodeLossy bs) = (splitRuns isBreakByte bs).map decodeLossy := by
  obtain ⟨p, ps, hsplit, hread⟩ := splitRuns_run beyond_idle bs
  rw [hsplit]
  exact hread

end Text.Utf8

namespace CommandLine

open Utf8

/-- **The lines of a captured file** are the lines of its bytes, each decoded on its own; one that
is the encoding of a text arrives as this text, whatever the others are. -/
theorem lines_captured {files : FileView} {p : Path} {bytes : List UInt8}
    (h : files.readBytes p = .ok bytes) :
    ∃ text, capture? files (some p) = some text ∧
      lines text.toList = (splitRuns isBreakByte bytes).map decodeLossy ∧
      ∀ (k : ℕ) (l : Line), (splitRuns isBreakByte bytes)[k]? = some (encode l) →
        (lines text.toList)[k]? = some l := by
  have hlines : lines (String.ofList (decodeLossy bytes)).toList =
      (splitRuns isBreakByte bytes).map decodeLossy := by
    rw [String.toList_ofList, lines_decodeLossy]
  refine ⟨String.ofList (decodeLossy bytes), by rw [capture?, h], hlines, fun k l hl => ?_⟩
  rw [hlines, List.getElem?_map, hl, Option.map_some, decodeLossy_encode]

/-- A character that is cut off by a break, a surrogate, and a byte that continues nothing; the
line between them is whole. -/
theorem lines_captured_damaged :
    let bytes : List UInt8 :=
      [0xF0, 0x9F, 0x98, 0x0A, 0xC3, 0xA9, 0x5E, 0x0D, 0x0A, 0xED, 0xA0, 0x80, 0x0A, 0xBF, 0x41]
    let files : FileView := fun _ => .ok (.file (.ok bytes))
    files.readBytes ⟨"log"⟩ = .ok bytes ∧
      (splitRuns isBreakByte bytes)[1]? = some (encode ['é', '^']) ∧
      ∃ text, capture? files (some ⟨"log"⟩) = some text ∧
        lines text.toList =
          [['\ufffd'], ['é', '^'], ['\ufffd', '\ufffd', '\ufffd'], ['\ufffd', 'A']] ∧
        (lines text.toList)[1]? = some ['é', '^'] := by
  intro bytes files
  have hread : files.readBytes ⟨"log"⟩ = .ok bytes := rfl
  have hwhole : (splitRuns isBreakByte bytes)[1]? = some (encode ['é', '^']) := by decide
  obtain ⟨text, htext, hlines, hline⟩ := lines_captured hread
  exact ⟨hread, hwhole, text, htext, by rw [hlines]; decide, hline 1 ['é', '^'] hwhole⟩

end CommandLine

end JFlexReport
