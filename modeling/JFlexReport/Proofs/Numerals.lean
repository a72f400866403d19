import Mathlib.Data.List.TakeWhile
import Mathlib.Tactic.Lemma
import JFlexReport.Text.Numeral

/-!
Numerals in front of other text.

A numeral ends where the first character stands that is no digit, so the number can be told
from what follows it. A zero only begins the numeral of zero itself.
-/

namespace JFlexReport.Text

section Append

variable {n n' : ℕ} {s s' : List Char}

lemma takeWhile_numeral_append (hs : ∀ c ∈ s.head?, c.isDigit = false) :
    (numeral n ++ s).takeWhile Char.isDigit = numeral n := by
  rw [List.takeWhile_append_of_pos fun c hc => isDigit_of_mem_numeral hc]
  rcases s with _ | ⟨c, s⟩
  · simp
  · rw [List.takeWhile_cons_of_neg (by simpa using hs c), List.append_nil]

lemma dropWhile_numeral_append (hs : ∀ c ∈ s.head?, c.isDigit = false) :
    (numeral n ++ s).dropWhile Char.isDigit = s := by
  have h := List.takeWhile_append_dropWhile (p := Char.isDigit) (l := numeral n ++ s)
  rw [takeWhile_numeral_append hs] at h
  exact List.append_cancel_left h

/-- A number is read up to what is no digit. -/
lemma numeral_append_inj (hs : ∀ c ∈ s.head?, c.isDigit = false)
    (hs' : ∀ c ∈ s'.head?, c.isDigit = false) (h : numeral n ++ s = numeral n' ++ s') :
    n = n' ∧ s = s' := by
  have hn := takeWhile_numeral_append (n := n) hs
  rw [h, takeWhile_numeral_append hs'] at hn
  rw [hn] at h
  refine ⟨?_, List.append_cancel_left h⟩
  rw [← digitsValue_numeral n, ← hn, digitsValue_numeral]

end Append

lemma eq_nil_of_numeral_eq {n : ℕ} {ds : List Char} (h : numeral n = '0' :: ds) :
    n = 0 ∧ ds = [] := by
  fun_induction numeral n generalizing ds with
  | case1 n hn =>
    obtain ⟨hd, rfl⟩ := List.cons.inj h
    have := digitValue_digitChar n hn
    rw [hd] at this
    exact ⟨this.symm, rfl⟩
  | case2 n hn ih =>
    obtain ⟨d, ds', hds⟩ := List.exists_cons_of_ne_nil (numeral_ne_nil (n / 10))
    rw [hds, List.cons_append] at h
    have := (ih (by rw [hds, (List.cons.inj h).1])).1
    omega

end JFlexReport.Text
