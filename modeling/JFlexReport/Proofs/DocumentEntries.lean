import Mathlib.Data.List.Nodup
import Mathlib.Tactic.Lemma
import JFlexReport.Toml.Document

/-!
The entries of a document.

A statement puts an entry under a free key, changes what stands under a key, or moves an entry
to the end. So a document has at most one entry for each key, and it does not matter in which
order one looks for it.
-/

namespace JFlexReport.Toml

namespace Entries

variable {es es' : Entries} {k : String} {v : Node}

/-- The keys, in the order of the entries. -/
def keys (es : Entries) : List String := es.map Prod.fst

lemma keys_append (es : Entries) (k : String) (v : Node) :
    (es.append k v).keys = es.keys ++ [k] := by
  rw [keys, append, List.map_append]
  rfl

lemma keys_replace (es : Entries) (k : String) (v : Node) : (es.replace k v).keys = es.keys := by
  rw [keys, replace, List.map_map]
  refine List.map_congr_left fun e _ => ?_
  by_cases h : e.1 = k
  · rw [Function.comp_apply, if_pos h, h]
  · rw [Function.comp_apply, if_neg h]

lemma lookup_eq_none_iff : es.lookup k = none ↔ k ∉ es.keys := by
  rw [List.lookup_eq_none_iff, keys, List.mem_map]
  constructor
  · rintro h ⟨e, he, rfl⟩
    simpa using h e he
  · intro h e he
    have hne : k ≠ e.1 := fun heq => h ⟨e, he, heq.symm⟩
    simpa using hne

lemma lookup_append (es : Entries) (k' : String) :
    (es.append k v).lookup k' = (es.lookup k').or (if k' = k then some v else none) := by
  rw [append, List.lookup_append, List.lookup_cons, List.lookup_nil]
  by_cases h : k' = k
  · rw [if_pos h, h, beq_self_eq_true]
  · rw [if_neg h, beq_false_of_ne h]

lemma lookup_eq_some_iff (h : es.keys.Nodup) : es.lookup k = some v ↔ (k, v) ∈ es := by
  induction es with
  | nil => simp
  | cons e es ih =>
    obtain ⟨k', v'⟩ := e
    obtain ⟨hnew, hrest⟩ := List.nodup_cons.mp h
    rw [List.lookup_cons, List.mem_cons]
    by_cases hk : k = k'
    · subst hk
      have hnot : (k, v) ∉ es := fun hmem => hnew (List.mem_map.mpr ⟨_, hmem, rfl⟩)
      simp [hnot, eq_comm]
    · rw [beq_false_of_ne hk]
      simpa [hk] using ih hrest

lemma nodup_front {front rest : Entries} (h : (front ++ rest).keys.Nodup) : front.keys.Nodup := by
  rw [keys, List.map_append] at h
  exact (List.nodup_append.mp h).1

/-! ### What a statement does to the keys -/

lemma nodup_append (h : es.keys.Nodup) (hk : es.lookup k = none) (v : Node) :
    (es.append k v).keys.Nodup := by
  rw [keys_append, List.nodup_append]
  refine ⟨h, List.nodup_singleton k, fun a ha b hb => ?_⟩
  rw [List.mem_singleton.mp hb]
  exact fun heq => lookup_eq_none_iff.mp hk (heq ▸ ha)

lemma nodup_replace (h : es.keys.Nodup) (k : String) (v : Node) : (es.replace k v).keys.Nodup := by
  rw [keys_replace]
  exact h

/-- The value that replaces another may come from a change further down. -/
lemma nodup_replaced {α : Type} {o : Option α} {f : α → Node} (h : es.keys.Nodup)
    (hbind : (o.bind fun x => some (es.replace k (f x))) = some es') : es'.keys.Nodup := by
  obtain ⟨x, -, hx⟩ := Option.bind_eq_some_iff.mp hbind
  cases hx
  exact nodup_replace h k _

lemma nodup_appended {α : Type} {o : Option α} {f : α → Node} (h : es.keys.Nodup)
    (hk : es.lookup k = none) (hbind : (o.bind fun x => some (es.append k (f x))) = some es') :
    es'.keys.Nodup := by
  obtain ⟨x, -, hx⟩ := Option.bind_eq_some_iff.mp hbind
  cases hx
  exact nodup_append h hk _

lemma nodup_put {ps : List String} (h : es.keys.Nodup) (hput : es.put ps k v = some es') :
    es'.keys.Nodup := by
  cases ps with
  | nil =>
    rw [put, holds] at hput
    split at hput
    · cases hput
    · next hnew =>
      cases hput
      exact nodup_append h (Option.not_isSome_iff_eq_none.mp hnew) v
  | cons p ps =>
    rw [put] at hput
    split at hput
    · next hnone => exact nodup_appended h hnone hput
    · exact nodup_replaced h hput
    · split at hput
      · cases hput
      · exact nodup_replaced h hput
    · split at hput
      · cases hput
      · exact nodup_replaced h hput
    · cases hput

/-- A change somewhere on a path leaves the keys alone, or it is a change of the entries
themselves. -/
lemma nodup_atPath {f : Entries → Option Entries} {ps : List String}
    (hf : ∀ es', f es = some es' → es'.keys.Nodup) (h : es.keys.Nodup)
    (hat : es.atPath f ps = some es') : es'.keys.Nodup := by
  cases ps with
  | nil => exact hf _ hat
  | cons p ps =>
    rw [atPath] at hat
    split at hat
    · next hnone => exact nodup_appended h hnone hat
    · exact nodup_replaced h hat
    · exact nodup_replaced h hat
    · cases hat

lemma nodup_openTable (h : es.keys.Nodup) (hopen : es.openTable k = some es') :
    es'.keys.Nodup := by
  unfold openTable at hopen
  split at hopen
  · next hnone =>
    cases hopen
    exact nodup_append h hnone _
  · cases hopen
    -- the old entry is gone before the new one comes
    have hsub : (es.erase k).keys.Sublist es.keys := (List.filter_sublist).map Prod.fst
    refine nodup_append (h.sublist hsub) (lookup_eq_none_iff.mpr ?_) _
    rintro hk
    obtain ⟨e, he, rfl⟩ := List.mem_map.mp hk
    simpa using (List.mem_filter.mp he).2
  · cases hopen

lemma nodup_openElement (h : es.keys.Nodup) (hopen : es.openElement k = some es') :
    es'.keys.Nodup := by
  unfold openElement at hopen
  split at hopen
  · next hnone =>
    cases hopen
    exact nodup_append h hnone _
  · cases hopen
    exact nodup_replace h _ _
  · cases hopen

lemma nodup_putKey {ks : List String} (h : es.keys.Nodup)
    (hput : Compound.putKey es ks v = some es') : es'.keys.Nodup := by
  unfold Compound.putKey at hput
  split at hput
  · exact nodup_put h hput
  · cases hput

end Entries

/-- **A statement keeps the keys distinct.** -/
lemma Draft.nodup_add {d d' : Draft} {x : Statement} (h : d.entries.keys.Nodup)
    (hadd : d.add x = some d') : d'.entries.keys.Nodup := by
  cases x with
  | pair key v =>
    obtain ⟨es, hes, rfl⟩ := Option.map_eq_some_iff.mp hadd
    exact Entries.nodup_atPath (fun _ => Entries.nodup_putKey h) h hes
  | table path =>
    rw [add] at hadd
    split at hadd
    · obtain ⟨es, hes, rfl⟩ := Option.map_eq_some_iff.mp hadd
      exact Entries.nodup_atPath (fun _ => Entries.nodup_openTable h) h hes
    · cases hadd
  | element path =>
    rw [add] at hadd
    split at hadd
    · obtain ⟨es, hes, rfl⟩ := Option.map_eq_some_iff.mp hadd
      exact Entries.nodup_atPath (fun _ => Entries.nodup_openElement h) h hes
    · cases hadd

lemma Draft.nodup_addAll {d d' : Draft} {xs : List Statement} (h : d.entries.keys.Nodup)
    (hadd : xs.foldlM Draft.add d = some d') : d'.entries.keys.Nodup := by
  induction xs generalizing d with
  | nil =>
    cases hadd
    exact h
  | cons x xs ih =>
    rw [List.foldlM_cons] at hadd
    obtain ⟨d₁, hfirst, hrest⟩ := Option.bind_eq_some_iff.mp hadd
    exact ih (d.nodup_add h hfirst) hrest

/-- **The keys of a document are distinct.** -/
theorem Entries.nodup_ofDocument {s : List Char} {es : Entries}
    (h : Entries.ofDocument s = some es) : es.keys.Nodup := by
  obtain ⟨xs, -, hxs⟩ := Option.bind_eq_some_iff.mp h
  obtain ⟨d, hd, rfl⟩ := Option.map_eq_some_iff.mp hxs
  have hempty : ({} : Draft).entries.keys.Nodup := List.nodup_nil
  exact Draft.nodup_addAll hempty hd

end JFlexReport.Toml
