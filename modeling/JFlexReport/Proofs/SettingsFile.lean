import Mathlib.Tactic.Lemma
import JFlexReport.Settings.Reading

/-!
The settings file nearest to a directory.

A directory is left for the one above it as long as it holds no settings file. What is found
on the way up is found whether or not the directories themselves exist: only the candidate
has to be a file.
-/

namespace JFlexReport

lemma Path.ancestors_eq (p : Path) :
    p.ancestors = p :: (p.parent?.map Path.ancestors).getD [] := by
  rw [Path.ancestors]
  congr 1
  split
  · next q h => simp only [h, Option.map_some, Option.getD_some]
  · next h => simp only [h, Option.map_none, Option.getD_none]

namespace Settings

/-- The settings file in the directory or in the nearest one above it that has one. -/
inductive Nearest (v : FileView) : Path → Path → Prop
  | here {d : Path} (h : v.isFile (d.join fileName) = true) : Nearest v d (d.join fileName)
  | above {d d' p : Path} (h : v.isFile (d.join fileName) = false) (hd : d.parent? = some d')
    (hp : Nearest v d' p) : Nearest v d p

variable {v : FileView} {d p : Path}

lemma discover_eq (v : FileView) (d : Path) :
    discover v d =
      if v.isFile (d.join fileName) then some (d.join fileName)
      else d.parent?.bind (discover v) := by
  rw [discover, Path.ancestors_eq, List.map_cons, List.find?_cons]
  split
  · next h => rw [if_pos h]
  · next h =>
    rw [h, if_neg Bool.false_ne_true]
    cases d.parent? <;> rfl

lemma nearest_of_discover (h : discover v d = some p) : Nearest v d p := by
  induction hn : d.text.length using Nat.strongRecOn generalizing d with
  | ind n ih =>
    rw [discover_eq] at h
    split at h
    · next hfile =>
      cases h
      exact .here hfile
    · next hfile =>
      obtain ⟨d', hd, h⟩ := Option.bind_eq_some_iff.mp h
      exact .above (by simpa using hfile) hd (ih _ (hn ▸ Path.parent?_shorter hd) h rfl)

/-- **The search finds the nearest settings file.** -/
theorem discover_eq_some_iff : discover v d = some p ↔ Nearest v d p := by
  refine ⟨nearest_of_discover, fun h => ?_⟩
  induction h with
  | here h => rw [discover_eq, if_pos h]
  | above h hd _ ih => rw [discover_eq, h, if_neg Bool.false_ne_true, hd, Option.bind_some, ih]

end Settings

end JFlexReport
