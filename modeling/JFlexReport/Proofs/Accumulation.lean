import JFlexReport.Proofs.Shape

/-!
Several texts, one after another.

What is already there has no say in how a text is read: a scan puts its messages behind the
others, and every decision of it is about lines of its own text. So a block that one text
leaves open stays open, whatever the next one begins with.
-/

namespace JFlexReport

open Text Log

namespace Messages

lemma get_merge (a b : Messages) (k : Category) : (a.merge b).get k = a.get k ++ b.get k := by
  cases k <;> rfl

lemma get_prefix_merge (a b : Messages) (k : Category) : a.get k <+: (a.merge b).get k := by
  rw [get_merge]
  exact List.prefix_append _ _

end Messages

namespace Console

/-- Adds the messages of several texts to those of earlier texts. -/
def parseEach (raws : List String) (ms : Messages) : Logged Messages :=
  raws.foldlM (fun ms raw => parseInto raw ms) ms

lemma parseEach_cons (raw : String) (raws : List String) (ms : Messages) :
    parseEach (raw :: raws) ms =
      (parseEach raws (ms.merge (parse raw).value)).after (parse raw).records := by
  rw [parseEach, List.foldlM_cons, parseInto_eq]
  rfl

lemma parseEach_eq (raws : List String) (ms : Messages) :
    parseEach raws ms =
      ⟨(raws.map fun raw => (parse raw).value).foldl Messages.merge ms,
        raws.flatMap fun raw => (parse raw).records⟩ := by
  induction raws generalizing ms with
  | nil => rfl
  | cons raw raws ih => rw [parseEach_cons, ih]; rfl

lemma parseEach_merge (raws : List String) (a b : Messages) :
    parseEach raws (a.merge b) =
      ⟨a.merge (parseEach raws b).value, (parseEach raws b).records⟩ := by
  induction raws generalizing b with
  | nil => rfl
  | cons raw raws ih => rw [parseEach_cons, parseEach_cons, Messages.merge_assoc, ih]; rfl

lemma value_parseEach_append (earlier later : List String) (ms : Messages) :
    (parseEach (earlier ++ later) ms).value =
      (parseEach earlier ms).value.merge (parseEach later .empty).value :=
  calc (parseEach (earlier ++ later) ms).value
      = (parseEach later (parseEach earlier ms).value).value := by
        simp only [parseEach_eq, List.map_append, List.foldl_append]
    _ = (parseEach earlier ms).value.merge (parseEach later .empty).value := by
        rw [← Messages.merge_empty (parseEach earlier ms).value, parseEach_merge,
          Messages.merge_empty]

lemma parseStreams_eq_parseEach (stdout stderr : String) :
    parseStreams stdout stderr = parseEach [stdout, stderr] .empty := by
  have h : parseStreams stdout stderr =
      (parseInto stderr (parse stdout).value).after (parse stdout).records := rfl
  rw [h, parseInto_eq, parseEach_eq]
  simp [Logged.after]

/-- An error of a block whose four lines are lines of the text, one behind the other. -/
def ReportedIn (raw : String) (e : Message) : Prop :=
  ∃ n m t c p, (Segment.block n m t c p).Sits (lines raw.toList) ∧ e = blockError m t p

/-- **No text reaches into another**: each adds what it holds on its own, behind all that was
there, and every error is about lines of one text. -/
theorem parseEach_separate (raws : List String) (acc : Messages) :
    parseEach raws acc =
        ⟨(raws.map fun raw => (parse raw).value).foldl Messages.merge acc,
          raws.flatMap fun raw => (parse raw).records⟩ ∧
      (∀ earlier later, raws = earlier ++ later →
        (parseEach raws acc).value =
            (parseEach earlier acc).value.merge (parseEach later .empty).value ∧
          ∀ k, acc.get k <+: (parseEach earlier acc).value.get k ∧
            (parseEach earlier acc).value.get k <+: (parseEach raws acc).value.get k) ∧
      ∀ stdout stderr,
        parseStreams stdout stderr = parseEach [stdout, stderr] .empty ∧
          (parseStreams stdout stderr).value = (parse stdout).value.merge (parse stderr).value ∧
          (∀ e ∈ (parse stdout).value.errors, ReportedIn stdout e) ∧
          ∀ e ∈ (parse stderr).value.errors, ReportedIn stderr e := by
  refine ⟨parseEach_eq raws acc, ?_, fun stdout stderr => ⟨?_, ?_, ?_, ?_⟩⟩
  · rintro earlier later rfl
    have happend := value_parseEach_append earlier later acc
    refine ⟨happend, fun k => ⟨?_, ?_⟩⟩
    · have h := value_parseEach_append [] earlier acc
      rw [List.nil_append] at h
      rw [h]
      exact Messages.get_prefix_merge _ _ k
    · rw [happend]
      exact Messages.get_prefix_merge _ _ k
  · exact parseStreams_eq_parseEach stdout stderr
  · exact value_parseStreams stdout stderr
  · exact fun e => exists_block_of_mem
  · exact fun e => exists_block_of_mem

/-- A block that one text leaves open takes no line of the next. -/
theorem parseEach_separate_open :
    let first := "Error in file \"a\" (line 7):\nm\nc"
    let second := "  ^\nError in file \"b\" (line 8):\nn\nd\n^"
    let acc : Messages := { errors := [.plain "old"] }
    (parseEach [first, second] acc).value =
        { informational := [.plain "Error in file \"a\" (line 7):", .plain "m", .plain "c",
            .plain "  ^"]
          errors := [.plain "old", .positioned "n" (some 8) (some 1)] } ∧
      [first, second] = [first] ++ [second] ∧
      acc.errors <+: (parseEach [first] acc).value.errors ∧
      (parseEach [first] acc).value.errors <+: (parseEach [first, second] acc).value.errors ∧
      .positioned "n" (some 8) (some 1) ∈ (parse second).value.errors ∧
      ReportedIn second (.positioned "n" (some 8) (some 1)) := by
  intro first second acc
  obtain ⟨heq, hsplit, hstreams⟩ := parseEach_separate [first, second] acc
  have hprefix := (hsplit [first] [second] rfl).2 .error
  have hn : .positioned "n" (some 8) (some 1) ∈ (parse second).value.errors := by
    rw [value_parse]
    decide
  refine ⟨?_, rfl, hprefix.1, hprefix.2, hn, (hstreams first second).2.2.2 _ hn⟩
  rw [heq]
  simp only [List.map_cons, List.map_nil, value_parse]
  decide

end Console

end JFlexReport
