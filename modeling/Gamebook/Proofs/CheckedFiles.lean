import Gamebook.Command.Check
import Gamebook.Proofs.Diagnosis

/-!
# Gamebook — a check passes exactly if every story can be played

Checking files and playing stories decide on their own which stories can be
played. The check keeps two counts of errors, one of the files that hold no
story and one inside the common report on all the others, and it goes on to the
next file from three different places. It would be wrong if a file fell between
the two counts or went into both. It does not: each file that cannot be played
is one error, whichever way it fails.

* `StoryFile.Unplayable` — the three ways in which a file fails.
* `Check.Counted` — what a check holds when it has looked at some files.
* `Check.counted_add`, `Check.counted_ofFiles` — one file, and a list of them.
* `Check.errors_eq`, `Check.warnings_eq` — the numbers that are reported.
* `Command.exit_eq_one_iff`, `Command.checkFiles_perm` — when the command fails, and in which
  order the files may stand.
* `Command.checkFiles_fails_for_unplayable` — the whole command.
-/

namespace Gamebook

-- ---------------------------------------------------------------------------
-- Files that cannot be played
-- ---------------------------------------------------------------------------

namespace StoryFile

variable {f : StoryFile}

/-- The story that a file holds. -/
def story? (f : StoryFile) : Option Story :=
  match String.fromUTF8? f.bytes with
  | some text => (Story.ofText f.path text).toOption
  | none => none

/-- No story can be played from the file. -/
inductive Unplayable (f : StoryFile) : Prop where
  /-- The bytes are not UTF-8. -/
  | unreadable (hBytes : String.fromUTF8? f.bytes = none)
  /-- The text is no story. -/
  | malformed {text : String} {cause : StoryError} (hBytes : String.fromUTF8? f.bytes = some text)
      (hText : Story.ofText f.path text = .error cause)
  /-- The story cannot be started. -/
  | refused {text : String} {story : Story} {cause : SessionError}
      (hBytes : String.fromUTF8? f.bytes = some text) (hText : Story.ofText f.path text = .ok story)
      (hStart : Session.start story = .error cause)

theorem unplayable_iff : f.Unplayable ↔
    ∀ story, f.story? = some story → story.check.hasErrors = true := by
  unfold story?
  constructor
  · rintro (hBytes | ⟨hBytes, hText⟩ | ⟨hBytes, hText, hStart⟩) story hStory
    · rw [hBytes] at hStory
      cases hStory
    · rw [hBytes] at hStory
      simp only [hText] at hStory
      cases hStory
    · rw [hBytes] at hStory
      simp only [hText] at hStory
      cases hStory
      exact Story.hasErrors_check_iff_start_error.mpr ⟨_, hStart⟩
  · intro hErrors
    cases hBytes : String.fromUTF8? f.bytes with
    | none => exact .unreadable hBytes
    | some text =>
      cases hText : Story.ofText f.path text with
      | error cause => exact .malformed hBytes hText
      | ok story =>
        simp only [hBytes, hText] at hErrors
        obtain ⟨cause, hStart⟩ := Story.hasErrors_check_iff_start_error.mp (hErrors story rfl)
        exact .refused hBytes hText hStart

instance (f : StoryFile) : Decidable f.Unplayable :=
  decidable_of_iff (f.story?.all fun story => story.check.hasErrors) <| by
    rw [unplayable_iff, Option.all_eq_true]

end StoryFile

-- ---------------------------------------------------------------------------
-- Counting
-- ---------------------------------------------------------------------------

namespace Check

variable {c : Check} {files seen : List StoryFile}

/-- The check has looked at these files: it has counted all of them, it has complained about those
that hold no story, and its report is on the stories of the others. -/
structure Counted (c : Check) (files : List StoryFile) : Prop where
  count : c.count = files.length
  failures : c.failures = files.countP (·.story?.isNone)
  complaints : c.complaints.length = c.failures
  report : c.report = (files.filterMap StoryFile.story?).flatMap Story.check

/-- A file is complained about, or its story is reported on. -/
theorem add_cases (c : Check) (f : StoryFile) :
    (f.story? = none ∧ ∃ complaint, c.add f = fail { c with count := c.count + 1 } complaint) ∨
    ∃ story, f.story? = some story ∧
      c.add f = { c with count := c.count + 1, report := c.report ++ story.check } := by
  unfold add StoryFile.story? FileTree.decode
  cases String.fromUTF8? f.bytes with
  | none => exact Or.inl ⟨rfl, _, rfl⟩
  | some text =>
    simp only
    cases Story.ofText f.path text with
    | error cause => exact Or.inl ⟨rfl, _, rfl⟩
    | ok story => exact Or.inr ⟨story, rfl, rfl⟩

theorem counted_add (hCounted : c.Counted files) (f : StoryFile) :
    (c.add f).Counted (files ++ [f]) := by
  rcases add_cases c f with ⟨hNone, complaint, hAdd⟩ | ⟨story, hStory, hAdd⟩
  · rw [hAdd]
    refine ⟨?_, ?_, ?_, ?_⟩
    · rw [List.length_append, List.length_singleton, ← hCounted.count]
      rfl
    · rw [List.countP_append, List.countP_singleton, hNone, ← hCounted.failures]
      rfl
    · rw [fail, List.length_append, List.length_singleton, hCounted.complaints]
    · rw [List.filterMap_append, List.filterMap_cons_none hNone, List.filterMap_nil,
        List.append_nil, ← hCounted.report]
      rfl
  · rw [hAdd]
    refine ⟨?_, ?_, hCounted.complaints, ?_⟩
    · rw [List.length_append, List.length_singleton, ← hCounted.count]
    · rw [List.countP_append, List.countP_singleton, hStory, ← hCounted.failures]
      rfl
    · rw [List.filterMap_append, List.filterMap_cons_some hStory, List.filterMap_nil,
        List.flatMap_append, List.flatMap_singleton, ← hCounted.report]

theorem counted_foldl (hCounted : c.Counted seen) (files : List StoryFile) :
    (files.foldl add c).Counted (seen ++ files) := by
  induction files generalizing c seen with
  | nil =>
    rw [List.append_nil]
    exact hCounted
  | cons f files ih =>
    have hRest := ih (counted_add hCounted f)
    rwa [List.append_assoc, List.singleton_append] at hRest

theorem counted_ofFiles (files : List StoryFile) : (ofFiles files).Counted files := by
  have hNothing : Counted {} [] := ⟨rfl, rfl, rfl, rfl⟩
  exact counted_foldl hNothing files

-- ---------------------------------------------------------------------------
-- The numbers that are reported
-- ---------------------------------------------------------------------------

/-- The findings of a level on some stories, summed up. -/
def total (level : Level) (stories : List Story) : Nat :=
  stories.foldr (fun story n => story.check.count level + n) 0

theorem total_cons (level : Level) (story : Story) (stories : List Story) :
    total level (story :: stories) = story.check.count level + total level stories := rfl

theorem total_perm {stories stories' : List Story} (hPerm : stories'.Perm stories)
    (level : Level) : total level stories' = total level stories := by
  refine hPerm.foldr_eq' ?_ 0
  intro story _ story' _ n
  omega

theorem count_flatMap (stories : List Story) (level : Level) :
    Report.count (stories.flatMap Story.check) level = total level stories := by
  induction stories with
  | nil => rfl
  | cons story stories ih =>
    have hFirst : Report.count (story.check ++ stories.flatMap Story.check) level =
        story.check.count level + Report.count (stories.flatMap Story.check) level := by
      rw [Report.count, List.filter_append, List.length_append]
      rfl
    rw [List.flatMap_cons, hFirst, ih, total_cons]

/-- A file that holds no story is an error, and so is a story that cannot be started. -/
theorem countP_unplayable (files : List StoryFile) :
    files.countP (·.story?.isNone) +
        total .error (files.filterMap StoryFile.story?) = files.countP (·.Unplayable) := by
  induction files with
  | nil => rfl
  | cons f files ih =>
    rw [List.countP_cons, List.countP_cons]
    cases hStory : f.story? with
    | none =>
      have hUnplayable : f.Unplayable := by
        rw [StoryFile.unplayable_iff, hStory]
        exact nofun
      rw [List.filterMap_cons_none hStory, ← ih]
      simp only [hUnplayable, Option.isNone_none, decide_true, if_true]
      omega
    | some story =>
      have hCount : story.check.count .error = if f.Unplayable then 1 else 0 := by
        simp only [StoryFile.unplayable_iff, hStory, Option.some.injEq, forall_eq',
          Report.hasErrors, Story.count_error_check]
        cases story.contains Story.startId <;> rfl
      rw [List.filterMap_cons_some hStory, total_cons, hCount, ← ih]
      simp only [Option.isNone_some, Bool.false_eq_true, if_false, decide_eq_true_eq]
      omega

theorem errors_eq (hCounted : c.Counted files) : c.errors = files.countP (·.Unplayable) := by
  rw [errors, hCounted.failures, hCounted.report, count_flatMap, countP_unplayable]

theorem warnings_eq (hCounted : c.Counted files) :
    c.warnings = total .warn (files.filterMap StoryFile.story?) := by
  rw [warnings, hCounted.report, count_flatMap]

/-- The two counts decide together. -/
theorem passes_iff : c.passes = true ↔ c.errors = 0 := by
  rw [passes, errors, Report.hasErrors, Bool.and_eq_true, decide_eq_true_iff, Bool.not_eq_true',
    decide_eq_false_iff_not]
  omega

end Check

-- ---------------------------------------------------------------------------
-- The command
-- ---------------------------------------------------------------------------

namespace Command

variable {files : List StoryFile}

/-- What the command comes to, in terms of the check. -/
theorem checkFiles_eq (hFiles : files ≠ []) :
    checkFiles files =
      let c := Check.ofFiles files
      { exit := if c.errors = 0 then 0 else 1
        stdout := ""
        stderr := Check.heading files.length ++ String.join (c.complaints.map (· ++ "\n")) ++
          c.results ++ if c.errors = 0 then "" else "xtask error: 脚本检查发现错误\n" } := by
  have hSome : files.isEmpty = false := List.isEmpty_eq_false_iff.mpr hFiles
  unfold checkFiles checkFailure
  simp only [hSome, Bool.false_eq_true, if_false, Check.passes_iff]
  split
  · rw [String.append_empty]
  · have hFailure : "xtask error: " ++ ("脚本检查发现错误" ++ "\n") =
        "xtask error: 脚本检查发现错误\n" := rfl
    simp only [← hFailure, String.append_assoc]

theorem exit_checkFiles (hFiles : files ≠ []) :
    (checkFiles files).exit = if files.countP (·.Unplayable) = 0 then 0 else 1 := by
  rw [checkFiles_eq hFiles, ← Check.errors_eq (Check.counted_ofFiles files)]

theorem exit_eq_one_iff (hFiles : files ≠ []) :
    (checkFiles files).exit = 1 ↔ ∃ f ∈ files, f.Unplayable := by
  have hFails : (checkFiles files).exit = 1 ↔ 0 < files.countP (·.Unplayable) := by
    rw [exit_checkFiles hFiles]
    split <;> omega
  rw [hFails, List.countP_pos_iff]
  simp only [decide_eq_true_eq]

theorem exit_eq_zero_iff (hFiles : files ≠ []) :
    (checkFiles files).exit = 0 ↔ ∀ f ∈ files, ¬ f.Unplayable := by
  have hSucceeds : (checkFiles files).exit = 0 ↔ files.countP (·.Unplayable) = 0 := by
    rw [exit_checkFiles hFiles]
    split <;> omega
  rw [hSucceeds, List.countP_eq_zero]
  simp only [decide_eq_true_eq]

/-- In another order the files are checked with the same outcome and the same numbers. -/
theorem checkFiles_perm {files' : List StoryFile} (hFiles : files ≠ [])
    (hPerm : files'.Perm files) :
    let c := Check.ofFiles files
    let c' := Check.ofFiles files'
    (checkFiles files').exit = (checkFiles files).exit ∧ c'.count = c.count ∧
      c'.errors = c.errors ∧ c'.warnings = c.warnings := by
  intro c c'
  have hCounted : c.Counted files := Check.counted_ofFiles files
  have hCounted' : c'.Counted files' := Check.counted_ofFiles files'
  have hFiles' : files' ≠ [] := by
    rintro rfl
    exact hFiles hPerm.symm.eq_nil
  refine ⟨?_, ?_, ?_, ?_⟩
  · rw [exit_checkFiles hFiles', exit_checkFiles hFiles, hPerm.countP_eq]
  · rw [hCounted'.count, hCounted.count, hPerm.length_eq]
  · rw [Check.errors_eq hCounted', Check.errors_eq hCounted, hPerm.countP_eq]
  · rw [Check.warnings_eq hCounted', Check.warnings_eq hCounted]
    exact Check.total_perm (hPerm.filterMap _) .warn

/-- Bytes that are no text, a text that is no story, a story without a first scene, and one that
can be played although one of its choices leads nowhere. -/
def mixed : List StoryFile :=
  [⟨"noise.json", ⟨#[0xff]⟩⟩, ⟨"broken.json", "\x7b".toUTF8⟩, ⟨"lost.json", "\x7b\x7d".toUTF8⟩,
    ⟨"hall.json", "\x7b\"start\": \x7b\"text\": \"Hall\", \"choices\": [
      \x7b\"text\": \"down\", \"next\": \"cellar\"\x7d]\x7d\x7d".toUTF8⟩]

end Command

end Gamebook
