import Gamebook.Proofs.Choices
import Gamebook.Proofs.Unset

/-!
# Gamebook — every defect is reported once

The check goes through the choices of each scene and leaves a choice early: where
its condition is missing or cannot be read, nothing more is said of it. A defect
could be hidden behind another one that way, or be counted for two. Neither
happens. The target of a choice is looked at whatever its condition is, the three
things that a condition can come to exclude each other, and each place of a
placeholder counts for itself. So the numbers of a report are the numbers of
defects, and a report is empty only for a story without any.

* `Story.LeadsNowhere`, `Choice.LacksOperator`, `Story.AsksUnset`, `Story.NeverSets` —
  the defects, told without the check.
* `Story.conditionProblems_cases` — what a condition comes to.
* `Story.countP_warn_sceneProblems`, `Story.countP_info_sceneProblems` — the
  problems of one scene.
* `Story.count_warn_check`, `Story.count_info_check` — the numbers of a report.
* `Story.reports_each_defect_once` — all levels, and the empty report.
-/

namespace Gamebook

-- ---------------------------------------------------------------------------
-- Defects
-- ---------------------------------------------------------------------------

/-- The choice has a condition that is not empty, and none of the operators occurs in it. -/
def Choice.LacksOperator (choice : Choice) : Prop :=
  ∃ source ∈ choice.condition, source ≠ "" ∧
    ∀ op ∈ Operator.all, ¬ op.symbol.toList <:+: source.toList

instance decidableLacksOperator : DecidablePred Choice.LacksOperator :=
  fun choice => inferInstanceAs (Decidable (∃ source ∈ choice.condition, source ≠ "" ∧
    ∀ op ∈ Operator.all, ¬ op.symbol.toList <:+: source.toList))

namespace Story

variable {story : Story} {scene : Scene} {choice : Choice} {name : String}

/-- The choices of a story, one for each position in each scene. -/
def choices (story : Story) : List Choice := story.scenes.flatMap Scene.choices

/-- The names of the placeholders of a story, one for each place in each scene. -/
def placeholders (story : Story) : List String :=
  story.scenes.flatMap fun scene => Template.placeholders scene.text

/-- No scene has the name that the choice leads to. -/
def LeadsNowhere (story : Story) (choice : Choice) : Prop :=
  ∀ scene ∈ story.scenes, scene.id ≠ choice.next

instance decidableLeadsNowhere (story : Story) : DecidablePred story.LeadsNowhere :=
  fun choice => inferInstanceAs (Decidable (∀ scene ∈ story.scenes, scene.id ≠ choice.next))

/-- No directive of the story sets the variable. -/
def NeverSets (story : Story) (name : String) : Prop :=
  ∀ scene ∈ story.scenes, ∀ d ∈ Template.directives scene.text, d.target ≠ name

instance decidableNeverSets (story : Story) : DecidablePred story.NeverSets :=
  fun name => inferInstanceAs (Decidable
    (∀ scene ∈ story.scenes, ∀ d ∈ Template.directives scene.text, d.target ≠ name))

/-- The choice has a condition that can be read, on a variable that no directive sets. -/
def AsksUnset (story : Story) (choice : Choice) : Prop :=
  ∃ source ∈ choice.condition, source ≠ "" ∧
    ∃ c, Condition.parse source = .ok c ∧ story.NeverSets c.name

instance decidableAsksUnset (story : Story) : DecidablePred story.AsksUnset := fun choice =>
  have (source : String) : Decidable
      (∃ c, Condition.parse source = .ok c ∧ story.NeverSets c.name) :=
    match hParse : Condition.parse source with
    | .ok c => decidable_of_iff (story.NeverSets c.name) (by simp)
    | .error _ => isFalse (by simp)
  inferInstanceAs (Decidable (∃ source ∈ choice.condition, source ≠ "" ∧
    ∃ c, Condition.parse source = .ok c ∧ story.NeverSets c.name))

theorem not_mem_assigned_iff : name ∉ story.assigned ↔ story.NeverSets name := by
  rw [mem_assigned_iff, NeverSets]
  simp only [not_exists, not_and, ne_eq]

-- ---------------------------------------------------------------------------
-- One choice
-- ---------------------------------------------------------------------------

theorem targetProblems_eq (story : Story) (choice : Choice) : story.targetProblems choice =
    if story.LeadsNowhere choice then [.danglingTarget choice] else [] := by
  unfold targetProblems
  by_cases hAbsent : story.LeadsNowhere choice
  · rw [contains_eq_false_iff.mpr hAbsent, if_pos hAbsent]
    rfl
  · have hContains : story.contains choice.next = true := by
      rw [← Bool.not_eq_false, contains_eq_false_iff]
      exact hAbsent
    rw [hContains, if_neg hAbsent]
    rfl

theorem parse_eq_error_iff {source : String} : (∃ cause, Condition.parse source = .error cause) ↔
    ∀ op ∈ Operator.all, ¬ op.symbol.toList <:+: source.toList := by
  have hError : (∃ cause, Condition.parse source = .error cause) ↔
      ¬ ∃ c, Condition.parse source = .ok c := by
    cases Condition.parse source <;> simp
  rw [hError, Condition.parse_eq_ok_iff, not_exists]
  exact ⟨fun hNone op _ => hNone op, fun hNone op => hNone op op.mem_all⟩

theorem lacksOperator_iff : choice.LacksOperator ↔
    ∃ source, choice.condition = some source ∧ source.isEmpty = false ∧
      ∃ cause, Condition.parse source = .error cause := by
  simp only [Choice.LacksOperator, Option.mem_def, parse_eq_error_iff,
    String.isEmpty_eq_false_iff, ne_eq]

theorem asksUnset_iff : story.AsksUnset choice ↔
    ∃ source, choice.condition = some source ∧ source.isEmpty = false ∧
      ∃ c, Condition.parse source = .ok c ∧ c.name ∉ story.assigned := by
  simp only [AsksUnset, Option.mem_def, not_mem_assigned_iff, String.isEmpty_eq_false_iff, ne_eq]

/-- A condition has no problem, or it cannot be read, or it asks for a variable that is never set;
never two of these. -/
theorem conditionProblems_cases (story : Story) (choice : Choice) :
    (¬ choice.LacksOperator ∧ ¬ story.AsksUnset choice ∧
      conditionProblems story.assigned choice = []) ∨
    (choice.LacksOperator ∧ ¬ story.AsksUnset choice ∧
      ∃ cause, conditionProblems story.assigned choice = [.invalidCondition cause choice]) ∨
    (¬ choice.LacksOperator ∧ story.AsksUnset choice ∧
      ∃ name source, conditionProblems story.assigned choice = [.unsetCondition name source]) := by
  rw [lacksOperator_iff, asksUnset_iff, conditionProblems]
  cases choice.condition with
  | none => exact Or.inl ⟨by simp, by simp, rfl⟩
  | some source =>
    simp only [Option.some.injEq, exists_eq_left']
    cases source.isEmpty with
    | true => exact Or.inl ⟨by simp, by simp, rfl⟩
    | false =>
      cases Condition.parse source with
      | error cause => exact Or.inr (Or.inl ⟨by simp, by simp, cause, rfl⟩)
      | ok c =>
        by_cases hAssigned : c.name ∈ story.assigned
        · exact Or.inl (by simp [hAssigned])
        · exact Or.inr (Or.inr (by simp [hAssigned]))

end Story

/-- The problem is one of that level. -/
def Problem.isAt (level : Level) (p : Problem) : Bool := decide (p.level = level)

-- ---------------------------------------------------------------------------
-- Counting
-- ---------------------------------------------------------------------------

section Counting

variable {α β γ γ' : Type} {f : α → List β} {p : β → Bool}

/-- If each element gives one hit or none, depending on a property, there are as many hits as
elements that have the property. -/
theorem countP_flatMap_eq {q : α → Prop} [DecidablePred q]
    (hOne : ∀ a, (f a).countP p = if q a then 1 else 0) (as : List α) :
    (as.flatMap f).countP p = as.countP q := by
  induction as with
  | nil => rfl
  | cons a as ih =>
    rw [List.flatMap_cons, List.countP_append, List.countP_cons, hOne, ih, Nat.add_comm]
    simp only [decide_eq_true_eq]

/-- If the hits of each element are counted in two parts, all hits can be counted in all first
parts and all second parts. -/
theorem countP_flatMap_add {g : α → List γ} {g' : α → List γ'} {q : γ → Bool} {q' : γ' → Bool}
    (hParts : ∀ a, (f a).countP p = (g a).countP q + (g' a).countP q') (as : List α) :
    (as.flatMap f).countP p = (as.flatMap g).countP q + (as.flatMap g').countP q' := by
  induction as with
  | nil => rfl
  | cons a as ih =>
    simp only [List.flatMap_cons, List.countP_append, hParts, ih]
    omega

/-- Every finding has one of the three levels. -/
theorem Report.length_eq (r : Report) :
    r.length = r.count .error + r.count .warn + r.count .info := by
  unfold count
  induction r with
  | nil => rfl
  | cons f r ih =>
    simp only [List.filter_cons, List.length_cons, ih]
    cases f.level <;> simp <;> omega

end Counting

namespace Story

variable {story : Story} {scene : Scene} {choice : Choice}

-- ---------------------------------------------------------------------------
-- One scene
-- ---------------------------------------------------------------------------

/-- There is a warning for a target that does not exist, and never a remark. -/
theorem countP_targetProblems (story : Story) (choice : Choice) :
    (story.targetProblems choice).countP (·.isAt .warn) =
      (if story.LeadsNowhere choice then 1 else 0) ∧
    (story.targetProblems choice).countP (·.isAt .info) = 0 := by
  rw [targetProblems_eq]
  split <;> exact ⟨rfl, rfl⟩

theorem countP_conditionProblems (story : Story) (choice : Choice) :
    (conditionProblems story.assigned choice).countP (·.isAt .warn) =
      (if choice.LacksOperator then 1 else 0) ∧
    (conditionProblems story.assigned choice).countP (·.isAt .info) =
      (if story.AsksUnset choice then 1 else 0) := by
  rcases conditionProblems_cases story choice with
    ⟨hLacks, hAsks, hNone⟩ | ⟨hLacks, hAsks, cause, hOne⟩ | ⟨hLacks, hAsks, name, source, hOne⟩
  · rw [hNone, if_neg hLacks, if_neg hAsks]
    exact ⟨rfl, rfl⟩
  · rw [hOne, if_pos hLacks, if_neg hAsks]
    exact ⟨rfl, rfl⟩
  · rw [hOne, if_neg hLacks, if_pos hAsks]
    exact ⟨rfl, rfl⟩

theorem countP_info_placeholderProblems (story : Story) (template : String) :
    (placeholderProblems story.assigned template).countP (·.isAt .info) =
      (Template.placeholders template).countP story.NeverSets := by
  have hAll : ∀ name : String, (Problem.isAt .info ∘ Problem.unsetPlaceholder) name = true :=
    fun _ => rfl
  rw [placeholderProblems, List.countP_map, List.countP_filter]
  apply List.countP_congr
  intro name _
  rw [hAll, Bool.true_and, List.contains_eq_mem, Bool.not_eq_true', decide_eq_false_iff_not,
    decide_eq_true_iff, not_mem_assigned_iff]

/-- The warnings of a scene are the targets that do not exist and the conditions without an
operator, on the same choice or not. -/
theorem countP_warn_sceneProblems (story : Story) (scene : Scene) :
    (story.sceneProblems story.assigned scene).countP (·.isAt .warn) =
      scene.choices.countP story.LeadsNowhere + scene.choices.countP Choice.LacksOperator := by
  have hText : (placeholderProblems story.assigned scene.text).countP (·.isAt .warn) = 0 := by
    rw [List.countP_eq_zero]
    intro p hMem
    rw [Problem.isAt, level_of_mem_placeholderProblems hMem]
    decide
  have hChoices := countP_flatMap_add (p := (·.isAt .warn)) (f := fun choice =>
    story.targetProblems choice ++ conditionProblems story.assigned choice)
    (fun _ => List.countP_append) scene.choices
  rw [sceneProblems, List.countP_append, hText, hChoices,
    countP_flatMap_eq fun choice => (countP_targetProblems story choice).1,
    countP_flatMap_eq fun choice => (countP_conditionProblems story choice).1, Nat.add_zero]

/-- The remarks of a scene are the conditions and the placeholders on variables that are never
set. -/
theorem countP_info_sceneProblems (story : Story) (scene : Scene) :
    (story.sceneProblems story.assigned scene).countP (·.isAt .info) =
      scene.choices.countP story.AsksUnset +
        (Template.placeholders scene.text).countP story.NeverSets := by
  have hChoice : ∀ choice, (story.targetProblems choice ++
      conditionProblems story.assigned choice).countP (·.isAt .info) =
        if story.AsksUnset choice then 1 else 0 := by
    intro choice
    rw [List.countP_append, (countP_targetProblems story choice).2,
      (countP_conditionProblems story choice).2, Nat.zero_add]
  rw [sceneProblems, List.countP_append, countP_flatMap_eq hChoice,
    countP_info_placeholderProblems]

-- ---------------------------------------------------------------------------
-- The report
-- ---------------------------------------------------------------------------

/-- What is counted at a level: the missing start, the problems of all scenes, and the scenes that
are not reached. -/
theorem count_check (story : Story) (level : Level) : story.check.count level =
    (if story.contains startId then [] else [Problem.missingStart]).countP (·.isAt level) +
      (story.scenes.flatMap (story.sceneProblems story.assigned)).countP (·.isAt level) +
      (story.unreachableScenes.map fun _ => Problem.unreachable).countP (·.isAt level) := by
  have hProblems : story.problems.map Prod.snd =
      (if story.contains startId then [] else [Problem.missingStart]) ++
        story.scenes.flatMap (story.sceneProblems story.assigned) ++
        story.unreachableScenes.map fun _ => Problem.unreachable := by
    simp only [problems, List.map_append, List.map_flatMap, List.map_map, Function.comp_def,
      List.map_id_fun']
    split <;> rfl
  have hCount : story.check.count level =
      (story.problems.map Prod.snd).countP (·.isAt level) := by
    rw [Report.count, check, List.filter_map, List.length_map, List.countP_map,
      List.countP_eq_length_filter]
    rfl
  rw [hCount, hProblems, List.countP_append, List.countP_append]

theorem count_warn_check (story : Story) : story.check.count .warn =
    story.choices.countP story.LeadsNowhere + story.choices.countP Choice.LacksOperator := by
  have hStart : (if story.contains startId then [] else [Problem.missingStart]).countP
      (·.isAt .warn) = 0 := by
    split <;> rfl
  have hUnreachable : (story.unreachableScenes.map fun _ => Problem.unreachable).countP
      (·.isAt .warn) = 0 := by
    rw [List.countP_map, List.countP_eq_zero]
    intro scene _ hWarn
    cases hWarn
  have hScenes := countP_flatMap_add (countP_warn_sceneProblems story) story.scenes
  rw [count_check, hStart, hUnreachable, hScenes, Nat.zero_add, Nat.add_zero]
  rfl

theorem length_unreachableScenes (story : Story) : story.unreachableScenes.length =
    if story.contains startId then story.scenes.countP (·.id ∉ story.reachable) else 0 := by
  unfold unreachableScenes
  split
  · rw [List.countP_eq_length_filter]
    simp only [List.contains_eq_mem, decide_not]
  · rfl

theorem count_info_check (story : Story) : story.check.count .info =
    story.choices.countP story.AsksUnset + story.placeholders.countP story.NeverSets +
      if story.contains startId then story.scenes.countP (·.id ∉ story.reachable) else 0 := by
  have hStart : (if story.contains startId then [] else [Problem.missingStart]).countP
      (·.isAt .info) = 0 := by
    split <;> rfl
  have hUnreachable : (story.unreachableScenes.map fun _ => Problem.unreachable).countP
      (·.isAt .info) = story.unreachableScenes.length := by
    rw [List.countP_map, List.countP_eq_length]
    intro scene _
    rfl
  have hScenes := countP_flatMap_add (countP_info_sceneProblems story) story.scenes
  rw [count_check, hStart, hUnreachable, hScenes, length_unreachableScenes, Nat.zero_add]
  rfl

/-- A report is empty exactly if the story has none of the defects. -/
theorem check_eq_nil_iff (story : Story) : story.check = [] ↔
    story.contains startId = true ∧
    (∀ choice ∈ story.choices,
      ¬ story.LeadsNowhere choice ∧ ¬ choice.LacksOperator ∧ ¬ story.AsksUnset choice) ∧
    (∀ name ∈ story.placeholders, ¬ story.NeverSets name) ∧
    ∀ scene ∈ story.scenes, scene.id ∈ story.reachable := by
  rw [← List.length_eq_zero_iff, Report.length_eq, count_error_check, count_warn_check,
    count_info_check]
  cases story.contains startId with
  | false => simp
  | true =>
    simp only [if_true, Nat.zero_add, Nat.add_eq_zero_iff, List.countP_eq_zero, decide_eq_true_eq,
      true_and, Decidable.not_not]
    constructor
    · rintro ⟨⟨hTarget, hOperator⟩, ⟨hUnset, hName⟩, hReached⟩
      exact ⟨fun choice hMem => ⟨hTarget choice hMem, hOperator choice hMem, hUnset choice hMem⟩,
        hName, hReached⟩
    · rintro ⟨hChoice, hName, hReached⟩
      refine ⟨⟨?_, ?_⟩, ⟨?_, hName⟩, hReached⟩
      · exact fun choice hMem => (hChoice choice hMem).1
      · exact fun choice hMem => (hChoice choice hMem).2.1
      · exact fun choice hMem => (hChoice choice hMem).2.2

/-- A choice that leads nowhere and has a condition without an operator is reported for both. -/
theorem both_mem_check (hScene : scene ∈ story.scenes) (hChoice : choice ∈ scene.choices)
    (hNowhere : story.LeadsNowhere choice) {source : String}
    (hSource : choice.condition = some source) (hLacks : choice.LacksOperator) :
    (Problem.danglingTarget choice).finding story.id (some scene.id) ∈ story.check ∧
      (Problem.invalidCondition (.missingOperator source) choice).finding story.id
        (some scene.id) ∈ story.check := by
  have hReported : ∀ p, p ∈ story.targetProblems choice ∨
      p ∈ conditionProblems story.assigned choice →
        p.finding story.id (some scene.id) ∈ story.check := by
    intro p hProblem
    have hInScene := mem_sceneProblems_iff.mpr (Or.inl ⟨choice, hChoice, hProblem⟩)
    exact mem_check_iff.mpr
      ⟨_, p, mem_problems_iff.mpr (Or.inr (Or.inl ⟨scene, hScene, rfl, hInScene⟩)), rfl⟩
  obtain ⟨source', hSource', hEmpty, cause, hParse⟩ := lacksOperator_iff.mp hLacks
  rw [hSource] at hSource'
  cases hSource'
  have hTarget := mem_targetProblems_iff.mpr ⟨rfl, hNowhere⟩
  refine ⟨hReported _ (Or.inl hTarget), hReported _ (Or.inr ?_)⟩
  rw [mem_conditionProblems_iff, ← Condition.eq_of_parse_error hParse]
  exact ⟨source, hSource, hEmpty, Or.inl ⟨cause, hParse, rfl⟩⟩

/--
**A report counts every defect once.** It has one error if there is no start and
none otherwise. Its warnings are as many as the choices that lead nowhere and the
choices whose condition has no operator, one for each position in each scene. Its
remarks are as many as the choices that ask for a variable that is never set, the
places of placeholders of such variables and, if there is a start, the scenes
that it does not lead to. So the report is empty exactly if there is no defect,
and a choice with a bad target and a bad condition is reported for both.
-/
theorem reports_each_defect_once (story : Story) :
    story.check.count .error = (if story.contains startId then 0 else 1) ∧
    story.check.count .warn =
      story.choices.countP story.LeadsNowhere + story.choices.countP Choice.LacksOperator ∧
    story.check.count .info =
      story.choices.countP story.AsksUnset + story.placeholders.countP story.NeverSets +
        (if story.contains startId then story.scenes.countP (·.id ∉ story.reachable) else 0) ∧
    (story.check = [] ↔ story.contains startId = true ∧
      (∀ choice ∈ story.choices,
        ¬ story.LeadsNowhere choice ∧ ¬ choice.LacksOperator ∧ ¬ story.AsksUnset choice) ∧
      (∀ name ∈ story.placeholders, ¬ story.NeverSets name) ∧
      ∀ scene ∈ story.scenes, scene.id ∈ story.reachable) ∧
    ∀ scene ∈ story.scenes, ∀ choice ∈ scene.choices, ∀ source, choice.condition = some source →
      story.LeadsNowhere choice → choice.LacksOperator →
        (Problem.danglingTarget choice).finding story.id (some scene.id) ∈ story.check ∧
        (Problem.invalidCondition (.missingOperator source) choice).finding story.id
          (some scene.id) ∈ story.check := by
  refine ⟨count_error_check story, count_warn_check story, count_info_check story,
    check_eq_nil_iff story, ?_⟩
  intro scene hScene choice hChoice source hSource hNowhere hLacks
  exact both_mem_check hScene hChoice hNowhere hSource hLacks

-- One choice with two defects, another with a third one, and a placeholder that stands twice.
example : ((Story.ofScenes "gate" [⟨"start", "\x7bhero\x7d, \x7bhero\x7d!",
    [⟨"down", "cellar", some "key"⟩, ⟨"up", "start", some "luck > 3"⟩]⟩]).check.map (·.level)) =
      [.warn, .warn, .info, .info, .info] := by
  decide +kernel

end Story

end Gamebook
