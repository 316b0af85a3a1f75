import Gamebook.Analysis.Check
import Gamebook.Proofs.Playthrough

/-!
# Gamebook — what a report says of every play

A check reads the targets and conditions of all choices and plays nothing. Its
errors and warnings are nevertheless exactly what goes wrong in play: an error
stands for a story that does not start, and warnings for choices that lead
nowhere or that nobody ever sees.

* `visible_eq_error_iff` — when a condition cannot be evaluated; the variables
  do not matter.
* `mem_problems_of_warn_iff` — where the warnings of a check come from.
* `check_tells_of_play` — errors and warnings against every play of the story.
-/

namespace Gamebook

-- ---------------------------------------------------------------------------
-- Conditions that cannot be read
-- ---------------------------------------------------------------------------

namespace Condition

variable {vars : Vars} {source : String} {cause : ConditionError}

theorem eq_of_parse_error (hParse : parse source = .error cause) :
    cause = .missingOperator source := by
  unfold parse at hParse
  split at hParse
  · cases hParse
    rfl
  · cases hParse

/-- A condition fails for its text, whatever the variables are; the empty one never does. -/
theorem visible_eq_error_iff {condition : Option String} :
    visible vars condition = .error cause ↔
      ∃ source, condition = some source ∧ source.isEmpty = false ∧
        parse source = .error cause := by
  cases condition with
  | none =>
    constructor
    · intro hVisible
      cases hVisible
    · rintro ⟨source, hNone, -⟩
      cases hNone
  | some source =>
    rw [visible]
    constructor
    · intro hVisible
      split at hVisible
      · cases hVisible
      · rename_i hEmpty
        refine ⟨source, rfl, Bool.not_eq_true _ ▸ hEmpty, ?_⟩
        cases hParse : parse source with
        | error cause' =>
          rw [hParse] at hVisible
          cases hVisible
          rfl
        | ok c =>
          rw [hParse] at hVisible
          cases hVisible
    · rintro ⟨source', hSource, hEmpty, hParse⟩
      cases hSource
      rw [hEmpty, hParse]
      rfl

end Condition

namespace Session

variable {s : Session} {choice : Choice}

/-- A choice whose condition cannot be evaluated is not seen. -/
theorem not_mem_available {cause : ConditionError}
    (hError : Condition.visible s.vars choice.condition = .error cause) :
    choice ∉ s.available := by
  intro hMem
  obtain ⟨scene, -, -, hSees⟩ := mem_available_iff.mp hMem
  rw [sees, hError] at hSees
  cases hSees

end Session

namespace Story

variable {story : Story} {scene : Scene} {choice : Choice} {p : Problem} {place : Option String}

-- ---------------------------------------------------------------------------
-- Where errors and warnings come from
-- ---------------------------------------------------------------------------

theorem mem_targetProblems_iff : p ∈ story.targetProblems choice ↔
    p = .danglingTarget choice ∧ ∀ scene ∈ story.scenes, scene.id ≠ choice.next := by
  rw [← contains_eq_false_iff, targetProblems]
  cases story.contains choice.next <;> simp

theorem mem_conditionProblems_iff {assigned : List String} :
    p ∈ conditionProblems assigned choice ↔
      ∃ source, choice.condition = some source ∧ source.isEmpty = false ∧
        ((∃ cause, Condition.parse source = .error cause ∧ p = .invalidCondition cause choice) ∨
        ∃ condition, Condition.parse source = .ok condition ∧ condition.name ∉ assigned ∧
          p = .unsetCondition condition.name source) := by
  unfold conditionProblems
  cases choice.condition with
  | none => simp
  | some source =>
    cases hEmpty : source.isEmpty with
    | true =>
      -- The check passes over the empty condition.
      constructor
      · intro hMem
        simp only [hEmpty, if_true, List.not_mem_nil] at hMem
      · rintro ⟨source', hSource, hEmpty', -⟩
        cases hSource
        rw [hEmpty] at hEmpty'
        cases hEmpty'
    | false =>
      simp only [Option.some.injEq, exists_eq_left', hEmpty, true_and]
      cases hParse : Condition.parse source with
      | error cause => simp
      | ok condition => by_cases hSet : condition.name ∈ assigned <;> simp [hSet]

/-- The check and the session read a condition alike: the check warns of it exactly if it cannot
be evaluated. -/
theorem mem_conditionProblems_of_warn_iff {assigned : List String} (hWarn : p.level = .warn) :
    p ∈ conditionProblems assigned choice ↔ ∃ cause, p = .invalidCondition cause choice ∧
      ∀ vars, Condition.visible vars choice.condition = .error cause := by
  simp only [Condition.visible_eq_error_iff, forall_const, mem_conditionProblems_iff]
  constructor
  · rintro ⟨source, hSource, hEmpty, ⟨cause, hParse, rfl⟩ | ⟨condition, -, -, rfl⟩⟩
    · exact ⟨cause, rfl, source, hSource, hEmpty, hParse⟩
    · -- A variable that is never set is worth a remark and no warning.
      cases hWarn
  · rintro ⟨cause, rfl, source, hSource, hEmpty, hParse⟩
    exact ⟨source, hSource, hEmpty, Or.inl ⟨cause, hParse, rfl⟩⟩

theorem level_of_mem_placeholderProblems {assigned : List String} {template : String}
    (hMem : p ∈ placeholderProblems assigned template) : p.level = .info := by
  obtain ⟨name, -, rfl⟩ := List.mem_map.mp hMem
  rfl

theorem mem_sceneProblems_of_warn_iff {assigned : List String} (hWarn : p.level = .warn) :
    p ∈ story.sceneProblems assigned scene ↔ ∃ choice ∈ scene.choices,
      (p = .danglingTarget choice ∧ ∀ scene ∈ story.scenes, scene.id ≠ choice.next) ∨
      ∃ cause, p = .invalidCondition cause choice ∧
        ∀ vars, Condition.visible vars choice.condition = .error cause := by
  have hText : p ∉ placeholderProblems assigned scene.text := by
    intro hMem
    rw [level_of_mem_placeholderProblems hMem] at hWarn
    cases hWarn
  simp only [sceneProblems, List.mem_append, List.mem_flatMap, hText, or_false,
    mem_targetProblems_iff, mem_conditionProblems_of_warn_iff hWarn]

theorem level_of_mem_sceneProblems {assigned : List String}
    (hMem : p ∈ story.sceneProblems assigned scene) : p.level ≠ .error := by
  rcases List.mem_append.mp hMem with hChoice | hText
  · obtain ⟨choice, -, hProblem⟩ := List.mem_flatMap.mp hChoice
    rcases List.mem_append.mp hProblem with hTarget | hCondition
    · obtain ⟨rfl, -⟩ := mem_targetProblems_iff.mp hTarget
      intro hLevel
      cases hLevel
    · obtain ⟨source, -, -, ⟨cause, -, rfl⟩ | ⟨condition, -, -, rfl⟩⟩ :=
        mem_conditionProblems_iff.mp hCondition
      · intro hLevel
        cases hLevel
      · intro hLevel
        cases hLevel
  · rw [level_of_mem_placeholderProblems hText]
    intro hLevel
    cases hLevel

theorem mem_problems_iff : (place, p) ∈ story.problems ↔
    (place = none ∧ p = .missingStart ∧ story.contains startId = false) ∨
    (∃ scene ∈ story.scenes, place = some scene.id ∧
      p ∈ story.sceneProblems story.assigned scene) ∨
    ∃ scene ∈ story.unreachableScenes, place = some scene.id ∧ p = .unreachable := by
  have hStart : (place, p) ∈ (if story.contains startId then []
      else [((none : Option String), Problem.missingStart)]) ↔
      place = none ∧ p = .missingStart ∧ story.contains startId = false := by
    cases story.contains startId <;> simp
  unfold problems
  rw [List.mem_append, List.mem_append, hStart, or_assoc]
  refine or_congr Iff.rfl (or_congr ?_ ?_)
  · simp only [List.mem_flatMap, List.mem_map, Prod.mk.injEq]
    constructor
    · rintro ⟨scene, hMem, p', hProblem, rfl, rfl⟩
      exact ⟨scene, hMem, rfl, hProblem⟩
    · rintro ⟨scene, hMem, rfl, hProblem⟩
      exact ⟨scene, hMem, p, hProblem, rfl, rfl⟩
  · simp only [List.mem_map, Prod.mk.injEq]
    constructor
    · rintro ⟨scene, hMem, rfl, rfl⟩
      exact ⟨scene, hMem, rfl, rfl⟩
    · rintro ⟨scene, hMem, rfl, rfl⟩
      exact ⟨scene, hMem, rfl, rfl⟩

/-- Every warning is about a choice of the scene it names. -/
theorem mem_problems_of_warn_iff (hWarn : p.level = .warn) : (place, p) ∈ story.problems ↔
    ∃ scene ∈ story.scenes, place = some scene.id ∧ ∃ choice ∈ scene.choices,
      (p = .danglingTarget choice ∧ ∀ scene ∈ story.scenes, scene.id ≠ choice.next) ∨
      ∃ cause, p = .invalidCondition cause choice ∧
        ∀ vars, Condition.visible vars choice.condition = .error cause := by
  rw [mem_problems_iff]
  constructor
  · rintro (⟨-, rfl, -⟩ | ⟨scene, hMem, hPlace, hProblem⟩ | ⟨scene, -, -, rfl⟩)
    · cases hWarn
    · exact ⟨scene, hMem, hPlace, (mem_sceneProblems_of_warn_iff hWarn).mp hProblem⟩
    · cases hWarn
  · rintro ⟨scene, hMem, hPlace, hChoice⟩
    exact Or.inr (Or.inl
      ⟨scene, hMem, hPlace, (mem_sceneProblems_of_warn_iff hWarn).mpr hChoice⟩)

/-- A missing start is the only problem that counts as an error. -/
theorem filter_error_problems (story : Story) :
    story.problems.filter (fun p => decide (p.2.level = .error)) =
      if story.contains startId then [] else [(none, .missingStart)] := by
  have hScenes : (story.scenes.flatMap fun scene => (story.sceneProblems story.assigned scene).map
      fun p => (some scene.id, p)).filter (fun p => decide (p.2.level = .error)) = [] := by
    refine List.filter_eq_nil_iff.mpr fun p hMem hError => ?_
    obtain ⟨scene, -, hScene⟩ := List.mem_flatMap.mp hMem
    obtain ⟨q, hProblem, rfl⟩ := List.mem_map.mp hScene
    exact level_of_mem_sceneProblems hProblem (of_decide_eq_true hError)
  have hUnreachable : (story.unreachableScenes.map fun scene =>
      (some scene.id, Problem.unreachable)).filter (fun p => decide (p.2.level = .error)) = [] := by
    refine List.filter_eq_nil_iff.mpr fun p hMem hError => ?_
    obtain ⟨scene, -, rfl⟩ := List.mem_map.mp hMem
    cases of_decide_eq_true hError
  unfold problems
  simp only
  rw [List.filter_append, List.filter_append, hScenes, hUnreachable, List.append_nil,
    List.append_nil]
  cases story.contains startId <;> rfl

-- ---------------------------------------------------------------------------
-- Reports
-- ---------------------------------------------------------------------------

theorem mem_check_iff {f : Finding} : f ∈ story.check ↔
    ∃ place p, (place, p) ∈ story.problems ∧ p.finding story.id place = f := by
  rw [check, List.mem_map]
  constructor
  · rintro ⟨⟨place, p⟩, hMem, hFinding⟩
    exact ⟨place, p, hMem, hFinding⟩
  · rintro ⟨place, p, hMem, hFinding⟩
    exact ⟨(place, p), hMem, hFinding⟩

theorem count_error_check (story : Story) :
    story.check.count .error = if story.contains startId then 0 else 1 := by
  have hLevel : story.check.count .error =
      (story.problems.filter (fun p => decide (p.2.level = .error))).length := by
    rw [Report.count, check, List.filter_map, List.length_map]
    rfl
  rw [hLevel, filter_error_problems]
  cases story.contains startId <;> rfl

theorem hasErrors_check_iff : story.check.hasErrors = true ↔
    ∀ scene ∈ story.scenes, scene.id ≠ startId := by
  rw [← contains_eq_false_iff, Report.hasErrors, count_error_check, decide_eq_true_iff]
  cases story.contains startId <;> decide

end Story

theorem ConditionError.eq_of_message_eq : ∀ {cause cause' : ConditionError},
    cause.message = cause'.message → cause = cause'
  | .missingOperator source, .missingOperator source', hMessage => by
    have hSource : "条件 '" ++ source ++ "' 中没有可识别的运算符" =
        "条件 '" ++ source' ++ "' 中没有可识别的运算符" := hMessage
    rw [String.append_left_inj, String.append_right_inj] at hSource
    rw [hSource]

namespace Problem

variable {choice choice' : Choice} {cause cause' : ConditionError}

theorem next_eq_of_message_eq
    (hMessage : (danglingTarget choice).message = (danglingTarget choice').message) :
    choice.next = choice'.next := by
  unfold message at hMessage
  rw [String.append_left_inj, String.append_right_inj] at hMessage
  exact hMessage

theorem cause_eq_of_message_eq (choice choice' : Choice)
    (hMessage : (invalidCondition cause choice).message =
      (invalidCondition cause' choice').message) : cause = cause' := by
  unfold message at hMessage
  rw [String.append_right_inj] at hMessage
  exact ConditionError.eq_of_message_eq hMessage

/-- Texts that begin with different characters differ, whatever follows. -/
theorem append_ne_append {a b : String} {c c' : Char} (hA : a.toList.head? = some c)
    (hB : b.toList.head? = some c') (hDiffer : c ≠ c') (x y : String) : a ++ x ≠ b ++ y := by
  intro hText
  have hHead := congrArg (fun s => s.toList.head?) hText
  simp only [String.toList_append, List.head?_append, hA, hB, Option.some_or] at hHead
  exact hDiffer (Option.some.inj hHead)

/-- The wording tells the two kinds of warnings apart. -/
theorem dangling_message_ne_invalid (choice choice' : Choice) (cause : ConditionError) :
    (danglingTarget choice).message ≠ (invalidCondition cause choice').message := by
  have hDangling : "未定义的跳转目标: **".toList.head? = some '未' := by decide +kernel
  have hInvalid : "无效的条件: ".toList.head? = some '无' := by decide +kernel
  show "未定义的跳转目标: **" ++ choice.next ++ "**" ≠ "无效的条件: " ++ cause.message
  rw [String.append_assoc]
  exact append_ne_append hDangling hInvalid (by decide) _ _

end Problem

namespace Story

variable {story : Story} {choice : Choice} {place : Option String}

/-- What a report says of a target is so. -/
theorem target_absent_of_mem_check
    (hMem : (Problem.danglingTarget choice).finding story.id place ∈ story.check) :
    ∀ scene ∈ story.scenes, scene.id ≠ choice.next := by
  obtain ⟨place', p, hProblem, hFinding⟩ := mem_check_iff.mp hMem
  have hLevel : p.level = .warn := congrArg Finding.level hFinding
  have hMessage := congrArg Finding.message hFinding
  -- The finding may have come from another choice, but one with the same target.
  obtain ⟨scene, -, -, choice', -, ⟨rfl, hAbsent⟩ | ⟨cause, rfl, -⟩⟩ :=
    (mem_problems_of_warn_iff hLevel).mp hProblem
  · rw [← Problem.next_eq_of_message_eq hMessage]
    exact hAbsent
  · exact absurd hMessage.symm (Problem.dangling_message_ne_invalid choice choice' cause)

/-- What a report says of a condition is so, for every choice that has this condition. -/
theorem visible_error_of_mem_check {source : String} (hCondition : choice.condition = some source)
    (hMem : (Problem.invalidCondition (.missingOperator source) choice).finding story.id place ∈
      story.check) (vars : Vars) :
    Condition.visible vars choice.condition = .error (.missingOperator source) := by
  obtain ⟨place', p, hProblem, hFinding⟩ := mem_check_iff.mp hMem
  have hLevel : p.level = .warn := congrArg Finding.level hFinding
  have hMessage := congrArg Finding.message hFinding
  obtain ⟨scene, -, -, choice', -, ⟨rfl, -⟩ | ⟨cause, rfl, hError⟩⟩ :=
    (mem_problems_of_warn_iff hLevel).mp hProblem
  · exact absurd hMessage (Problem.dangling_message_ne_invalid choice' choice _)
  · have hCause : cause = .missingOperator source :=
      Problem.cause_eq_of_message_eq choice' choice hMessage
    -- The cause quotes the condition, so the two choices have the same one.
    obtain ⟨source', -, hEmpty, hParse⟩ := Condition.visible_eq_error_iff.mp (hError vars)
    have hSame : source' = source := by
      have hMissing := Condition.eq_of_parse_error hParse
      rw [hCause] at hMissing
      cases hMissing
      rfl
    rw [← hSame] at hCondition ⊢
    rw [hCause, ← hSame] at hParse
    exact Condition.visible_eq_error_iff.mpr ⟨source', hCondition, hEmpty, hParse⟩

-- ---------------------------------------------------------------------------
-- Reports and plays
-- ---------------------------------------------------------------------------

/-- Without a warning every choice of the story leads somewhere and has a readable condition. -/
theorem choice_of_no_warning (hInfo : ∀ f ∈ story.check, f.level = .info) {scene : Scene}
    (hScene : scene ∈ story.scenes) (hChoice : choice ∈ scene.choices) :
    (∃ target ∈ story.scenes, target.id = choice.next) ∧
      ∀ vars, ∃ b, Condition.visible vars choice.condition = .ok b := by
  have hNoWarning : ∀ p : Problem, p.level = .warn → (some scene.id, p) ∉ story.problems := by
    intro p hWarn hProblem
    have hLevel := hInfo _ (mem_check_iff.mpr ⟨_, _, hProblem, rfl⟩)
    rw [show (p.finding story.id (some scene.id)).level = p.level from rfl, hWarn] at hLevel
    cases hLevel
  constructor
  · by_cases hTarget : ∃ target ∈ story.scenes, target.id = choice.next
    · exact hTarget
    · exfalso
      apply hNoWarning (.danglingTarget choice) rfl
      rw [mem_problems_of_warn_iff rfl]
      refine ⟨scene, hScene, rfl, choice, hChoice, Or.inl ⟨rfl, ?_⟩⟩
      intro target hMem hId
      exact hTarget ⟨target, hMem, hId⟩
  · intro vars
    cases hVisible : Condition.visible vars choice.condition with
    | ok b => exact ⟨b, rfl⟩
    | error cause =>
      exfalso
      apply hNoWarning (.invalidCondition cause choice) rfl
      rw [mem_problems_of_warn_iff rfl]
      refine ⟨scene, hScene, rfl, choice, hChoice, Or.inr ⟨cause, rfl, ?_⟩⟩
      intro vars'
      rw [Condition.visible_eq_error_iff] at hVisible ⊢
      exact hVisible

theorem hasErrors_check_iff_start_error :
    story.check.hasErrors = true ↔ ∃ cause, Session.start story = .error cause := by
  rw [hasErrors_check_iff]
  rcases Session.start_cases story with ⟨hAbsent, hStart⟩ | ⟨scene, hMem, hId, hStart⟩
  · exact ⟨fun _ => ⟨_, hStart⟩, fun _ => hAbsent⟩
  · constructor
    · intro hAbsent
      exact absurd hId (hAbsent scene hMem)
    · rintro ⟨cause, hError⟩
      rw [hStart] at hError
      cases hError

/-- Without a warning every choice of the current scene leads somewhere and can be evaluated. -/
theorem current_choice_of_no_warning (hInfo : ∀ f ∈ story.check, f.level = .info) {s : Session}
    (hComes : s.ComesFrom story) {scene : Scene} (hCurrent : s.scene? = some scene)
    (hChoice : choice ∈ scene.choices) :
    (∃ target ∈ s.story.scenes, target.id = choice.next) ∧
      ∃ b, Condition.visible s.vars choice.condition = .ok b := by
  obtain ⟨hStory, -⟩ := Session.shows_of_comesFrom hComes
  obtain ⟨hScene, -⟩ := scene?_eq_some_iff.mp hCurrent
  rw [hStory] at hScene ⊢
  obtain ⟨hTarget, hVisible⟩ := choice_of_no_warning hInfo hScene hChoice
  exact ⟨hTarget, hVisible s.vars⟩

theorem choose_ok_of_no_warning (hInfo : ∀ f ∈ story.check, f.level = .info) {s : Session}
    (hComes : s.ComesFrom story) {index : Nat} (hIndex : index < s.available.length) :
    (s.choose index).1 = .ok () := by
  rcases Session.choose_cases s index with ⟨hHigh, -⟩ | ⟨choice, hChoice, hChoose⟩
  · omega
  · obtain ⟨scene, hCurrent, hMem, -⟩ :=
      Session.mem_available_iff.mp (List.mem_of_getElem? hChoice)
    obtain ⟨⟨target, hTarget, hId⟩, -⟩ := current_choice_of_no_warning hInfo hComes hCurrent hMem
    rw [hChoose, ← hId, Session.enter_of_mem hTarget]

/-- Every warning of a report is about the target or the condition of a choice. -/
theorem warning_cases {f : Finding} (hMem : f ∈ story.check) (hWarn : f.level = .warn) :
    ∃ scene ∈ story.scenes, ∃ choice ∈ scene.choices,
      f = (Problem.danglingTarget choice).finding story.id (some scene.id) ∨
      ∃ source, choice.condition = some source ∧
        f = (Problem.invalidCondition (.missingOperator source) choice).finding story.id
          (some scene.id) := by
  obtain ⟨place, p, hProblem, rfl⟩ := mem_check_iff.mp hMem
  obtain ⟨scene, hScene, rfl, choice, hChoice, ⟨rfl, -⟩ | ⟨cause, rfl, hError⟩⟩ :=
    (mem_problems_of_warn_iff hWarn).mp hProblem
  · exact ⟨scene, hScene, choice, hChoice, Or.inl rfl⟩
  · -- An invalid condition fails for every session, so any variables tell its cause.
    obtain ⟨source, hSource, -, hParse⟩ := Condition.visible_eq_error_iff.mp (hError ∅)
    rw [Condition.eq_of_parse_error hParse]
    exact ⟨scene, hScene, choice, hChoice, Or.inr ⟨source, hSource, rfl⟩⟩

theorem choose_error_of_mem_check
    (hMem : (Problem.danglingTarget choice).finding story.id place ∈ story.check) {s : Session}
    (hComes : s.ComesFrom story) {index : Nat} (hChoice : s.available[index]? = some choice) :
    (s.choose index).1 = .error (.sceneNotFound choice.next) := by
  have hAbsent := target_absent_of_mem_check hMem
  rw [← (Session.shows_of_comesFrom hComes).1] at hAbsent
  rw [Session.choose_error_iff]
  exact Or.inr ⟨choice, hChoice, rfl, hAbsent⟩

/--
**What a report says holds in every play.** A report has an error exactly if the
story cannot be started. If it has neither errors nor warnings, then wherever
visits lead, every choice that can be seen can be followed and no condition of
the scene fails. Every warning is about a choice of the story: one reported for
its target is refused for that target wherever it can be seen, and one reported
for its condition is never seen.
-/
theorem check_tells_of_play (story : Story) :
    (story.check.hasErrors = true ↔ ∃ cause, Session.start story = .error cause) ∧
    ((∀ f ∈ story.check, f.level = .info) → ∀ s : Session, s.ComesFrom story →
      (∀ index < s.available.length, (s.choose index).1 = .ok ()) ∧
      ∀ scene, s.scene? = some scene → ∀ choice ∈ scene.choices,
        ∃ b, Condition.visible s.vars choice.condition = .ok b) ∧
    (∀ f ∈ story.check, f.level = .warn → ∃ scene ∈ story.scenes, ∃ choice ∈ scene.choices,
      f = (Problem.danglingTarget choice).finding story.id (some scene.id) ∨
      ∃ source, choice.condition = some source ∧
        f = (Problem.invalidCondition (.missingOperator source) choice).finding story.id
          (some scene.id)) ∧
    (∀ (place : Option String) (choice : Choice),
      (Problem.danglingTarget choice).finding story.id place ∈ story.check →
      ∀ s : Session, s.ComesFrom story → ∀ index, s.available[index]? = some choice →
        (s.choose index).1 = .error (.sceneNotFound choice.next)) ∧
    ∀ (place : Option String) (choice : Choice) (source : String),
      choice.condition = some source →
      (Problem.invalidCondition (.missingOperator source) choice).finding story.id place ∈
        story.check →
      ∀ s : Session, s.ComesFrom story → choice ∉ s.available := by
  refine ⟨hasErrors_check_iff_start_error, ?_, fun f => warning_cases, ?_, ?_⟩
  · intro hInfo s hComes
    constructor
    · intro index hIndex
      exact choose_ok_of_no_warning hInfo hComes hIndex
    · intro scene hCurrent choice hChoice
      exact (current_choice_of_no_warning hInfo hComes hCurrent hChoice).2
  · intro place choice hMem s hComes index hChoice
    exact choose_error_of_mem_check hMem hComes hChoice
  · intro place choice source hCondition hMem s _
    exact Session.not_mem_available (visible_error_of_mem_check hCondition hMem s.vars)

-- A choice without a target and one whose condition has no operator.
example : (Story.ofScenes "gate" [⟨"start", "Gate",
    [⟨"down", "cellar", none⟩, ⟨"up", "start", some "gold"⟩]⟩]).check.map (·.message) =
      ["未定义的跳转目标: **cellar**", "无效的条件: 条件 'gold' 中没有可识别的运算符"] := by
  decide +kernel

end Story

end Gamebook
