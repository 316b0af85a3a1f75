import Gamebook.Proofs.Diagnosis

/-!
# Gamebook — the remarks of a report

Besides errors and warnings a report makes remarks: on variables that no
directive sets, in a condition or in a placeholder, and on scenes that cannot be
reached. A remark says enough to tell the problem it was made on.

* `Problem.eq_of_remark` — a remark is made on one problem only.
* `Story.mem_check_of_remark_iff` — the remarks of a report are the problems of
  the story.
* `Story.unsetCondition_mem_check_iff`, `Story.unsetPlaceholder_mem_check_iff`,
  `Story.unreachable_mem_check_iff` — when each kind of remark is made.
-/

namespace Gamebook

namespace Problem

theorem placeholder_message_ne_unreachable (name : String) :
    (unsetPlaceholder name).message ≠ unreachable.message := by
  have hPlaceholder : "占位符 \x7b".toList.head? = some '占' := by decide +kernel
  have hUnreachable : "场景不可达".toList.head? = some '场' := by decide +kernel
  show "占位符 \x7b" ++ name ++ "\x7d 引用的变量没有被任何场景设置" ≠ "场景不可达"
  rw [String.append_assoc, ← String.append_empty (s := "场景不可达")]
  exact append_ne_append hPlaceholder hUnreachable (by decide) _ _

/-- A remark tells the problem it is about. -/
theorem eq_of_remark {p q : Problem} {script : String} {place place' : Option String}
    (hInfo : p.level = .info) (hFinding : p.finding script place = q.finding script place') :
    p = q := by
  have hLevel : p.level = q.level := congrArg Finding.level hFinding
  have hMessage : p.message = q.message := congrArg Finding.message hFinding
  have hDetail : p.detail = q.detail := congrArg Finding.detail hFinding
  cases p with
  | unsetCondition name source =>
    -- The message has the variable and the detail has the condition.
    cases q with
    | unsetCondition name' source' =>
      unfold message at hMessage
      rw [String.append_left_inj, String.append_right_inj] at hMessage
      cases hMessage
      cases hDetail
      rfl
    | unsetPlaceholder name' => cases hDetail
    | unreachable => cases hDetail
    | _ => cases hLevel
  | unsetPlaceholder name =>
    cases q with
    | unsetPlaceholder name' =>
      unfold message at hMessage
      rw [String.append_left_inj, String.append_right_inj] at hMessage
      cases hMessage
      rfl
    | unsetCondition name' source' => cases hDetail
    | unreachable => exact absurd hMessage (placeholder_message_ne_unreachable name)
    | _ => cases hLevel
  | unreachable =>
    cases q with
    | unreachable => rfl
    | unsetCondition name' source' => cases hDetail
    | unsetPlaceholder name' =>
      exact absurd hMessage.symm (placeholder_message_ne_unreachable name')
    | _ => cases hLevel
  | _ => cases hInfo

end Problem

namespace Story

variable {story : Story} {scene : Scene} {p : Problem} {place : Option String}
  {name source : String}

/-- A report makes a remark on a problem exactly if the story has that problem in that place. -/
theorem mem_check_of_remark_iff {p : Problem} (hInfo : p.level = .info) :
    p.finding story.id place ∈ story.check ↔ (place, p) ∈ story.problems := by
  rw [mem_check_iff]
  constructor
  · rintro ⟨place', q, hProblem, hFinding⟩
    have hPlace : place' = place := congrArg Finding.scene hFinding
    rw [Problem.eq_of_remark hInfo hFinding.symm, ← hPlace]
    exact hProblem
  · intro hProblem
    exact ⟨place, p, hProblem, rfl⟩

theorem mem_sceneProblems_iff {assigned : List String} :
    p ∈ story.sceneProblems assigned scene ↔
      (∃ choice ∈ scene.choices,
        p ∈ story.targetProblems choice ∨ p ∈ conditionProblems assigned choice) ∨
      ∃ name ∈ Template.placeholders scene.text, name ∉ assigned ∧ p = .unsetPlaceholder name := by
  have hText : p ∈ placeholderProblems assigned scene.text ↔
      ∃ name ∈ Template.placeholders scene.text, name ∉ assigned ∧ p = .unsetPlaceholder name := by
    simp only [placeholderProblems, List.mem_map, List.mem_filter, Bool.not_eq_true',
      List.contains_eq_mem, decide_eq_false_iff_not, and_assoc, @eq_comm _ p]
  rw [sceneProblems, List.mem_append, hText, List.mem_flatMap]
  simp only [List.mem_append]

/-- A condition is remarked on exactly if it can be read and no directive sets its variable. -/
theorem unsetCondition_mem_check_iff :
    (Problem.unsetCondition name source).finding story.id place ∈ story.check ↔
      ∃ scene ∈ story.scenes, place = some scene.id ∧ ∃ choice ∈ scene.choices,
        choice.condition = some source ∧ source.isEmpty = false ∧
        ∃ condition, Condition.parse source = .ok condition ∧ condition.name = name ∧
          name ∉ story.assigned := by
  rw [mem_check_of_remark_iff rfl, mem_problems_iff]
  simp only [mem_sceneProblems_iff, mem_targetProblems_iff, mem_conditionProblems_iff,
    reduceCtorEq, and_false, false_and, exists_false, false_or, or_false,
    Problem.unsetCondition.injEq]
  constructor
  · rintro ⟨scene, hScene, hPlace, choice, hChoice, source', hCondition, hEmpty, condition, hParse,
      hUnset, rfl, rfl⟩
    exact ⟨scene, hScene, hPlace, choice, hChoice, hCondition, hEmpty, condition, hParse, rfl,
      hUnset⟩
  · rintro ⟨scene, hScene, hPlace, choice, hChoice, hCondition, hEmpty, condition, hParse, rfl,
      hUnset⟩
    exact ⟨scene, hScene, hPlace, choice, hChoice, source, hCondition, hEmpty, condition, hParse,
      hUnset, rfl, rfl⟩

/-- A placeholder is remarked on exactly if no directive sets its variable. -/
theorem unsetPlaceholder_mem_check_iff :
    (Problem.unsetPlaceholder name).finding story.id place ∈ story.check ↔
      ∃ scene ∈ story.scenes, place = some scene.id ∧
        name ∈ Template.placeholders scene.text ∧ name ∉ story.assigned := by
  rw [mem_check_of_remark_iff rfl, mem_problems_iff]
  simp only [mem_sceneProblems_iff, mem_targetProblems_iff, mem_conditionProblems_iff,
    reduceCtorEq, and_false, false_and, exists_false, false_or, or_false,
    Problem.unsetPlaceholder.injEq]
  constructor
  · rintro ⟨scene, hScene, hPlace, name', hName, hUnset, rfl⟩
    exact ⟨scene, hScene, hPlace, hName, hUnset⟩
  · rintro ⟨scene, hScene, hPlace, hName, hUnset⟩
    exact ⟨scene, hScene, hPlace, name, hName, hUnset, rfl⟩

/-- A scene is remarked on exactly if the story has a start and its search does not reach the
scene. -/
theorem unreachable_mem_check_iff :
    Problem.unreachable.finding story.id place ∈ story.check ↔
      story.contains startId = true ∧
        ∃ scene ∈ story.scenes, scene.id ∉ story.reachable ∧ place = some scene.id := by
  rw [mem_check_of_remark_iff rfl, mem_problems_iff]
  simp only [mem_sceneProblems_iff, mem_targetProblems_iff, mem_conditionProblems_iff,
    reduceCtorEq, and_false, false_and, exists_false, false_or, or_false, and_true]
  rw [unreachableScenes]
  cases story.contains startId with
  | false => simp only [Bool.false_eq_true, if_false, List.not_mem_nil, false_and, exists_false]
  | true =>
    simp only [if_true, List.mem_filter, Bool.not_eq_true', List.contains_eq_mem,
      decide_eq_false_iff_not, true_and, and_assoc]

end Story

end Gamebook
