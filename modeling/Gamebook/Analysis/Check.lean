import Gamebook.Analysis.Reach
import Gamebook.Analysis.Report
import Gamebook.Condition.Basic
import Gamebook.Template.Basic

/-!
# Gamebook — checking a story without playing it

* `Problem` — what can be wrong with a story, and how serious it is.
* `Story.assigned` — the variables that some directive of the story sets.
* `Story.problems` — the problems of a story, with the scenes they are in.
* `Story.check` — the report on a story.
-/

namespace Gamebook

/-! ## Problems -/

/-- What can be wrong with a story. -/
inductive Problem where
  | missingStart
  /-- A choice leads to a scene that does not exist. -/
  | danglingTarget (choice : Choice)
  /-- A condition is about a variable that no directive sets. -/
  | unsetCondition (name source : String)
  /-- A condition cannot be read. -/
  | invalidCondition (cause : ConditionError) (choice : Choice)
  /-- A placeholder is of a variable that no directive sets. -/
  | unsetPlaceholder (name : String)
  /-- No sequence of choices leads to the scene. -/
  | unreachable
deriving DecidableEq

namespace Problem

def level : Problem → Level
  | missingStart => .error
  | danglingTarget _ | invalidCondition .. => .warn
  | unsetCondition .. | unsetPlaceholder _ | unreachable => .info

def message : Problem → String
  | missingStart => "缺少入口场景 **" ++ Story.startId ++ "**"
  | danglingTarget choice => "未定义的跳转目标: **" ++ choice.next ++ "**"
  | unsetCondition name _ => "条件引用的变量 '" ++ name ++ "' 没有被任何场景设置"
  | invalidCondition cause _ => "无效的条件: " ++ cause.message
  | unsetPlaceholder name => "占位符 \x7b" ++ name ++ "\x7d 引用的变量没有被任何场景设置"
  | unreachable => "场景不可达"

/-- What a report adds to the message. -/
def detail : Problem → Option String
  | missingStart => some "脚本加载时会进入该场景"
  | danglingTarget choice =>
    some ("选项 '" ++ choice.text ++ "' 引用了不存在的场景 '" ++ choice.next ++ "'")
  | unsetCondition _ source => some source
  | invalidCondition _ choice => some ("选项 '" ++ choice.text ++ "' 将始终被隐藏")
  | unsetPlaceholder _ | unreachable => none

def finding (script : String) (scene : Option String) (p : Problem) : Finding where
  level := p.level
  script := script
  scene := scene
  message := p.message
  detail := p.detail

end Problem

namespace Story

/-! ## The check -/

/-- The variables that some directive of the story sets, each named once. -/
def assigned (story : Story) : List String :=
  (story.scenes.flatMap fun scene =>
    (Template.directives scene.text).map Directive.target).eraseDups

/-- The problem of a choice's target. -/
def targetProblems (story : Story) (choice : Choice) : List Problem :=
  if story.contains choice.next then [] else [.danglingTarget choice]

/-- The problem of a choice's condition. The empty condition is none. -/
def conditionProblems (assigned : List String) (choice : Choice) : List Problem :=
  match choice.condition with
  | none => []
  | some source =>
    if source.isEmpty then []
    else
      match Condition.parse source with
      | .error cause => [.invalidCondition cause choice]
      | .ok condition =>
        if assigned.contains condition.name then [] else [.unsetCondition condition.name source]

/-- The problems of the placeholders of a template, one for each place. -/
def placeholderProblems (assigned : List String) (template : String) : List Problem :=
  ((Template.placeholders template).filter fun name => !assigned.contains name).map
    .unsetPlaceholder

/-- The problems in a scene: those of its choices, then those of its text. -/
def sceneProblems (story : Story) (assigned : List String) (scene : Scene) : List Problem :=
  scene.choices.flatMap (fun choice =>
    story.targetProblems choice ++ conditionProblems assigned choice) ++
      placeholderProblems assigned scene.text

/-- The scenes that cannot be reached; none if there is no start. -/
def unreachableScenes (story : Story) : List Scene :=
  if story.contains startId then
    let reachable := story.reachable
    story.scenes.filter fun scene => !reachable.contains scene.id
  else []

def problems (story : Story) : List (Option String × Problem) :=
  let assigned := story.assigned
  (if story.contains startId then [] else [(none, .missingStart)]) ++
    story.scenes.flatMap (fun scene =>
      (story.sceneProblems assigned scene).map fun p => (some scene.id, p)) ++
    story.unreachableScenes.map fun scene => (some scene.id, .unreachable)

def check (story : Story) : Report :=
  story.problems.map fun p => p.2.finding story.id p.1

end Story

end Gamebook
