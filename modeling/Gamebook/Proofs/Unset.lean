import Gamebook.Proofs.Placeholders
import Gamebook.Proofs.Remarks
import Gamebook.Session.View

/-!
# Gamebook — variables that are never set

The check collects the variables of all directives of a story, wherever they
stand. A play that loads no other story carries out no other directives, so what
the check calls never set is undefined in every scene of the play: a choice that
asks for it is decided by its operator alone, and its placeholder is shown as it
was written.

* `Story.mem_assigned_iff` — the variables that the check collects.
* `Session.Plays` — the sessions that a play of one story leads to.
* `Session.comesFrom_of_plays` — loading the story again begins it again.
* `Session.mem_assigned_of_comesFrom` — a play defines collected variables only.
* `Operator.holds_none_iff` — comparisons with an undefined left side.
* `unset_remarks_hold` — what a report calls never set, against every play.
-/

namespace Gamebook

open Text

/-- An undefined left side differs from everything, and that is all that holds of it. -/
theorem Operator.holds_none_iff {op : Operator} {operand : Value} :
    op.holds none operand = true ↔ op = .notEqual := by
  cases op <;> simp [holds, equals]

namespace Story

variable {story : Story} {name id : String} {d : Directive}

theorem mem_assigned_iff : name ∈ story.assigned ↔
    ∃ scene ∈ story.scenes, ∃ d ∈ Template.directives scene.text, d.target = name := by
  simp only [assigned, List.mem_eraseDups, List.mem_flatMap, List.mem_map]

theorem target_mem_assigned (hMem : d ∈ story.directivesOf id) : d.target ∈ story.assigned := by
  unfold directivesOf at hMem
  split at hMem
  · rename_i scene hScene
    exact mem_assigned_iff.mpr ⟨scene, (scene?_eq_some_iff.mp hScene).1, d, hMem, rfl⟩
  · cases hMem

end Story

/-- A move that loads no other story. -/
def Move.StaysIn (story : Story) : Move → Prop
  | load story' => story' = story
  | enter _ => True
  | choose _ => True

namespace Session

variable {s s₀ : Session} {story : Story} {scene : Scene} {name : String}

-- ---------------------------------------------------------------------------
-- Plays of one story
-- ---------------------------------------------------------------------------

/-- The session is one of a play of the story: moves lead to it from the start, and none of them
loads another story. -/
def Plays (s : Session) (story : Story) : Prop :=
  ∃ (s₀ : Session) (moves : List Move), start story = .ok s₀ ∧
    (∀ m ∈ moves, m.StaysIn story) ∧ s = s₀.play moves

theorem tour_concat (s : Session) (visits : List Visit) (v : Visit) :
    s.tour (visits ++ [v]) = (s.tour visits).after v.move :=
  tour_append s visits [v]

/-- A move that loads no other story leads on from where it is made, or begins again. -/
theorem comesFrom_after (hComes : s.ComesFrom story) {m : Move} (hStays : m.StaysIn story) :
    (s.after m).ComesFrom story := by
  obtain ⟨s₀, visits, hStart, rfl⟩ := hComes
  cases m with
  | load story' =>
    have hSame : story' = story := hStays
    refine ⟨s₀, [], hStart, ?_⟩
    rw [after, perform, hSame, load_eq_of_start hStart]
    rfl
  | enter id =>
    exact ⟨s₀, visits ++ [Visit.enter id], hStart, (tour_concat s₀ visits (.enter id)).symm⟩
  | choose index =>
    exact ⟨s₀, visits ++ [Visit.choose index], hStart, (tour_concat s₀ visits (.choose index)).symm⟩

theorem comesFrom_play {moves : List Move} (hComes : s.ComesFrom story)
    (hStay : ∀ m ∈ moves, m.StaysIn story) : (s.play moves).ComesFrom story := by
  induction moves generalizing s with
  | nil => exact hComes
  | cons m moves ih =>
    have hAfter := comesFrom_after hComes (hStay m List.mem_cons_self)
    exact ih hAfter fun m' hMem => hStay m' (List.mem_cons_of_mem _ hMem)

theorem comesFrom_of_plays (hPlays : s.Plays story) : s.ComesFrom story := by
  obtain ⟨s₀, moves, hStart, hStay, rfl⟩ := hPlays
  exact comesFrom_play ⟨s₀, [], hStart, rfl⟩ hStay

-- ---------------------------------------------------------------------------
-- Variables
-- ---------------------------------------------------------------------------

/-- Every defined variable has been set by a directive of the story. -/
theorem mem_assigned_of_comesFrom (hComes : s.ComesFrom story) (hDefined : name ∈ s.vars) :
    name ∈ story.assigned := by
  obtain ⟨s₀, visits, hStart, rfl⟩ := hComes
  obtain ⟨hStory, hVars⟩ := vars_of_start hStart
  rw [vars_tour, hStory, hVars, ← List.foldl_append, Directive.mem_foldl_iff] at hDefined
  rcases hDefined with hBefore | ⟨d, hMem, rfl⟩
  · exact absurd hBefore Std.ExtTreeMap.not_mem_empty
  · rcases List.mem_append.mp hMem with hFirst | hLater
    · exact Story.target_mem_assigned hFirst
    · obtain ⟨id, -, hId⟩ := List.mem_flatMap.mp hLater
      exact Story.target_mem_assigned hId

/-- Entering a scene defines the variables that its directives set. -/
theorem mem_vars_inScene {d : Directive} (hMem : d ∈ Template.directives scene.text) :
    d.target ∈ (s.inScene scene).vars :=
  Directive.mem_foldl_iff.mpr (Or.inr ⟨d, hMem, rfl⟩)

-- ---------------------------------------------------------------------------
-- Choices and texts that need an undefined variable
-- ---------------------------------------------------------------------------

/-- A choice that asks for an undefined variable can be seen exactly if it asks for a
difference. -/
theorem mem_available_of_undefined (hCurrent : s.scene? = some scene) {choice : Choice}
    (hChoice : choice ∈ scene.choices) {source : String}
    (hCondition : choice.condition = some source) (hEmpty : source.isEmpty = false)
    {condition : Condition} (hParse : Condition.parse source = .ok condition)
    (hUndefined : condition.name ∉ s.vars) :
    choice ∈ s.available ↔ condition.op = .notEqual := by
  have hVisible : Condition.visible s.vars choice.condition = .ok (condition.holds s.vars) := by
    rw [hCondition, Condition.visible, hEmpty, hParse]
    rfl
  have hHolds : condition.holds s.vars = condition.op.holds none condition.operand := by
    rw [Condition.holds, Std.ExtTreeMap.getElem?_eq_none hUndefined]
  have hSees : s.sees choice = true ↔ condition.op = .notEqual := by
    rw [← @Operator.holds_none_iff _ condition.operand, ← hHolds, sees, hVisible]
  rw [mem_available_iff, ← hSees]
  constructor
  · rintro ⟨-, -, -, hSeen⟩
    exact hSeen
  · intro hSeen
    exact ⟨scene, hCurrent, hChoice, hSeen⟩

/-- A session that has come from the start of a story shows the text of its current scene with the
values of now. -/
theorem text_of_comesFrom (hComes : s.ComesFrom story) (hCurrent : s.scene? = some scene) :
    s.text = Template.fill scene.text s.vars := by
  obtain ⟨-, scene', hShows⟩ := shows_of_comesFrom hComes
  have hSame := hShows.current
  rw [hCurrent] at hSame
  cases hSame
  exact hShows.text_eq

end Session

namespace Story

/--
**What is called never set is undefined in every play.** A play of a story, which
may enter scenes, follow choices and load the story again, defines variables
only that some directive of the story sets, and each of these is defined by
entering a scene. When a report says of a condition that its variable is never
set, the choices of that scene with this condition can be seen at every visit if
the operator is `!=`, and at none with any other. When a report says this of a
placeholder, each of its places in that scene shows the placeholder as it was
written, braces included, between the texts on the two sides.
-/
theorem unset_remarks_hold (story : Story) :
    (∀ s : Session, s.Plays story → ∀ name ∈ s.vars, name ∈ story.assigned) ∧
    (∀ name ∈ story.assigned, ∃ scene ∈ story.scenes, ∀ s : Session, s.Plays story →
      (s.enter scene.id).1 = .ok () ∧ name ∈ (s.enter scene.id).2.vars) ∧
    (∀ (place : Option String) (name source : String),
      (Problem.unsetCondition name source).finding story.id place ∈ story.check →
      ∃ scene ∈ story.scenes, place = some scene.id ∧
        (∃ choice ∈ scene.choices, choice.condition = some source) ∧
        ∃ condition, Condition.parse source = .ok condition ∧ condition.name = name ∧
        ∀ choice ∈ scene.choices, choice.condition = some source →
          ∀ s : Session, s.Plays story → s.scene? = some scene →
            (choice ∈ s.available ↔ condition.op = .notEqual)) ∧
    ∀ (place : Option String) (name : String),
      (Problem.unsetPlaceholder name).finding story.id place ∈ story.check →
      ∃ scene ∈ story.scenes, place = some scene.id ∧
        (∃ before behind, Template.Has scene.text name before behind) ∧
        ∀ before behind, Template.Has scene.text name before behind →
          ∀ s : Session, s.Plays story → s.scene? = some scene →
            s.text.toList = interpolate s.vars (trimStart before) ++
              ('\x7b' :: (name.toList ++ ['\x7d']) ++ interpolate s.vars (trimEnd behind)) := by
  have hUndefined : ∀ name, name ∉ story.assigned → ∀ s : Session, s.ComesFrom story →
      name ∉ s.vars :=
    fun name hUnset s hComes hDefined =>
      hUnset (Session.mem_assigned_of_comesFrom hComes hDefined)
  refine ⟨?_, ?_, ?_, ?_⟩
  · intro s hPlays name hDefined
    exact Session.mem_assigned_of_comesFrom (Session.comesFrom_of_plays hPlays) hDefined
  · intro name hAssigned
    obtain ⟨scene, hScene, d, hMem, rfl⟩ := mem_assigned_iff.mp hAssigned
    refine ⟨scene, hScene, ?_⟩
    intro s hPlays
    have hStory := (Session.shows_of_comesFrom (Session.comesFrom_of_plays hPlays)).1
    rw [Session.enter_of_mem (hStory ▸ hScene)]
    exact ⟨rfl, Session.mem_vars_inScene hMem⟩
  · intro place name source hReport
    obtain ⟨scene, hScene, hPlace, choice, hChoice, hCondition, hEmpty, condition, hParse, rfl,
      hUnset⟩ := unsetCondition_mem_check_iff.mp hReport
    refine ⟨scene, hScene, hPlace, ⟨choice, hChoice, hCondition⟩, condition, hParse, rfl, ?_⟩
    intro choice' hChoice' hCondition' s hPlays hCurrent
    exact Session.mem_available_of_undefined hCurrent hChoice' hCondition' hEmpty hParse
      (hUndefined _ hUnset s (Session.comesFrom_of_plays hPlays))
  · intro place name hReport
    obtain ⟨scene, hScene, hPlace, hName, hUnset⟩ := unsetPlaceholder_mem_check_iff.mp hReport
    refine ⟨scene, hScene, hPlace, Template.mem_placeholders_iff.mp hName, ?_⟩
    intro before behind hHas s hPlays hCurrent
    have hComes := Session.comesFrom_of_plays hPlays
    rw [Session.text_of_comesFrom hComes hCurrent]
    exact Template.fill_of_has hHas (hUndefined name hUnset s hComes)

-- Nothing gives the player a key: the door stays shut, and the wall can be climbed.
example : (Session.blank.play [.load (.ofScenes "house" [⟨"start", "You have \x7bkey\x7d.",
    [⟨"open", "start", some "key == 1"⟩, ⟨"climb", "start", some "key != 1"⟩]⟩])]).view =
      ⟨"start", "You have \x7bkey\x7d.", [⟨0, "climb"⟩], false⟩ := by
  decide +kernel

end Story

end Gamebook
