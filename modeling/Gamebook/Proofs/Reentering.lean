import Gamebook.Proofs.Entering
import Gamebook.Proofs.Moves
import Gamebook.Session.View

/-!
# Gamebook — entering a scene again

A scene that is entered again carries out its template once more, and this time
it starts from the variables that it left behind itself. A variable that the
template sets more than once then runs through its earlier values again, and
ends with the last one, as it did before. Values are put in only behind the last
directive, so the text is the same as well.

* `Template.process_again` — a template on the variables that it left.
* `Session.enter_again`, `Session.play_enter_again` — a scene that is entered
  twice, and any number of times.
* `Session.entering_again_changes_nothing` — both, wherever a session has come to.
-/

namespace Gamebook

-- ---------------------------------------------------------------------------
-- Templates
-- ---------------------------------------------------------------------------

namespace Template

theorem assign_again (template : String) (vars : Vars) :
    assign template (assign template vars) = assign template vars :=
  foldl_insert_again Directive.target Directive.assigned (directives template) vars

/-- A template leaves the variables alone that it left behind, and shows the same text. -/
theorem process_again (template : String) (vars : Vars) :
    process template (process template vars).2 = process template vars := by
  rw [process_vars, process_eq, process_eq, shown, shown, assign_again]

end Template

-- ---------------------------------------------------------------------------
-- Sessions
-- ---------------------------------------------------------------------------

namespace Session

variable {scene : Scene}

theorem inScene_again (s : Session) (scene : Scene) :
    (s.inScene scene).inScene scene = s.inScene scene := by
  rw [inScene, inScene, Template.shown, Template.shown, Template.assign_again]

/-- The answer is the same the second time, and so is the session. -/
theorem enter_again (s : Session) (id : String) : (s.enter id).2.enter id = s.enter id := by
  rcases enter_cases s id with ⟨-, hEnter⟩ | ⟨scene, hMem, rfl, hEnter⟩
  · rw [hEnter, hEnter]
  · have hMem' : scene ∈ (s.inScene scene).story.scenes := hMem
    rw [hEnter, enter_of_mem hMem', inScene_again]

/-- From the second time on a scene may be entered any number of times. -/
theorem play_enter_again (s : Session) (id : String) (times : Nat) :
    s.play (List.replicate (times + 1) (.enter id)) = (s.enter id).2 := by
  -- The first time is split off, and leaves a session in which all others change nothing.
  have hStays : ∀ times,
      (s.enter id).2.play (List.replicate times (.enter id)) = (s.enter id).2 := by
    intro times
    induction times with
    | zero => rfl
    | succ times ih =>
      have hAfter : (s.enter id).2.after (.enter id) = (s.enter id).2 :=
        congrArg Prod.snd (enter_again s id)
      rw [List.replicate_succ, play, List.foldl_cons, hAfter]
      exact ih
  rw [List.replicate_succ, play, List.foldl_cons]
  exact hStays times

/--
**Entering a scene again changes nothing.** Wherever a session has come to after
any moves, a scene of its story can be entered, and entering it a second time is
answered in the same way and leaves the same session behind: the variables, the
cursor, the text and so the view. The same holds for any number of times, and
for a template by itself: on the variables that it has left behind it leaves
them as they are and gives the same text, whatever variables it sets and however
often it sets each of them.
-/
theorem entering_again_changes_nothing :
    (∀ (moves : List Move) (id : String),
      let s := blank.play moves
      let once := s.enter id
      (once.1 = .ok () ↔ s.story.contains id = true) ∧
      once.2.enter id = once ∧
      (once.2.enter id).2.view = once.2.view ∧
      ∀ times : Nat, s.play (List.replicate (times + 1) (.enter id)) = once.2) ∧
    ∀ (template : String) (vars : Vars),
      Template.process template (Template.process template vars).2 =
        Template.process template vars := by
  refine ⟨fun moves id => ?_, Template.process_again⟩
  intro s once
  have hAgain : once.2.enter id = once := enter_again s id
  refine ⟨?_, hAgain, by rw [hAgain], play_enter_again s id⟩
  rw [Story.contains_iff]
  rcases enter_cases s id with ⟨hAbsent, hEnter⟩ | ⟨scene, hMem, hId, hEnter⟩
  · have hRefused : once.1 = .error (.sceneNotFound id) := congrArg Prod.fst hEnter
    rw [hRefused]
    simp only [reduceCtorEq, false_iff]
    rintro ⟨scene, hMem, hId⟩
    exact hAbsent scene hMem hId
  · have hEntered : once.1 = .ok () := congrArg Prod.fst hEnter
    exact iff_of_true hEntered ⟨scene, hMem, hId⟩

end Session

end Gamebook
