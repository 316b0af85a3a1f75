import Gamebook.Session.Basic

/-!
# Gamebook — views

* `View` — what a player is shown of a session: the scene, its text, and the
  numbered choices that can be seen.
* `Session.view` — the view of a session.
-/

namespace Gamebook

/-- A choice as it is shown. -/
structure ChoiceView where
  /-- Its place among the visible choices, from zero. -/
  index : Nat
  text : String
deriving DecidableEq

/-- What a player is shown of a session. -/
structure View where
  sceneId : String
  text : String
  choices : List ChoiceView
  /-- Whether there is nothing to choose. -/
  finished : Bool
deriving DecidableEq

/-- Choices with their places. -/
def ChoiceView.number (choices : List Choice) : List ChoiceView :=
  choices.zipIdx.map fun p => ⟨p.2, p.1.text⟩

def Session.view (s : Session) : View :=
  let choices := ChoiceView.number s.available
  { sceneId := s.cursor, text := s.text, choices, finished := choices.isEmpty }

end Gamebook
