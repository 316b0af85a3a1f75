import Gamebook.Form.View
import Gamebook.Player.Settings

/-!
# Gamebook — views and errors as output

* `View.scene`, `View.ending`, `View.prompt` — a view as text.
* `View.line`, `errorLine` — a view and the message of an error as lines of JSON.
-/

namespace Gamebook

namespace View

/-- The name of the scene above its text, if the settings ask for it. -/
def header (settings : Settings) (v : View) : String :=
  if settings.showSceneId then "[" ++ v.sceneId ++ "]\n" else ""

def choiceLine (c : ChoiceView) : String := toString (c.index + 1) ++ ". " ++ c.text ++ "\n"

def scene (settings : Settings) (v : View) : String :=
  v.header settings ++ v.text ++ "\n\n" ++ String.join (v.choices.map choiceLine)

/-- The question for a selection. -/
def prompt (count : Nat) : String := "选择行动 (1-" ++ toString count ++ ") 并回车："

/-- A last scene with the message below it. -/
def ending (settings : Settings) (v : View) : String :=
  v.header settings ++ v.text ++ "\n\n" ++ settings.endMessage ++ "\n"

def line (v : View) : String := v.toJson.text ++ "\n"

end View

/-- The message of an error as JSON. -/
def errorObject (message : String) : Json := .object [("error", .string message)]

def errorLine (message : String) : String := (errorObject message).text ++ "\n"

/-- The question whether to play again. -/
def restartQuestion : String := "重新开始？(y/n)："

/-- What stands in front of the error of a choice that cannot be followed. -/
def failureMark : String := "⚠️ "

end Gamebook
