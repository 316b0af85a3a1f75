import Std.Data.ExtTreeMap
import Gamebook.Json.Error
import Gamebook.Story.Basic

/-!
# Gamebook — story documents

* `Passage` — a scene as a document holds it, without its name.
* `Document` — passages by scene name, in the order of the names.
* `Story.ofDocument` — the story of a document.
* `StoryError` — why a text is no story.
-/

namespace Gamebook

/-- A scene without its name. -/
structure Passage where
  text : String
  choices : List Choice
deriving DecidableEq

abbrev Document := Std.ExtTreeMap String Passage

/-- The scene of a name and a passage. -/
def Passage.scene (id : String) (p : Passage) : Scene := ⟨id, p.text, p.choices⟩

/-- The story of a document, its scenes in the order of their names. -/
def Story.ofDocument (id : String) (document : Document) : Story :=
  .ofScenes id (document.toList.map fun p => p.2.scene p.1)

/-- Why a text is no story. -/
inductive StoryError where
  | invalidDocument (id : String) (cause : Json.Error)
deriving DecidableEq

def StoryError.message : StoryError → String
  | invalidDocument id cause => "脚本 '" ++ id ++ "' 解析失败: " ++ cause.message

end Gamebook
