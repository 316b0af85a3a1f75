import Gamebook.Json.Basic
import Gamebook.Json.Read
import Gamebook.Session.View

/-!
# Gamebook — views in JSON

* `View.toJson`, `View.reader` — a view as an object with the fields
  `scene_id`, `text`, `choices` and `finished`.
-/

namespace Gamebook

open Json

namespace ChoiceView

def toJson (c : ChoiceView) : Json := .object [("index", .count c.index), ("text", .string c.text)]

structure Partly where
  index : Option Nat := none
  text : Option String := none

def record : Record Partly ChoiceView where
  name := "ChoiceView"
  fields := [
    { name := "index", optional := false
      filled := fun p => p.index.isSome
      fill := fun depth v p => do .ok { p with index := some (← Reader.count depth v) } },
    { name := "text", optional := false
      filled := fun p => p.text.isSome
      fill := fun depth v p => do .ok { p with text := some (← Reader.string depth v) } }]
  empty := {}
  done := fun p => do
    let index ← Record.required "index" p.index
    let text ← Record.required "text" p.text
    .ok { index, text }

def reader : Reader ChoiceView := record.read

end ChoiceView

namespace View

def toJson (v : View) : Json :=
  .object [("scene_id", .string v.sceneId), ("text", .string v.text),
    ("choices", .array (v.choices.map ChoiceView.toJson)), ("finished", .bool v.finished)]

structure Partly where
  sceneId : Option String := none
  text : Option String := none
  choices : Option (List ChoiceView) := none
  finished : Option Bool := none

def record : Record Partly View where
  name := "SceneView"
  fields := [
    { name := "scene_id", optional := false
      filled := fun p => p.sceneId.isSome
      fill := fun depth v p => do .ok { p with sceneId := some (← Reader.string depth v) } },
    { name := "text", optional := false
      filled := fun p => p.text.isSome
      fill := fun depth v p => do .ok { p with text := some (← Reader.string depth v) } },
    { name := "choices", optional := false
      filled := fun p => p.choices.isSome
      fill := fun depth v p => do
        .ok { p with choices := some (← Reader.list ChoiceView.reader depth v) } },
    { name := "finished", optional := false
      filled := fun p => p.finished.isSome
      fill := fun depth v p => do .ok { p with finished := some (← Reader.boolean depth v) } }]
  empty := {}
  done := fun p => do
    let sceneId ← Record.required "scene_id" p.sceneId
    let text ← Record.required "text" p.text
    let choices ← Record.required "choices" p.choices
    let finished ← Record.required "finished" p.finished
    .ok { sceneId, text, choices, finished }

def reader : Reader View := record.read

end View

end Gamebook
