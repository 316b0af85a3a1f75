import Gamebook.Json.Basic
import Gamebook.Json.Read
import Gamebook.Story.Document

/-!
# Gamebook — stories in JSON

* `Choice.toJson`, `Scene.toJson` — a scene of a loaded story; a choice without
  a condition leaves the field out.
* `Passage.toJson`, `Document.toJson` — a story document: an object from scene
  names to passages; a choice without a condition has a null there.
* `Choice.reader`, `Scene.reader`, `Passage.reader`, `Document.reader` — their
  readers. A passage may leave out its choices, a choice its condition.
* `Story.ofText` — the story that a text holds.
-/

namespace Gamebook

open Json

namespace Choice

def commonFields (c : Choice) : List (String × Json) :=
  [("text", .string c.text), ("next", .string c.next)]

/-- A choice of a loaded story as JSON. -/
def toJson (c : Choice) : Json :=
  match c.condition with
  | none => .object c.commonFields
  | some condition => .object (c.commonFields ++ [("condition", .string condition)])

/-- A choice of a document as JSON. -/
def toDocumentJson (c : Choice) : Json :=
  .object (c.commonFields ++ [("condition", (c.condition.map Json.string).getD .null)])

structure Partly where
  text : Option String := none
  next : Option String := none
  condition : Option (Option String) := none

/-- A choice as a record; `name` is what it is called in messages. -/
def record (name : String) : Record Partly Choice where
  name := name
  fields := [
    { name := "text", optional := false
      filled := fun p => p.text.isSome
      fill := fun depth v p => do .ok { p with text := some (← Reader.string depth v) } },
    { name := "next", optional := false
      filled := fun p => p.next.isSome
      fill := fun depth v p => do .ok { p with next := some (← Reader.string depth v) } },
    { name := "condition", optional := true
      filled := fun p => p.condition.isSome
      fill := fun depth v p => do
        .ok { p with condition := some (← Reader.optional Reader.string depth v) } }]
  empty := {}
  done := fun p => do
    let text ← Record.required "text" p.text
    let next ← Record.required "next" p.next
    .ok { text, next, condition := p.condition.getD none }

def reader : Reader Choice := (record "Choice").read

def documentReader : Reader Choice := (record "ChoiceDocument").read

end Choice

namespace Scene

def toJson (s : Scene) : Json :=
  .object [("id", .string s.id), ("text", .string s.text),
    ("choices", .array (s.choices.map Choice.toJson))]

structure Partly where
  id : Option String := none
  text : Option String := none
  choices : Option (List Choice) := none

def record : Record Partly Scene where
  name := "Scene"
  fields := [
    { name := "id", optional := false
      filled := fun p => p.id.isSome
      fill := fun depth v p => do .ok { p with id := some (← Reader.string depth v) } },
    { name := "text", optional := false
      filled := fun p => p.text.isSome
      fill := fun depth v p => do .ok { p with text := some (← Reader.string depth v) } },
    { name := "choices", optional := false
      filled := fun p => p.choices.isSome
      fill := fun depth v p => do
        .ok { p with choices := some (← Reader.list Choice.reader depth v) } }]
  empty := {}
  done := fun p => do
    let id ← Record.required "id" p.id
    let text ← Record.required "text" p.text
    let choices ← Record.required "choices" p.choices
    .ok { id, text, choices }

def reader : Reader Scene := record.read

end Scene

namespace Passage

def toJson (p : Passage) : Json :=
  .object [("text", .string p.text), ("choices", .array (p.choices.map Choice.toDocumentJson))]

structure Partly where
  text : Option String := none
  choices : Option (List Choice) := none

def record : Record Partly Passage where
  name := "SceneDocument"
  fields := [
    { name := "text", optional := false
      filled := fun p => p.text.isSome
      fill := fun depth v p => do .ok { p with text := some (← Reader.string depth v) } },
    { name := "choices", optional := true
      filled := fun p => p.choices.isSome
      fill := fun depth v p => do
        .ok { p with choices := some (← Reader.list Choice.documentReader depth v) } }]
  empty := {}
  done := fun p => do
    let text ← Record.required "text" p.text
    .ok { text, choices := p.choices.getD [] }

def reader : Reader Passage := record.read

end Passage

namespace Document

/-- A document as JSON, in the order of the scene names. -/
def toJson (d : Document) : Json := .object (d.toList.map fun p => (p.1, p.2.toJson))

/-- The document of passages in the order written; the last one of a name counts. -/
def ofMembers (members : List (String × Passage)) : Document :=
  members.foldl (fun d m => d.insert m.1 m.2) ∅

def reader : Reader Document := fun depth v => (Reader.pairs Passage.reader depth v).map ofMembers

end Document

/-- The story that a text holds. -/
def Story.ofText (id : String) (text : String) : Except StoryError Story :=
  match Json.ofText Document.reader text with
  | .ok document => .ok (.ofDocument id document)
  | .error cause => .error (.invalidDocument id cause)

end Gamebook
