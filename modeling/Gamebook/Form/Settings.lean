import Gamebook.Json.Basic
import Gamebook.Json.Read
import Gamebook.Player.Settings

/-!
# Gamebook — settings in JSON

* `Settings.toJson`, `Settings.reader` — settings as an object. Every field may
  be left out and then has its usual value.
-/

namespace Gamebook

open Json

namespace Settings

def toJson (s : Settings) : Json :=
  .object [("log_level", .string s.logLevel), ("show_scene_id", .bool s.showSceneId),
    ("json_output", .bool s.jsonOutput), ("end_message", .string s.endMessage),
    ("ask_restart", .bool s.askRestart)]

structure Partly where
  logLevel : Option String := none
  showSceneId : Option Bool := none
  jsonOutput : Option Bool := none
  endMessage : Option String := none
  askRestart : Option Bool := none

/-- What was read, over the usual values. -/
def Partly.overlay (p : Partly) (usual : Settings) : Settings where
  logLevel := p.logLevel.getD usual.logLevel
  showSceneId := p.showSceneId.getD usual.showSceneId
  jsonOutput := p.jsonOutput.getD usual.jsonOutput
  endMessage := p.endMessage.getD usual.endMessage
  askRestart := p.askRestart.getD usual.askRestart

def record : Record Partly Settings where
  name := "CliConfig"
  fields := [
    { name := "log_level", optional := true
      filled := fun p => p.logLevel.isSome
      fill := fun depth v p => do .ok { p with logLevel := some (← Reader.string depth v) } },
    { name := "show_scene_id", optional := true
      filled := fun p => p.showSceneId.isSome
      fill := fun depth v p => do .ok { p with showSceneId := some (← Reader.boolean depth v) } },
    { name := "json_output", optional := true
      filled := fun p => p.jsonOutput.isSome
      fill := fun depth v p => do .ok { p with jsonOutput := some (← Reader.boolean depth v) } },
    { name := "end_message", optional := true
      filled := fun p => p.endMessage.isSome
      fill := fun depth v p => do .ok { p with endMessage := some (← Reader.string depth v) } },
    { name := "ask_restart", optional := true
      filled := fun p => p.askRestart.isSome
      fill := fun depth v p => do .ok { p with askRestart := some (← Reader.boolean depth v) } }]
  empty := {}
  done := fun p => .ok (p.overlay {})

def reader : Reader Settings := record.read

end Settings

end Gamebook
