import Gamebook.Player.Play

/-!
# Gamebook — the output that events stand for

* `Event.text` — an event as text.
* `Event.json?` — an event as a JSON value, if it is told as JSON at all.
* `Event.output` — what an event comes to under the settings.
* `Play.output` — what the events of a play come to.

A play puts out its text while it goes on. Here the output is told once more, from the events
alone.
-/

namespace Gamebook

namespace Event

/-- An event as text. -/
def text (settings : Settings) : Event → String
  | shown v => v.scene settings
  | prompted count => View.prompt count
  | rejected cause => cause.message ++ "\n"
  | failed cause => failureMark ++ cause.message ++ "\n"
  | handled => "\n"
  | ended v => v.ending settings
  | asked => restartQuestion
  | noted _ => ""

/-- An event as JSON: views and errors are told, all else is left out. -/
def json? : Event → Option Json
  | shown v | ended v => some v.toJson
  | rejected cause => some (errorObject cause.message)
  | failed cause => some (errorObject cause.message)
  | prompted _ | handled | asked | noted _ => none

/-- An event as a line of JSON, if it has one. -/
def line (e : Event) : String :=
  match e.json? with
  | some value => value.text ++ "\n"
  | none => ""

/-- What an event comes to under the settings. -/
def output (settings : Settings) (e : Event) : String :=
  if settings.jsonOutput then e.line else e.text settings

def entry? : Event → Option Entry
  | noted entry => some entry
  | _ => none

end Event

namespace Play

/-- What the events of a play come to under the settings. -/
def output (settings : Settings) (p : Play) : String :=
  String.join (p.events.map (Event.output settings))

def journal (p : Play) : List Entry := p.events.filterMap Event.entry?

end Play

end Gamebook
