import Gamebook.Player.Journal
import Gamebook.Player.Render
import Gamebook.Player.Selection
import Gamebook.Text.Lines

/-!
# Gamebook — playing a story

* `Event` — what happens in a play, in the order in which it happens.
* `Happening` — an event with what it puts out, which the settings decide on the spot.
* `Phase` — what a play waits for between two lines of input.
* `Phase.arrive`, `Phase.answer` — what happens on arriving at a scene and on a
  line of input.
* `Play.perform` — a whole play on a list of lines.

The settings choose between text and lines of JSON wherever something is put
out, and they say whether the player is asked to play again. Each phase that
waits takes one line, so a play on finitely many lines ends.
-/

namespace Gamebook

/-- What happens in a play. -/
inductive Event where
  | shown (view : View)
  | prompted (count : Nat)
  /-- A line selects nothing. -/
  | rejected (cause : SelectionError)
  /-- The selected choice cannot be followed. -/
  | failed (cause : SessionError)
  /-- A selection was dealt with, whether or not it could be followed. -/
  | handled
  | ended (view : View)
  | asked
  | noted (entry : Entry)
deriving DecidableEq

/-- An event and the text that it adds to the output. -/
structure Happening where
  event : Event
  written : String

namespace Happening

/-- A note for the journal adds nothing to the output. -/
def note (entry : Entry) : Happening := ⟨.noted entry, ""⟩

/-- A question to the player. As JSON it is left out. -/
def question (settings : Settings) (event : Event) (text : String) : Happening :=
  ⟨event, if settings.jsonOutput then "" else text⟩

/-- An error that the player is told about. The mark in front of it is for text only. -/
def report (settings : Settings) (event : Event) (mark message : String) : Happening :=
  ⟨event, if settings.jsonOutput then errorLine message else mark ++ message ++ "\n"⟩

end Happening

/-- What a play waits for. -/
inductive Phase where
  /-- A selection from the choices of a view. -/
  | choosing (session : Session) (view : View)
  /-- Whether to play again. -/
  | asking (session : Session)
  /-- Nothing any more. -/
  | stopped (how : Ending)

namespace Phase

/-- What happens on arriving at a scene. -/
def arrive (settings : Settings) (s : Session) : List Happening × Phase :=
  let notes := s.hiddenEntries.map Happening.note
  let view := s.view
  if view.finished then
    let closing := notes ++
      [⟨.ended view, if settings.jsonOutput then view.line else view.ending settings⟩,
        .note (.storyFinished view.sceneId)]
    if settings.askRestart then
      (closing ++ [.question settings .asked restartQuestion], asking s)
    else (closing, stopped .finished)
  else
    (notes ++
      [⟨.shown view, if settings.jsonOutput then view.line else view.scene settings⟩,
        .question settings (.prompted view.choices.length) (View.prompt view.choices.length)],
      choosing s view)

/-- What happens when a story is started from a session. -/
def begin (settings : Settings) (s : Session) (story : Story) : List Happening × Phase :=
  let notes := (s.loadEntries story).map Happening.note
  match s.load story with
  | (.ok (), s') => (notes ++ (arrive settings s').1, (arrive settings s').2)
  | (.error cause, _) => (notes, stopped (.refused cause))

/-- What happens when the choice at a place is followed. -/
def follow (settings : Settings) (s : Session) (index : Nat) : List Happening × Phase :=
  let notes := (s.chooseEntries index).map Happening.note
  let handled : Happening := ⟨.handled, if settings.jsonOutput then "" else "\n"⟩
  match s.choose index with
  | (.ok (), s') => (notes ++ handled :: (arrive settings s').1, (arrive settings s').2)
  -- The play goes on with the session that the refused move left behind.
  | (.error cause, s') =>
    (notes ++ .note (.choiceFailed cause) ::
        .report settings (.failed cause) failureMark cause.message ::
        handled :: (arrive settings s').1,
      (arrive settings s').2)

/-- The answers that start the story again. -/
def isYes (line : String) : Bool :=
  let answer := Text.trimmed line
  answer == "y" || answer == "Y" || answer == "yes"

/-- What happens on a line of input. -/
def answer (settings : Settings) (story : Story) (line : String) :
    Phase → List Happening × Phase
  | choosing s view =>
    match Selection.parse line view.choices.length with
    | .ok index => follow settings s index
    -- A line that selects nothing is answered, and the same choices stay open.
    | .error cause =>
      ([.report settings (.rejected cause) "" cause.message,
        .question settings (.prompted view.choices.length) (View.prompt view.choices.length)],
        choosing s view)
  | asking s => if isYes line then begin settings s story else ([], stopped .finished)
  | stopped how => ([], stopped how)

end Phase

/-- A play: what happened, how it ended, and the lines it did not read. -/
structure Play where
  happenings : List Happening
  ending : Ending
  unread : List Line

namespace Play

/-- What happens from a phase on. -/
def goOn (settings : Settings) (story : Story) : Phase → List Line → Play
  | .stopped how, lines => ⟨[], how, lines⟩
  | _, [] => ⟨[], .inputClosed, []⟩
  | _, .unreadable :: lines => ⟨[], .unreadable, lines⟩
  | phase, .text line :: lines =>
    let happened := phase.answer settings story line
    let rest := goOn settings story happened.2 lines
    { rest with happenings := happened.1 ++ rest.happenings }

/-- A play of a story on some lines of input. -/
def perform (settings : Settings) (story : Story) (lines : List Line) : Play :=
  let happened := Phase.begin settings .blank story
  let rest := goOn settings story happened.2 lines
  { rest with happenings := happened.1 ++ rest.happenings }

/-- A play under the usual settings, but for the question whether to play again. -/
def run (ask : Bool) (story : Story) (lines : List Line) : Play :=
  perform { askRestart := ask } story lines

def events (p : Play) : List Event := p.happenings.map Happening.event

/-- What a play has put out. -/
def written (p : Play) : String := String.join (p.happenings.map Happening.written)

end Play

end Gamebook
