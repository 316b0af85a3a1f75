import Gamebook.Condition.Basic
import Gamebook.Story.Basic
import Gamebook.Template.Basic

/-!
# Gamebook — sessions

* `Session` — a story being played: the story, the variables, the name of the
  current scene and the text it showed when it was entered.
* `Reply` — what comes of a move: its answer, and the session it leaves behind.
* `Session.load`, `Session.enter`, `Session.choose` — the three moves.
* `Session.available` — the choices of the current scene that can be seen.
* `Move`, `Session.play` — moves as data, and what a list of them leads to.

A move works on the session step by step, and one that is refused leaves behind
whatever it has done to the session until then.
-/

namespace Gamebook

/-- Why a move is refused. -/
inductive SessionError where
  | sceneNotFound (id : String)
  | missingStart
  | invalidChoice (index : Nat) (count : Nat)
deriving DecidableEq

def SessionError.message : SessionError → String
  | sceneNotFound id => "场景 '" ++ id ++ "' 未找到"
  | missingStart => "脚本缺少入口场景 '" ++ Story.startId ++ "'"
  | invalidChoice index count =>
    "无效的选择索引 " ++ toString index ++ "，有效范围是 0.." ++ toString count

structure Session where
  story : Story
  vars : Vars
  /-- The name of the current scene. -/
  cursor : String
  /-- The text that the current scene showed when it was entered. -/
  entered : String

/-- What comes of a move: its answer, and the session that it leaves behind, refused or not. -/
abbrev Reply := Except SessionError Unit × Session

/-- The session of a move that was not refused. -/
def Reply.session : Reply → Except SessionError Session
  | (.ok (), s) => .ok s
  | (.error cause, _) => .error cause

namespace Session

/-- A session before any story is loaded. -/
def blank : Session := ⟨.empty "", ∅, Story.startId, ""⟩

/-- What is shown in place of a scene that does not exist. -/
def notFoundText : String := "场景未找到。"

/-- Enters a scene: its template is carried out. -/
def enter (s : Session) (id : String) : Reply :=
  match s.story.scene? id with
  | none => (.error (.sceneNotFound id), s)
  | some scene =>
    let done := Template.process scene.text s.vars
    (.ok (), { s with vars := done.2, cursor := id, entered := done.1 })

/-- Loads a story, forgets the variables and enters the first scene. -/
def load (s : Session) (story : Story) : Reply :=
  if story.contains Story.startId then
    enter { s with story := story, vars := ∅ } Story.startId
  else (.error .missingStart, s)

/-- A new session that starts a story. -/
def start (story : Story) : Except SessionError Session := (blank.load story).session

def scene? (s : Session) : Option Scene := s.story.scene? s.cursor

/-- Whether a choice can be seen. One with an invalid condition cannot. -/
def sees (s : Session) (choice : Choice) : Bool :=
  match Condition.visible s.vars choice.condition with
  | .ok b => b
  | .error _ => false

/-- The choices of the current scene that can be seen, in their order. -/
def available (s : Session) : List Choice :=
  match s.scene? with
  | some scene => scene.choices.filter s.sees
  | none => []

def choose (s : Session) (index : Nat) : Reply :=
  match s.available[index]? with
  | some choice => s.enter choice.next
  | none => (.error (.invalidChoice index s.available.length), s)

/-- The text of the current scene. -/
def text (s : Session) : String :=
  if s.story.contains s.cursor then s.entered else notFoundText

/-- How many choices can be seen. -/
def choiceCount (s : Session) : Nat := s.available.length

/-- A story is finished where no choice can be seen. -/
def finished (s : Session) : Bool := s.choiceCount == 0

def choiceText? (s : Session) (index : Nat) : Option String := s.available[index]?.map (·.text)

end Session

/-- A move of a session. -/
inductive Move where
  | load (story : Story)
  | enter (id : String)
  | choose (index : Nat)

namespace Session

/-- What comes of a move. -/
def perform (s : Session) : Move → Reply
  | .load story => s.load story
  | .enter id => s.enter id
  | .choose index => s.choose index

/-- The session of a move, or why the move is refused. -/
def move (s : Session) (m : Move) : Except SessionError Session := (s.perform m).session

/-- The session that a move leaves behind. -/
def after (s : Session) (m : Move) : Session := (s.perform m).2

/-- The session after a list of moves. -/
def play (s : Session) (moves : List Move) : Session := moves.foldl after s

end Session

end Gamebook
