import Gamebook.Analysis.Report
import Gamebook.Player.Settings
import Gamebook.Session.View
import Gamebook.Text.Quoted

/-!
# Gamebook — the journal of a play

* `Entry` — something worth noting while a story is loaded and played.
* `Entry.level`, `Entry.text` — how grave it is, and its line in the log.
* `Session.loadEntries`, `Session.enterEntries`, `Session.hiddenEntries`,
  `Session.chooseEntries` — what the moves of a session note.
-/

namespace Gamebook

/-- How a play ends. -/
inductive Ending where
  /-- The story is over and is not played again. -/
  | finished
  /-- There is no more input. -/
  | inputClosed
  /-- A line of input is no text. -/
  | unreadable
  /-- The story cannot be started. -/
  | refused (cause : SessionError)
deriving DecidableEq

/-- Something worth noting. -/
inductive Entry where
  | storyRead (id : String) (scenes : Nat)
  | finding (f : Finding)
  | storyRefused (id : String) (cause : SessionError)
  | storyLoaded (id : String) (scenes : Nat)
  | sceneRefused (cause : SessionError)
  | sceneEntered (id : String)
  | variableSet (name : String) (value : Value)
  | choiceHidden (scene : String) (cause : ConditionError)
  | choiceIgnored (scene : String) (cause : SessionError)
  | choiceFailed (cause : SessionError)
  | storyFinished (scene : String)
  | closed (how : Ending)
deriving DecidableEq

/-! ## Entries as text -/

def Ending.name : Ending → String
  | finished => "Finished"
  | inputClosed => "InputClosed"
  | unreadable => "Unreadable"
  | refused _ => "Refused"

namespace Entry

def level : Entry → LogLevel
  | storyLoaded .. | sceneEntered _ | variableSet .. => .debug
  | storyRead .. | storyFinished _ | closed _ => .info
  | finding _ | storyRefused .. | sceneRefused _ | choiceHidden .. | choiceIgnored ..
  | choiceFailed _ => .warn

/-- A character of a message: one that could begin a command to the terminal is written by
its code. -/
def messageChar (c : Char) : List Char :=
  if c == '\x1b' then "\\x1b".toList
  else if c == '\x07' then "\\x07".toList
  else if c == '\x08' then "\\x08".toList
  else if c == '\x0c' then "\\x0c".toList
  else if c == '\x7f' then "\\x7f".toList
  else if 0x80 ≤ c.toNat && c.toNat ≤ 0x9f then
    ['\\', 'u', '\x7b'] ++ Text.hex c.toNat ++ ['\x7d']
  else [c]

/-- A message that leaves the terminal alone. -/
def safeMessage (s : String) : String := String.ofList (s.toList.flatMap messageChar)

/-- What an entry says behind its level. -/
def body : Entry → String
  | storyRead id scenes => "脚本已加载 script=" ++ id ++ " scenes=" ++ toString scenes
  | finding f => safeMessage f.text
  | storyRefused id cause => "拒绝加载脚本 script=" ++ id ++ " error=" ++ cause.message
  | storyLoaded id scenes => "加载脚本 script=" ++ id ++ " scenes=" ++ toString scenes
  | sceneRefused cause => "无法进入场景 error=" ++ cause.message
  | sceneEntered id => "进入场景 scene=" ++ Text.quoted id
  | variableSet name value =>
    "set 指令 variable=" ++ Text.quoted name ++ " value=" ++ value.display
  | choiceHidden scene cause =>
    "条件无效，隐藏选项 scene=" ++ scene ++ " error=" ++ cause.message
  | choiceIgnored scene cause => "忽略选择 scene=" ++ scene ++ " error=" ++ cause.message
  | choiceFailed cause => "选择失败 error=" ++ cause.message
  | storyFinished scene => "故事结束 scene=" ++ scene
  | closed how => "会话结束 end=" ++ how.name

def text (e : Entry) : String := e.level.name ++ " " ++ e.body ++ "\n"

end Entry

namespace Session

/-! ## What the moves note -/

/-- What entering a scene notes. -/
def enterEntries (s : Session) (id : String) : List Entry :=
  match s.story.scene? id with
  | none => [.sceneRefused (.sceneNotFound id)]
  | some scene =>
    .sceneEntered id ::
      (Template.directives scene.text).map fun d => .variableSet d.target d.assigned

/-- What loading a story notes. -/
def loadEntries (s : Session) (story : Story) : List Entry :=
  if story.contains Story.startId then
    .storyLoaded story.id story.size :: enterEntries { s with story := story } Story.startId
  else [.storyRefused story.id .missingStart]

/-- What looking for the available choices notes: each choice that an invalid condition
hides. -/
def hiddenEntries (s : Session) : List Entry :=
  match s.scene? with
  | none => []
  | some scene => scene.choices.filterMap fun choice =>
    match Condition.visible s.vars choice.condition with
    | .ok _ => none
    | .error cause => some (.choiceHidden s.cursor cause)

/-- What following a choice notes. -/
def chooseEntries (s : Session) (index : Nat) : List Entry :=
  s.hiddenEntries ++
    match s.available[index]? with
    | some choice => s.enterEntries choice.next
    | none => [.choiceIgnored s.cursor (.invalidChoice index s.available.length)]

end Session

end Gamebook
