import Gamebook.Analysis.Check
import Gamebook.Command.Options
import Gamebook.Command.Outcome
import Gamebook.Form.Story
import Gamebook.Player.Load
import Gamebook.Player.Output

/-!
# Gamebook — the command that plays a story

* `LogFilter` — which journal entries are written, and how the filter is named.
* `Command.settings`, `Command.story` — the settings and the story that a
  command line asks for, or why the command fails.
* `Command.play` — the whole command, from its arguments, the files and the
  input to its outcome.
-/

namespace Gamebook

/-- Which journal entries are written. -/
structure LogFilter where
  /-- The gravest level has number one; entries above this number are left out. -/
  most : Nat
  /-- What is written about the filter itself. -/
  remark : String
deriving DecidableEq

namespace LogFilter

/-- The filter of a level that settings name. A name that begins with a plus sign is no
filter; then only errors are written. -/
def ofSettings (level : String) : LogFilter :=
  if level.startsWith "+" then
    ⟨LogLevel.error.number, "ignoring \x60" ++ level ++ "\x60: invalid filter directive\n"⟩
  else ⟨((LogLevel.ofText? level).getD .error).number, ""⟩

/-- The filter that the environment asks for: a level, or none of the entries. -/
def ofEnvironment (level : String) : LogFilter :=
  match LogLevel.ofText? level with
  | some l => ⟨l.number, ""⟩
  | none => ⟨if level.isEmpty then LogLevel.error.number else 0, ""⟩

/-- The filter of the environment, if it asks for one, or else that of the settings. -/
def choose (environment : Option String) (settings : Settings) : LogFilter :=
  match environment with
  | some level => ofEnvironment level
  | none => ofSettings settings.logLevel

def write (filter : LogFilter) (entries : List Entry) : String :=
  String.join ((entries.filter (·.level.number ≤ filter.most)).map Entry.text)

end LogFilter

namespace Command

/-- Why a command fails: a text, and what caused it. -/
structure Failure where
  text : String
  cause : Option String
deriving DecidableEq

def Failure.report (f : Failure) : String :=
  "Error: " ++ f.text ++ ((f.cause.map ("\n\nCaused by:\n    " ++ ·)).getD "") ++ "\n"

def versionText : String := "story-cli 0.1.0\n"

def helpText : String := "分支叙事脚本播放器

Usage: story-cli [OPTIONS] <STORY>

Arguments:
  <STORY>  故事脚本文件（JSON）

Options:
  -c, --config <CONFIG>        配置文件（默认：story-cli.json） [default: story-cli.json]
      --log-level <LOG_LEVEL>  日志级别，覆盖配置文件
      --json                   以 JSON 输出场景快照
      --show-scene-id          显示场景 ID
      --no-restart             故事结束后直接退出，不询问重新开始
  -h, --help                   Print help
  -V, --version                Print version
"

/-- The settings that a command line asks for. -/
def settings (look : Lookup) (o : Options) : Except Failure Settings :=
  match Settings.load look o.config with
  | .error cause => .error ⟨"无法加载配置 " ++ o.config, some cause.message⟩
  | .ok s =>
    match (o.overlay s).validate with
    | .error cause => .error ⟨cause.message, none⟩
    | .ok () => .ok (o.overlay s)

/-- The story that a command line asks for. It is named for its file. -/
def story (look : Lookup) (o : Options) : Except Failure Story :=
  match look.read o.story with
  | .error cause => .error ⟨"无法读取脚本 " ++ o.story, some cause.message⟩
  | .ok text =>
    match Story.ofText ((Path.stem? o.story).getD "story") text with
    | .error cause => .error ⟨cause.message, none⟩
    | .ok story => .ok story

/-- What is noted before a story is played: that it was read, and the graver findings of a
check. -/
def openingEntries (story : Story) : List Entry :=
  .storyRead story.id story.size :: (Report.atLeast story.check .warn).map .finding

/-- How the command ends when a play has ended. -/
def closing (story : Story) : Ending → Except Failure Entry
  | .refused cause => .error ⟨"无法开始故事 '" ++ story.id ++ "'", some cause.message⟩
  | .unreadable => .error ⟨FileError.notText.message, none⟩
  | how => .ok (.closed how)

/-- Plays the story of a command line. -/
def playWith (look : Lookup) (environment : Option String) (input : ByteArray)
    (o : Options) : Outcome :=
  match settings look o with
  | .error failure => ⟨1, "", failure.report⟩
  | .ok s =>
    let filter := LogFilter.choose environment s
    -- The journal is open from here on, so a remark on the filter comes before all else.
    match story look o with
    | .error failure => ⟨1, "", filter.remark ++ failure.report⟩
    | .ok story =>
      let p := Play.perform s story (Line.all input)
      let log := filter.remark ++ filter.write (openingEntries story ++ p.journal)
      match closing story p.ending with
      | .error failure => ⟨1, p.written, log ++ failure.report⟩
      | .ok entry => ⟨0, p.written, log ++ filter.write [entry]⟩

/-- The command that plays a story, on an argument list. -/
def play (look : Lookup) (environment : Option String) (input : ByteArray)
    (args : List String) : Outcome :=
  match Arguments.parse args with
  | .misuse => ⟨2, "", ""⟩
  | .version => ⟨0, versionText, ""⟩
  | .help => ⟨0, helpText, ""⟩
  | .play o => playWith look environment input o

end Command

end Gamebook
