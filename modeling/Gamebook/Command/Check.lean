import Gamebook.Analysis.Check
import Gamebook.Command.Outcome
import Gamebook.Files
import Gamebook.Form.Story

/-!
# Gamebook — the command that checks stories

* `StoryFile` — a path and the bytes found there.
* `Check` — what checking files has come to: how many there were, how many of
  them hold no story, and the findings on the others.
* `Check.add` — one more file is checked.
* `Command.checkFiles` — a list of files is checked, and how that ends.
* `Command.check` — the whole command.
-/

namespace Gamebook

/-- A path and the bytes found there. -/
structure StoryFile where
  path : String
  bytes : ByteArray

/-- What checking files has come to. -/
structure Check where
  /-- How many files were looked at. -/
  count : Nat := 0
  /-- How many of them hold no story. -/
  failures : Nat := 0
  /-- What was written at once about those. -/
  complaints : List String := []
  /-- The findings on the stories in the others. -/
  report : Report := []

namespace Check

/-- A file that holds no story is complained about at once. -/
def fail (c : Check) (complaint : String) : Check :=
  { c with
    failures := c.failures + 1
    complaints := c.complaints ++ ["[ERROR] " ++ complaint] }

/-- Checks one more file. -/
def add (c : Check) (f : StoryFile) : Check :=
  let c := { c with count := c.count + 1 }
  match FileTree.decode f.bytes with
  | .error cause => c.fail (f.path ++ ": 无法读取文件 - " ++ cause.message)
  | .ok text =>
    match Story.ofText f.path text with
    | .error cause => c.fail cause.message
    | .ok story => { c with report := c.report ++ story.check }

def ofFiles (files : List StoryFile) : Check := files.foldl add {}

/-- The files that hold no story, and the errors in the others. -/
def errors (c : Check) : Nat := c.failures + c.report.count .error

def warnings (c : Check) : Nat := c.report.count .warn

def passes (c : Check) : Bool := c.failures = 0 && !c.report.hasErrors

/-! ## The check as text -/

/-- What is written before the first file is looked at. -/
def heading (files : Nat) : String := "==> 检查 " ++ toString files ++ " 个脚本文件...\n\n"

/-- The rule above the results. -/
def rule : String := String.ofList (List.replicate 53 '─')

/-- The last line of the results. -/
def summary (errors warnings : Nat) : String :=
  if 0 < errors then
    "❌ " ++ toString errors ++ " 个错误, " ++ toString warnings ++ " 个警告"
  else if 0 < warnings then "⚠️  0 个错误, " ++ toString warnings ++ " 个警告"
  else "✅ 检查通过，无错误"

def results (c : Check) : String :=
  rule ++ "\n检查完成: " ++ toString c.count ++ " 个脚本\n\n" ++
    String.join (c.report.map (·.text ++ "\n")) ++ "\n" ++ summary c.errors c.warnings ++ "\n"

end Check

namespace Command

/-- The directory that is checked if no path is given. -/
def storiesPath : String := "assets/stories"

/-- The story files below a directory: the files with the extension `json`. -/
def storyFiles (path : String) (tree : FileTree) : List StoryFile :=
  tree.filesBelow.filterMap fun f =>
    match f.1.getLast? with
    | some name =>
      if (Path.cutName name).2 == some "json" then some ⟨f.1.foldl Path.join path, f.2⟩ else none
    | none => none

/-- The files that an argument asks to check. -/
def filesToCheck (look : Lookup) : Option String → Except String (List StoryFile)
  | some path =>
    match look path with
    | .ok (.file bytes) => .ok [⟨path, bytes⟩]
    | .ok (.directory entries) => .ok (storyFiles path (.directory entries))
    | .error _ => .error ("路径不存在: " ++ path)
  | none =>
    match look storiesPath with
    | .ok found => .ok (storyFiles storiesPath found)
    | .error _ =>
      .error ("默认脚本目录不存在: " ++ storiesPath ++
        "\n请在 workspace 根目录运行，或指定脚本路径")

/-- A failed command with its message. -/
def checkFailure (before message : String) : Outcome :=
  ⟨1, "", before ++ "xtask error: " ++ message ++ "\n"⟩

/-- Checks files, if there are any. -/
def checkFiles (files : List StoryFile) : Outcome :=
  if files.isEmpty then ⟨0, "", "未找到脚本文件（.json）\n"⟩
  else
    let c := Check.ofFiles files
    let written := Check.heading files.length ++ String.join (c.complaints.map (· ++ "\n")) ++
      c.results
    if c.passes then ⟨0, "", written⟩ else checkFailure written "脚本检查发现错误"

/-- Checks the files that an argument asks for. -/
def checkScripts (look : Lookup) (path : Option String) : Outcome :=
  match filesToCheck look path with
  | .error message => checkFailure "" message
  | .ok files => checkFiles files

def checkHelp : String := "xtask - 开发辅助工具

USAGE:
  cargo run -p xtask -- <command>

COMMANDS:
  script-check    检查故事脚本

SCRIPT-CHECK:
  cargo run -p xtask -- script-check [path]

  不带参数：检查 assets/stories/ 下所有 .json 文件
  带路径参数：检查指定文件或目录

  检查内容：
    - JSON 格式错误
    - 缺少入口场景 start
    - 未定义的跳转目标
    - 无法解析的条件
    - 未被 set 的变量、不可达的场景

"

/-- The command that checks stories, on an argument list. -/
def check (look : Lookup) : List String → Outcome
  | [] => ⟨0, "", checkHelp⟩
  | "script-check" :: args => checkScripts look args.head?
  | name :: _ =>
    if name == "help" || name == "-h" || name == "--help" then ⟨0, "", checkHelp⟩
    else checkFailure "" ("unknown xtask subcommand: " ++ name)

end Command

end Gamebook
