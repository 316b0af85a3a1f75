import Gamebook.Text.Digits

/-!
# Gamebook — player settings

* `Settings` — how the player shows a story and how much it logs.
* `LogLevel` — the levels of log entries, and how a level is named.
* `Settings.validate` — the settings must name a level.
-/

namespace Gamebook

/-- The levels of log entries, the gravest first. -/
inductive LogLevel where
  | error
  | warn
  | info
  | debug
  | trace
deriving DecidableEq

namespace LogLevel

/-- The number of a level, from one. -/
def number : LogLevel → Nat
  | error => 1
  | warn => 2
  | info => 3
  | debug => 4
  | trace => 5

def all : List LogLevel := [error, warn, info, debug, trace]

def name : LogLevel → String
  | error => "ERROR"
  | warn => "WARN"
  | info => "INFO"
  | debug => "DEBUG"
  | trace => "TRACE"

/-- The number that a text of ASCII digits writes, behind one optional plus sign. -/
def number? (s : String) : Option Nat :=
  match Text.digits (Text.dropPlus s.toList) with
  | (d :: ds, []) => some (Text.digitsValue (d :: ds))
  | _ => none

/-- The level that a text names: its name in any case, or its number. -/
def ofText? (s : String) : Option LogLevel :=
  match number? s with
  | some n => all.find? (·.number == n)
  | none => all.find? (·.name == String.ofList (s.toList.map Char.toUpper))

end LogLevel

/-- How the player shows a story and how much it logs. -/
structure Settings where
  logLevel : String := "warn"
  /-- Whether the name of a scene stands above its text. -/
  showSceneId : Bool := false
  /-- Whether views are written as JSON. -/
  jsonOutput : Bool := false
  /-- What stands below the last scene. -/
  endMessage : String := "游戏结束。"
  /-- Whether the player is asked to play again. -/
  askRestart : Bool := true
deriving DecidableEq

/-- Why settings are refused. -/
inductive SettingsError where
  | unreadable (cause : String)
  | malformed (cause : String)
  | unknownLevel (level : String)
deriving DecidableEq

def SettingsError.message : SettingsError → String
  | unreadable cause => "配置 IO 错误: " ++ cause
  | malformed cause => "配置解析失败: " ++ cause
  | unknownLevel level => "配置验证失败: 未知的日志级别: " ++ level

/-- The settings must name a log level. -/
def Settings.validate (s : Settings) : Except SettingsError Unit :=
  if (LogLevel.ofText? s.logLevel).isSome then .ok () else .error (.unknownLevel s.logLevel)

end Gamebook
