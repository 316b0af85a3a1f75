import Gamebook.Player.Settings

/-!
# Gamebook — the player's command line

* `Options` — what the arguments ask for.
* `Arguments.parse` — the meaning of an argument list: options, a request for
  the version or for help, or misuse.
* `Options.overlay` — settings with the options put over them.

Arguments are taken from left to right and the first one that decides the
matter does so. An option may stand once. Its value follows it as the next
argument or, in the same argument, behind an equals sign (for the short form
also without one). Behind `--` every argument is a path.
-/

namespace Gamebook

/-- What the arguments ask for. -/
structure Options where
  story : String
  config : String
  logLevel : Option String
  json : Bool
  showSceneId : Bool
  noRestart : Bool
deriving DecidableEq

/-- Options while they are collected. -/
structure Options.Partly where
  story : Option String := none
  config : Option String := none
  logLevel : Option String := none
  json : Bool := false
  showSceneId : Bool := false
  noRestart : Bool := false

/-- The meaning of an argument list. -/
inductive Arguments where
  | play (options : Options)
  | version
  | help
  | misuse
deriving DecidableEq

namespace Options

/-- Settings with the options put over them. -/
def overlay (o : Options) (s : Settings) : Settings where
  logLevel := o.logLevel.getD s.logLevel
  showSceneId := o.showSceneId || s.showSceneId
  jsonOutput := o.json || s.jsonOutput
  endMessage := s.endMessage
  askRestart := !o.noRestart && s.askRestart

namespace Partly

/-- Takes the path of the story; there may be only one, and it may not be empty. -/
def takeStory (p : Partly) (path : String) : Option Partly :=
  if p.story.isSome || path.isEmpty then none else some { p with story := some path }

def takeConfig (p : Partly) (path : String) : Option Partly :=
  if p.config.isSome || path.isEmpty then none else some { p with config := some path }

def takeLogLevel (p : Partly) (level : String) : Option Partly :=
  if p.logLevel.isSome then none else some { p with logLevel := some level }

/-- The options, if there is a story. -/
def done (p : Partly) : Arguments :=
  match p.story with
  | none => .misuse
  | some story => .play
      { story
        config := p.config.getD "story-cli.json"
        logLevel := p.logLevel
        json := p.json
        showSceneId := p.showSceneId
        noRestart := p.noRestart }

end Partly

end Options

namespace Arguments

open Options (Partly)

/-! ## Single arguments -/

inductive Valued where
  | config
  | logLevel

def Valued.take (p : Partly) (value : String) : Valued → Option Partly
  | config => p.takeConfig value
  | logLevel => p.takeLogLevel value

inductive Argument where
  | path (s : String)
  | separator
  /-- An option whose value is the next argument. -/
  | valued (option : Valued)
  | assigned (option : Valued) (value : String)
  /-- A switch: the options with it on, if it was not on before. -/
  | switch (on : Partly → Option Partly)
  | version
  | help
  | unknown

/-- An argument that begins with one dash: a letter, and for `-c` its value. -/
def ofShort : List Char → Argument
  | ['c'] => .valued .config
  | 'c' :: '=' :: cs => .assigned .config (String.ofList cs)
  | 'c' :: cs => .assigned .config (String.ofList cs)
  | 'V' :: _ => .version
  | 'h' :: _ => .help
  | _ => .unknown

/-- A switch that may be turned on once. -/
def once (get : Partly → Bool) (set : Partly → Partly) : Argument :=
  .switch fun p => if get p then none else some (set p)

/-- An argument that begins with two dashes: a name, and the value behind an equals sign. -/
def ofLong (name : String) (value : Option String) : Argument :=
  match name, value with
  | "config", none => .valued .config
  | "config", some v => .assigned .config v
  | "log-level", none => .valued .logLevel
  | "log-level", some v => .assigned .logLevel v
  | "json", none => once (·.json) fun p => { p with json := true }
  | "show-scene-id", none => once (·.showSceneId) fun p => { p with showSceneId := true }
  | "no-restart", none => once (·.noRestart) fun p => { p with noRestart := true }
  | "version", none => .version
  | "help", none => .help
  | _, _ => .unknown

/-- What a single argument is. A lone dash is a path. -/
def classify (s : String) : Argument :=
  match s.toList with
  | ['-', '-'] => .separator
  | '-' :: '-' :: cs =>
    let name := cs.takeWhile (· != '=')
    let value := match cs.drop name.length with
      | [] => none
      | _ :: v => some (String.ofList v)
    ofLong (String.ofList name) value
  | '-' :: c :: cs => ofShort (c :: cs)
  | _ => .path s

/-! ## Argument lists -/

/-- Whether an argument can be the value of an option. -/
def isValue (s : String) : Bool :=
  match s.toList with
  | '-' :: _ :: _ => false
  | _ => true

/-- The meaning of paths only. -/
def parsePaths : List String → Partly → Arguments
  | [], p => p.done
  | s :: rest, p =>
    match p.takeStory s with
    | some p => parsePaths rest p
    | none => .misuse

/-- The meaning of an argument list, with options collected before it. -/
def parseFrom : List String → Partly → Arguments
  | [], p => p.done
  | s :: rest, p =>
    match classify s with
    | .path path =>
      match p.takeStory path with
      | some p => parseFrom rest p
      | none => .misuse
    | .separator => parsePaths rest p
    | .assigned option value =>
      match option.take p value with
      | some p => parseFrom rest p
      | none => .misuse
    | .valued option =>
      match rest with
      | [] => .misuse
      | value :: rest =>
        -- What looks like an option is never taken as a value.
        if isValue value then
          match option.take p value with
          | some p => parseFrom rest p
          | none => .misuse
        else .misuse
    | .switch on =>
      match on p with
      | some p => parseFrom rest p
      | none => .misuse
    | .version => .version
    | .help => .help
    | .unknown => .misuse

def parse (args : List String) : Arguments := parseFrom args {}

end Arguments

end Gamebook
