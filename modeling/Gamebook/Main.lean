import Gamebook.Command.Check
import Gamebook.Command.Play

/-!
# Gamebook — the program

`play ARGUMENTS` plays a story on the terminal. `check ARGUMENTS` checks
stories; the names of the files below a directory are read from standard
input, one on a line, as `find DIRECTORY -type f` writes them.

Everything here reads and writes; what is written is decided by
`Gamebook.Command`.
-/

namespace Gamebook.Main

/-- The cause behind an error of the system. -/
def fileError : IO.Error → FileError
  | .inappropriateType _ 21 _ => .isDirectory
  | .inappropriateType _ _ _ => .notDirectory
  | _ => .notFound

/-- What a path leads to. Of a directory the entries are not known. -/
def lookUp (path : String) : IO (Except FileError FileTree) := do
  try
    return .ok (.file (← IO.FS.readBinFile path))
  catch e =>
    match fileError e with
    | .isDirectory => return .ok (.directory [])
    | cause => return .error cause

def lookUpAll (paths : List String) : IO Lookup := do
  let found ← paths.mapM fun path => do return (path, ← lookUp path)
  return fun path => ((found.find? (·.1 == path)).map (·.2)).getD (.error .notFound)

/-- Writes what happens: to the output what is shown, to the log what is noted. -/
def tell (filter : LogFilter) (happenings : List Happening) : IO Unit := do
  for happening in happenings do
    IO.print happening.written
    IO.eprint (filter.write happening.event.entry?.toList)
  (← IO.getStdout).flush

/-- Bytes of input up to the next line feed or the end. -/
partial def readBytes (bytes : ByteArray) : IO ByteArray := do
  let next ← (← IO.getStdin).read 1
  if next.isEmpty then return bytes
  else if next.toList == [0x0A] then return bytes ++ next
  else readBytes (bytes ++ next)

def readLine : IO (Option Line) := do
  return (Line.all (← readBytes .empty)).head?

/-- Plays on from a phase until the play is over. -/
partial def goOn (settings : Settings) (filter : LogFilter) (story : Story) (phase : Phase) :
    IO Ending := do
  match phase with
  | .stopped how => return how
  | _ =>
    match ← readLine with
    | none => return .inputClosed
    | some .unreadable => return .unreadable
    | some (.text line) =>
      let (happenings, phase) := phase.answer settings story line
      tell filter happenings
      goOn settings filter story phase

def fail (failure : Command.Failure) : IO UInt32 := do
  IO.eprint failure.report
  return 1

def playWith (options : Options) : IO UInt32 := do
  let look ← lookUpAll [options.config, options.story]
  match Command.settings look options with
  | .error failure => fail failure
  | .ok settings =>
    let filter := LogFilter.choose (← IO.getEnv "RUST_LOG") settings
    IO.eprint filter.remark
    match Command.story look options with
    | .error failure => fail failure
    | .ok story =>
      IO.eprint (filter.write (Command.openingEntries story))
      let (happenings, phase) := Phase.begin settings .blank story
      tell filter happenings
      match Command.closing story (← goOn settings filter story phase) with
      | .error failure => fail failure
      | .ok entry =>
        IO.eprint (filter.write [entry])
        return 0

def write (outcome : Outcome) : IO UInt32 := do
  IO.print outcome.stdout
  IO.eprint outcome.stderr
  return outcome.exit.toUInt32

def insertFile (bytes : ByteArray) : List String → FileTree → FileTree
  | [], _ => .file bytes
  | _ :: _, .file old => .file old
  | name :: names, .directory entries =>
    let inner := (FileTree.entry? entries name).getD (.directory [])
    .directory (entries.filter (·.1 != name) ++ [(name, insertFile bytes names inner)])

/-- The tree of the files below a directory, whose names stand on standard input. -/
partial def readTree (directory : String) (tree : FileTree) : IO FileTree := do
  match ← readLine with
  | some (.text path) =>
    let names := (Path.names path).filter (!Path.isHere ·)
    let above := (Path.names directory).filter (!Path.isHere ·)
    if above.isPrefixOf names then
      match ← lookUp path with
      | .ok (.file bytes) => readTree directory (insertFile bytes (names.drop above.length) tree)
      | _ => readTree directory tree
    else readTree directory tree
  | some .unreadable => readTree directory tree
  | none => return tree

def check (args : List String) : IO UInt32 := do
  let path := args[1]?.getD Command.storiesPath
  match ← lookUp path with
  | .ok (.directory _) =>
    let tree ← readTree path (.directory [])
    write (Command.check (fun _ => .ok tree) args)
  | found => write (Command.check (fun _ => found) args)

end Gamebook.Main

def main (args : List String) : IO UInt32 := do
  match args with
  | "play" :: args =>
    match Gamebook.Arguments.parse args with
    | .play options => Gamebook.Main.playWith options
    | .misuse => return 2
    | .version => Gamebook.Main.write ⟨0, Gamebook.Command.versionText, ""⟩
    | .help => Gamebook.Main.write ⟨0, Gamebook.Command.helpText, ""⟩
  | "check" :: args => Gamebook.Main.check args
  | _ =>
    IO.eprintln "usage: gamebook play ARGUMENTS | gamebook check ARGUMENTS"
    return 2
