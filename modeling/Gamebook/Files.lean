/-!
# Gamebook — files

* `FileTree` — a file with its bytes, or a directory with its entries.
* `FileTree.find` — what a path leads to inside a tree.
* `Lookup` — what paths lead to, in a tree or elsewhere; `Lookup.read` is the
  text of the file that a path leads to.
* `FileTree.filesBelow` — the files in a directory and its directories, in the
  order of their paths.
* `Path` functions — the last name of a path without its extension, and
  whether it has a given extension.

A path is a list of names between slashes. Empty names and `.` stay where they
are and `..` goes back up; all of them need a directory to stand on.
-/

namespace Gamebook

inductive FileTree where
  | file (bytes : ByteArray)
  | directory (entries : List (String × FileTree))

/-- Why a file cannot be read. -/
inductive FileError where
  | notFound
  | notDirectory
  | isDirectory
  | notText
deriving DecidableEq

def FileError.message : FileError → String
  | notFound => "No such file or directory (os error 2)"
  | notDirectory => "Not a directory (os error 20)"
  | isDirectory => "Is a directory (os error 21)"
  | notText => "stream did not contain valid UTF-8"

namespace Path

/-! ## Paths -/

def names (path : String) : List String := path.splitOn "/"

/-- Whether a name stays in the directory it stands in. -/
def isHere (name : String) : Bool := name == "" || name == "."

/-- The last name of a path, not counting those that stay where they are. -/
def last? (path : String) : Option String := ((names path).filter (!isHere ·)).getLast?

/-- A name cut at its last dot: what stands before it, and the extension. A dot in front of
a name is no cut. -/
def cutName (name : String) : String × Option String :=
  let behind := name.toList.reverse.takeWhile (· != '.')
  let before := name.toList.take (name.length - behind.length - 1)
  if name.length = behind.length || before.isEmpty || name == ".." then (name, none)
  else (String.ofList before, some (String.ofList behind.reverse))

/-- The last name of a path without its extension. -/
def stem? (path : String) : Option String :=
  match last? path with
  | none | some ".." => none
  | some name => some (cutName name).1

/-- A path with one more name at its end. -/
def join (path name : String) : String :=
  if path.endsWith "/" then path ++ name else path ++ "/" ++ name

end Path

namespace FileTree

/-! ## Trees -/

/-- The entry of that name in a directory. -/
def entry? (entries : List (String × FileTree)) (name : String) : Option FileTree :=
  (entries.find? (·.1 == name)).map (·.2)

/-- What names lead to from a place; `above` holds the directories that `..` goes back to,
the nearest first. Above the topmost directory there is nothing to be seen. -/
def walk (above : List FileTree) (here : FileTree) : List String → Except FileError FileTree
  | [] => .ok here
  | name :: names =>
    match here with
    | file _ => .error .notDirectory
    | directory entries =>
      if Path.isHere name then walk above here names
      else if name == ".." then
        match above with
        | up :: above => walk above up names
        -- The tree has nothing above it, so nothing is found from there on.
        | [] => walk [] (directory []) names
      else
        match entry? entries name with
        | some next => walk (here :: above) next names
        | none => .error .notFound

/-- What a path leads to. A path from the root leads outside and finds nothing. -/
def find (tree : FileTree) (path : String) : Except FileError FileTree :=
  if path.isEmpty then .error .notFound
  else if path.startsWith "/" then walk [] (directory []) (Path.names path)
  else walk [] tree (Path.names path)

def decode (bytes : ByteArray) : Except FileError String :=
  match String.fromUTF8? bytes with
  | some s => .ok s
  | none => .error .notText

mutual

/-- The files in a tree, by the names that lead to them. -/
def files : FileTree → List (List String × ByteArray)
  | file bytes => [([], bytes)]
  | directory entries => filesOf entries

/-- The files in the entries of a directory. -/
def filesOf : List (String × FileTree) → List (List String × ByteArray)
  | [] => []
  | (name, tree) :: entries => (files tree).map (fun f => (name :: f.1, f.2)) ++ filesOf entries

end

/-- The files in a tree, in the order of their paths: name by name. -/
def filesBelow (tree : FileTree) : List (List String × ByteArray) :=
  tree.files.mergeSort fun a b => compare a.1 b.1 != .gt

end FileTree

/-! ## Looking up -/

/-- What paths lead to. -/
abbrev Lookup := String → Except FileError FileTree

namespace Lookup

def has (look : Lookup) (path : String) : Bool := (look path).toOption.isSome

/-- The text of the file that a path leads to. -/
def read (look : Lookup) (path : String) : Except FileError String := do
  match ← look path with
  | .file bytes => FileTree.decode bytes
  | .directory _ => .error .isDirectory

end Lookup

end Gamebook
