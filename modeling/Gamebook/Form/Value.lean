import Gamebook.Json.Basic
import Gamebook.Json.Read
import Gamebook.Vars

/-!
# Gamebook — values and variables in JSON

* `Value.toJson`, `Value.reader` — a value as a JSON scalar. An infinity has no
  JSON form of its own and is written as null.
* `Vars.toJson`, `Vars.reader` — variables as an object inside the field
  `variables` of an object.
-/

namespace Gamebook

open Json

namespace Value

def toJson : Value → Json
  | bool b => .bool b
  | number x => .number x
  | text s => .string s
  | null => .null

/-- The value of a syntax tree that was checked. -/
def ofSyntax : Syntax → Except Error Value
  | .null => .ok null
  | .bool b => .ok (bool b)
  | .number (.ok n) => n.read.map fun reading => number reading.number
  | .string s => s.contents.map text
  | _ => .error (.noVariant "Value")

/-- Reads a value. Whatever stands there is checked as a whole before its kind is. -/
def reader : Reader Value := fun depth v => do
  v.check depth
  ofSyntax v

end Value

namespace Vars

/-- Variables as JSON, in the order of their names. The order is this library's own choice and
carries no meaning: written in any other one, the same variables are read back. -/
def toJson (vars : Vars) : Json :=
  .object [("variables", .object (vars.toList.map fun p => (p.1, p.2.toJson)))]

structure Partly where
  members : Option (List (String × Value)) := none

/-- Variables as a record. Of a name that comes twice the last value counts. -/
def record : Record Partly Vars where
  name := "GameState"
  fields := [
    { name := "variables", optional := false
      filled := fun p => p.members.isSome
      fill := fun depth v p => do
        .ok { p with members := some (← Reader.pairs Value.reader depth v) } }]
  empty := {}
  done := fun p => do
    let members ← Record.required "variables" p.members
    .ok (members.foldl (fun vars m => vars.insert m.1 m.2) ∅)

def reader : Reader Vars := record.read

end Vars

end Gamebook
