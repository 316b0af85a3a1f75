import Gamebook.Condition.Basic
import Gamebook.Form.Value

/-!
# Gamebook — conditions in JSON

* `Operator.formName`, `Operator.reader` — an operator by its name.
* `Condition.toJson`, `Condition.reader` — a condition as an object with the
  fields `variable`, `op` and `operand`.
-/

namespace Gamebook

open Json

namespace Operator

/-- The name of an operator in JSON. -/
def formName : Operator → String
  | equal => "Eq"
  | notEqual => "NotEq"
  | atLeast => "GtEq"
  | atMost => "LtEq"
  | greater => "Gt"
  | less => "Lt"

def reader : Reader Operator := Reader.variant (all.map fun op => (op.formName, op))

end Operator

namespace Condition

def toJson (c : Condition) : Json :=
  .object [("variable", .string c.name), ("op", .string c.op.formName),
    ("operand", c.operand.toJson)]

structure Partly where
  name : Option String := none
  op : Option Operator := none
  operand : Option Value := none

def record : Record Partly Condition where
  name := "Condition"
  fields := [
    { name := "variable", optional := false
      filled := fun p => p.name.isSome
      fill := fun depth v p => do .ok { p with name := some (← Reader.string depth v) } },
    { name := "op", optional := false
      filled := fun p => p.op.isSome
      fill := fun depth v p => do .ok { p with op := some (← Operator.reader depth v) } },
    { name := "operand", optional := false
      filled := fun p => p.operand.isSome
      fill := fun depth v p => do .ok { p with operand := some (← Value.reader depth v) } }]
  empty := {}
  done := fun p => do
    let name ← Record.required "variable" p.name
    let op ← Record.required "op" p.op
    let operand ← Record.required "operand" p.operand
    .ok { name, op, operand }

def reader : Reader Condition := record.read

end Condition

end Gamebook
