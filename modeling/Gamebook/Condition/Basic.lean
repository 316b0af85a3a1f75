import Gamebook.Condition.Operator
import Gamebook.Literal
import Gamebook.Vars

/-!
# Gamebook — conditions

* `Condition` — a variable compared with a literal.
* `Condition.parse` — the condition that a text writes. Behind a second
  occurrence of the operator the text does not count.
* `Condition.visible` — whether an optional condition lets its choice be seen.
-/

namespace Gamebook

/-- A variable compared with a literal. -/
structure Condition where
  name : String
  op : Operator
  operand : Value
deriving DecidableEq

/-- Why a text writes no condition. -/
inductive ConditionError where
  | missingOperator (source : String)
deriving DecidableEq

def ConditionError.message : ConditionError → String
  | missingOperator source => "条件 '" ++ source ++ "' 中没有可识别的运算符"

namespace Condition

/-- A text cut at an operator: what stands before the first occurrence, and what stands
between it and the second one. -/
def sides (op : Operator) (source : String) : List Char × List Char :=
  match Operator.cut? op.symbol.toList source.toList with
  | none => (source.toList, [])
  | some (left, behind) =>
    match Operator.cut? op.symbol.toList behind with
    | none => (left, behind)
    | some (right, _) => (left, right)

/-- The condition that a text writes. -/
def parse (source : String) : Except ConditionError Condition :=
  match Operator.find? source with
  | none => .error (.missingOperator source)
  | some op => .ok
      { name := String.ofList (Text.trim (sides op source).1)
        op
        operand := .ofLiteral (String.ofList (sides op source).2) }

def holds (c : Condition) (vars : Vars) : Bool := c.op.holds vars[c.name]? c.operand

/-- Whether an optional condition holds; none and the empty text always do. -/
def visible (vars : Vars) : Option String → Except ConditionError Bool
  | none => .ok true
  | some source => if source.isEmpty then .ok true else (parse source).map (·.holds vars)

end Condition

end Gamebook
