import Gamebook.Value

/-!
# Gamebook — comparison operators

* `Operator` — the six comparisons of a condition.
* `Operator.find?` — the operator of a condition text: the first one, in a
  fixed order, that occurs anywhere in it. Longer symbols come before the
  symbols they contain.
* `Operator.holds` — whether a comparison holds; the left side may be undefined.
-/

namespace Gamebook

/-- A comparison. -/
inductive Operator where
  | equal
  | notEqual
  | atLeast
  | atMost
  | greater
  | less
deriving DecidableEq

namespace Operator

/-- The operators in the order in which they are looked for. -/
def all : List Operator := [equal, notEqual, atLeast, atMost, greater, less]

def symbol : Operator → String
  | equal => "=="
  | notEqual => "!="
  | atLeast => ">="
  | atMost => "<="
  | greater => ">"
  | less => "<"

/-- The text before and behind the first occurrence of a symbol. -/
def cut? (symbol : List Char) : List Char → Option (List Char × List Char)
  | [] => none
  | c :: cs =>
    if symbol.isPrefixOf (c :: cs) then some ([], (c :: cs).drop symbol.length)
    else (cut? symbol cs).map fun p => (c :: p.1, p.2)

def occursIn (op : Operator) (source : String) : Bool :=
  (cut? op.symbol.toList source.toList).isSome

/-- The operator of a condition text. -/
def find? (source : String) : Option Operator := all.find? (·.occursIn source)

/-- Whether an order satisfies one of the four ordered comparisons. -/
def accepts : Operator → Ordering → Bool
  | atLeast, o => o != .lt
  | atMost, o => o != .gt
  | greater, o => o == .gt
  | less, o => o == .lt
  | equal, _ | notEqual, _ => false

/-- Whether a defined value equals the right side. -/
def equals (left : Option Value) (right : Value) : Bool :=
  match left with
  | some v => v.same right
  | none => false

/-- Whether a comparison holds. An undefined left side equals nothing, and neither it nor an
undefined order satisfies an ordered comparison. -/
def holds (op : Operator) (left : Option Value) (right : Value) : Bool :=
  match op with
  | equal => equals left right
  | notEqual => !equals left right
  | op =>
    match left.bind (·.order? right) with
    | some o => op.accepts o
    | none => false

end Operator

end Gamebook
