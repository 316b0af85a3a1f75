import Gamebook.Number.Layout
import Gamebook.Number.Numeral
import Gamebook.Text.Blank

/-!
# Gamebook — values of story variables

* `Value` — a truth value, a number, a text, or nothing.
* `Value.same` — strict equality: values of different kinds are never equal.
* `Value.order?` — the order of two values: two texts compare as texts, any
  other two as numbers; undefined where one of them is not a number.
* `Value.display` — the text of a value inside a story.
-/

namespace Gamebook

/-- The value of a story variable. -/
inductive Value where
  | bool (b : Bool)
  | number (x : Number)
  | text (s : String)
  | null
deriving DecidableEq

namespace Value

/-- The number that a text stands for: blank text is zero, the infinities have their names,
and what is not a plain decimal is not a number. -/
def numberOfText (s : String) : Number :=
  let cs := Text.trim s.toList
  if cs.isEmpty then .zero
  else if cs == "Infinity".toList || cs == "+Infinity".toList then .infinite false
  else if cs == "-Infinity".toList then .infinite true
  else
    match Numeral.ofPlain? cs with
    | some n => n.nearest
    | none => .notANumber

/-- The number that a value counts as in a comparison. -/
def toNumber : Value → Number
  | bool b => .ofInt (if b then 1 else 0)
  | number x => x
  | text s => numberOfText s
  | null => .zero

/-- Strict equality: same kind and same content. -/
def same : Value → Value → Bool
  | bool a, bool b => a == b
  | number x, number y => x.same y
  | text s, text t => s == t
  | null, null => true
  | _, _ => false

/-- The order of two values, if they have one. -/
def order? : Value → Value → Option Ordering
  | text s, text t => some (compare s t)
  | a, b => a.toNumber.order? b.toNumber

/-- The text of a value inside a story. -/
def display : Value → String
  | bool b => if b then "true" else "false"
  | number x => String.ofList (x.write .display)
  | text s => s
  | null => "null"

end Value

end Gamebook
