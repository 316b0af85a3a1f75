import Gamebook.Json.Read
import Gamebook.Value

/-!
# Gamebook — literals

* `Json.isNumeral` — whether a text is a number of JSON's grammar, of whatever size.
* `Value.ofLiteral` — the value that a piece of source text writes.

A literal is read without the blanks around it. `null`, `true`, `false`, a JSON
number and a JSON string write themselves; every other text, a JSON array or
object too, writes itself as a text. So reading never fails.
-/

namespace Gamebook

/-- The text before the first character of a class, and what follows that character, if there
is one. -/
def Text.cutAt (p : Char → Bool) : List Char → List Char × Option (List Char)
  | [] => ([], none)
  | c :: cs => if p c then ([], some cs) else (c :: (cutAt p cs).1, (cutAt p cs).2)

namespace Json

/-- At least one character, and all of them are ASCII digits. -/
def isDigits (cs : List Char) : Bool := !cs.isEmpty && cs.all Char.isDigit

/-- A character that an exponent begins with. -/
def isExponentMark (c : Char) : Bool := c == 'e' || c == 'E'

/-- Whether a text is a number of JSON's grammar: an optional minus, digits without a leading
zero, an optional fraction and an optional exponent. The text is cut apart at the first mark
of an exponent and, before it, at the first point. -/
def isNumeral (cs : List Char) : Bool :=
  let parts := Text.cutAt isExponentMark (scanMinus cs).2
  let mantissa := Text.cutAt (· == '.') parts.1
  isDigits mantissa.1 && (mantissa.1 == ['0'] || mantissa.1.head? != some '0') &&
    mantissa.2.all isDigits && parts.2.all fun exponent => isDigits (Numeral.sign exponent).2

end Json

open Json

namespace Value

/-- The value that a checked tree writes, if it is not an array or an object. -/
def ofScalar? : Syntax → Option Value
  | .null => some null
  | .bool b => some (bool b)
  | .number (.ok n) => n.read.toOption.map fun reading => number reading.number
  | .string s => s.contents.toOption.map text
  | _ => none

/-- The value that a piece of source text writes. -/
def ofLiteral (raw : String) : Value :=
  let t := Text.trimmed raw
  match Json.ofText Reader.any t with
  | .ok v => (ofScalar? v).getD (text t)
  | .error _ =>
    -- A number that is refused as out of range is read to the nearest one, maybe an infinity.
    if isNumeral t.toList then
      match Numeral.ofPlain? t.toList with
      | some n => number n.nearest
      | none => text t
    else text t

/-- Only the text between the blanks around a literal counts. -/
theorem ofLiteral_congr {raw raw' : String}
    (h : Text.trim raw.toList = Text.trim raw'.toList) : ofLiteral raw = ofLiteral raw' := by
  rw [ofLiteral, ofLiteral, Text.trimmed, Text.trimmed, h]

end Value

end Gamebook
