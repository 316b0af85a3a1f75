import Gamebook.Number.Basic
import Gamebook.Text.Digits

/-!
# Gamebook — numerals

* `Numeral` — the parts of a written number: sign, whole digits, fraction
  digits, exponent.
* `Numeral.nearest` — the number nearest to the exact value that is written.
* `Numeral.ofPlain?` — a whole text read as a plain decimal: an optional sign,
  digits with an optional point (a digit on at least one side of it), an
  optional exponent.
-/

namespace Gamebook

open Text

/-- The parts of a written number. -/
structure Numeral where
  negative : Bool
  /-- The digits before the point. -/
  whole : List (Fin 10)
  /-- The digits after the point, if there is one. -/
  fraction : Option (List (Fin 10))
  /-- Whether the exponent is negative, and its digits, if there is one. -/
  exponent : Option (Bool × List (Fin 10))
deriving DecidableEq

/-- The number nearest to `digits` times `10 ^ exponent`, with the given sign.

A value from 10^310 on is past the largest number and one below 10^-330 is
nearest to zero, so neither needs its exact ratio. -/
def Number.ofDecimal (negative : Bool) (digits : Nat) (exponent : Int) : Number :=
  if digits = 0 then .finite negative .zero
  else if 310 < decimalLength digits + exponent then .infinite negative
  else if decimalLength digits + exponent < -330 then .finite negative .zero
  else
    match exponent with
    | .ofNat e => .ofMagnitude? negative (Magnitude.ofRatio? (digits * Nat.pow 10 e) 1)
    | .negSucc e => .ofMagnitude? negative (Magnitude.ofRatio? digits (Nat.pow 10 (e + 1)))

namespace Numeral

/-- The fraction digits, none if there is no point. -/
def fractionDigits (n : Numeral) : List (Fin 10) := n.fraction.getD []

/-- The written exponent, zero if there is none. -/
def exponentValue (n : Numeral) : Int :=
  match n.exponent with
  | none => 0
  | some (negative, ds) => if negative then -(digitsValue ds : Int) else digitsValue ds

/-- The number nearest to the exact value of the numeral. -/
def nearest (n : Numeral) : Number :=
  .ofDecimal n.negative (digitsValue (n.whole ++ n.fractionDigits))
    (n.exponentValue - n.fractionDigits.length)

/-- An optional sign in front of digits: whether it is a minus, and what follows. -/
def sign : List Char → Bool × List Char
  | '-' :: cs => (true, cs)
  | '+' :: cs => (false, cs)
  | cs => (false, cs)

/-- The exponent that ends a plain decimal: the end of the text, or `e` or `E`, an
optional sign and at least one digit. -/
def plainExponent? : List Char → Option (Option (Bool × List (Fin 10)))
  | [] => some none
  | c :: cs =>
    if c == 'e' || c == 'E' then
      match digits (sign cs).2 with
      | (d :: ds, []) => some (some ((sign cs).1, d :: ds))
      | _ => none
    else none

/-- The whole text as a plain decimal. -/
def ofPlain? (cs : List Char) : Option Numeral :=
  match digits (sign cs).2 with
  | (whole, '.' :: rest) =>
    if whole.isEmpty && (digits rest).1.isEmpty then none
    else (plainExponent? (digits rest).2).map fun exponent =>
      { negative := (sign cs).1, whole, fraction := some (digits rest).1, exponent }
  | (whole, rest) =>
    if whole.isEmpty then none
    else (plainExponent? rest).map fun exponent =>
      { negative := (sign cs).1, whole, fraction := none, exponent }

end Numeral

end Gamebook
