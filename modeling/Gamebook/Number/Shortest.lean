import Gamebook.Number.Basic
import Gamebook.Text.Digits

/-!
# Gamebook — the shortest decimal of a magnitude

* `Tie` — what a decimal halfway between two candidates does.
* `Magnitude.shortest` — the fewest significant digits that read back as the
  magnitude, and of those digits the ones nearest to it.

A decimal reads back when it lies closer to the magnitude than half the way to
either neighbour; halfway counts if the significand is even. If any decimal
with `n` digits does, so does one of the two that enclose the magnitude, so
those two are tested for n = 1, 2, … 17 in exact arithmetic. Seventeen digits
always suffice.
-/

namespace Gamebook

open Text

/-- Which of two equally near decimals is written. -/
inductive Tie where
  /-- The larger one. -/
  | up
  /-- The one whose last digit is even. -/
  | even
deriving DecidableEq

/-- Significant digits, the first and the last not zero, and the power of ten of
the first one. -/
structure Significant where
  digits : List Char
  exponent : Int
deriving DecidableEq

namespace Magnitude

/-- The power of ten of the first significant digit. With 400 more places the
integer part has a digit for each place down to 10^-400. -/
def decimalExponent (m : Magnitude) : Int :=
  (decimalLength (m.units * Nat.pow 10 400 / unitsPerOne) : Int) - 401

/-- The ratio of the magnitude to `10 ^ place`, as numerator and denominator. -/
def ratioTo (m : Magnitude) (place : Int) : Nat × Nat :=
  match place with
  | .ofNat p => (m.units, unitsPerOne * Nat.pow 10 p)
  | .negSucc p => (m.units * Nat.pow 10 (p + 1), unitsPerOne)

/-- One unit as a ratio to `10 ^ place`, over the denominator of `ratioTo`. -/
def unitTo (place : Int) : Nat :=
  match place with
  | .ofNat _ => 1
  | .negSucc p => Nat.pow 10 (p + 1)

/-- The significand: the units without the bits that cannot be used. -/
def significand (m : Magnitude) : Nat := m.units / Nat.pow 2 (spare m.units)

/-- A power of two that is not the smallest one of its spacing has its lower
neighbour at half the distance of the upper one. -/
def lowerIsNear (m : Magnitude) : Bool := m.significand == Nat.pow 2 52 && spare m.units != 0

/-- Whether `candidate · 10 ^ place` reads back as the magnitude. All distances
are in quarters, so that half of the smaller distance is a whole number. -/
def readsBack (m : Magnitude) (place : Int) (candidate : Nat) : Bool :=
  let (num, den) := m.ratioTo place
  let quarter := unitTo place * Nat.pow 2 (spare m.units)
  let value := 4 * num
  let tried := 4 * candidate * den
  let closed := m.significand % 2 == 0
  -- Below the magnitude the lower neighbour decides, above it the upper one.
  if tried ≤ value then
    let half := if m.lowerIsNear then quarter else 2 * quarter
    value - tried < half || (closed && value - tried == half)
  else
    tried - value < 2 * quarter || (closed && tried - value == 2 * quarter)

/-- The better of the two decimals that enclose the magnitude at a place, if one
of them reads back. -/
def candidate? (m : Magnitude) (tie : Tie) (place : Int) : Option Nat :=
  let (num, den) := m.ratioTo place
  let low := num / den
  -- Where both read back, the nearer one is better.
  match m.readsBack place low, m.readsBack place (low + 1) with
  | false, false => none
  | true, false => some low
  | false, true => some (low + 1)
  | true, true =>
    if 2 * (num % den) < den then some low
    else if den < 2 * (num % den) then some (low + 1)
    else
      match tie with
      | .up => some (low + 1)
      | .even => some (low + low % 2)

/-- Digits without the zeros at their end. -/
def dropZeros (cs : List Char) : List Char := (cs.reverse.dropWhile (· == '0')).reverse

/-- The decimal `candidate · 10 ^ place` by its significant digits. -/
def significant (candidate : Nat) (place : Int) : Significant :=
  { digits := dropZeros (decimal candidate)
    exponent := place + (decimalLength candidate : Int) - 1 }

/-- The fewest digits that read back, and of those the nearest. -/
def shortest (m : Magnitude) (tie : Tie) : Significant :=
  let places := (List.range 17).map fun (n : Nat) => m.decimalExponent - n
  (places.findSome? fun place => (m.candidate? tie place).map (significant · place)).getD ⟨['0'], 0⟩

end Magnitude

end Gamebook
