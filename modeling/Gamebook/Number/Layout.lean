import Gamebook.Number.Shortest

/-!
# Gamebook — numbers as text

* `Layout` — the decisions of one way to write numbers: where positional
  notation ends, whether an integer keeps `.0`, how ties go, and the texts of
  the special values.
* `Number.write` — a number written by a layout.
* `Layout.display` — the text that a story shows.
* `Layout.json` — the text inside JSON.

Both layouts write the shortest digits that read back, and always the sign of a
positive exponent.
-/

namespace Gamebook

/-- The decisions of one way to write numbers. -/
structure Layout where
  /-- The lowest power of ten of the first digit that is written positionally. -/
  lowest : Int
  highest : Int
  /-- Whether an integer in positional notation ends in `.0`. -/
  pointZero : Bool
  /-- Whether negative zero keeps its sign. -/
  signedZero : Bool
  tie : Tie
  notANumber : List Char
  infinite : Bool → List Char

namespace Layout

/-- The text that a story shows: positional from 10^-6 to below 10^21, integers
without a point, no sign on zero. -/
def display : Layout where
  lowest := -6
  highest := 20
  pointZero := false
  signedZero := false
  tie := .up
  notANumber := "NaN".toList
  infinite := fun negative => (if negative then "-Infinity" else "Infinity").toList

/-- The text inside JSON: positional from 10^-5 to below 10^16, integers with
`.0`; JSON has no infinities, so they are null. -/
def json : Layout where
  lowest := -5
  highest := 15
  pointZero := true
  signedZero := true
  tie := .even
  notANumber := "null".toList
  infinite := fun _ => "null".toList

/-- Significant digits in positional notation. -/
def positional (layout : Layout) (s : Significant) : List Char :=
  if s.exponent < 0 then
    "0.".toList ++ List.replicate ((-s.exponent).toNat - 1) '0' ++ s.digits
  else if s.digits.length ≤ s.exponent.toNat + 1 then
    s.digits ++ List.replicate (s.exponent.toNat + 1 - s.digits.length) '0' ++
      (if layout.pointZero then ".0".toList else [])
  else s.digits.take (s.exponent.toNat + 1) ++ '.' :: s.digits.drop (s.exponent.toNat + 1)

/-- Significant digits with an exponent: one digit before the point. -/
def scientific (s : Significant) : List Char :=
  s.digits.take 1 ++ (if s.digits.length ≤ 1 then [] else '.' :: s.digits.drop 1) ++
    'e' :: (if s.exponent < 0 then '-' else '+') :: Text.decimal s.exponent.natAbs

/-- Significant digits in the notation that the layout chooses. -/
def significant (layout : Layout) (s : Significant) : List Char :=
  if layout.lowest ≤ s.exponent && s.exponent ≤ layout.highest then layout.positional s
  else scientific s

end Layout

/-- A number written by a layout. -/
def Number.write (layout : Layout) : Number → List Char
  | .notANumber => layout.notANumber
  | .infinite negative => layout.infinite negative
  | .finite negative size =>
    if size.units = 0 then
      (if negative && layout.signedZero then ['-'] else []) ++
        (if layout.pointZero then "0.0".toList else "0".toList)
    else (if negative then ['-'] else []) ++ layout.significant (size.shortest layout.tie)

end Gamebook
