import Gamebook.Number.Basic

/-!
# Gamebook — bit patterns of numbers

* `Number.ofBits` — the number of a 64-bit interchange pattern: sign, eleven
  exponent bits, fifty-two fraction bits.
* `Number.toBits?` — the pattern of a number; what is not a number has none of
  its own, since every pattern of that kind reads as the same value.
-/

namespace Gamebook

namespace Magnitude

/-- The eleven exponent bits and the fifty-two fraction bits, as one natural number. -/
def bits (m : Magnitude) : Nat :=
  if m.units < Nat.pow 2 52 then m.units
  else (spare m.units + 1) * Nat.pow 2 52 + (m.units / Nat.pow 2 (spare m.units) - Nat.pow 2 52)

end Magnitude

namespace Number

/-- The number of a pattern given as its sign, exponent field and fraction field. -/
def ofFields (negative : Bool) (exponent fraction : Nat) : Number :=
  -- The largest exponent field stands for the special values, zero for a significand
  -- without the leading one.
  if exponent = 2047 then
    if fraction = 0 then infinite negative else notANumber
  else if exponent = 0 then ofMagnitude? negative (Magnitude.ofUnits? fraction 1)
  else ofMagnitude? negative
    (Magnitude.ofUnits? ((Nat.pow 2 52 + fraction) * Nat.pow 2 (exponent - 1)) 1)

/-- The number of a 64-bit pattern. -/
def ofBits (bits : Nat) : Number :=
  ofFields (bits / Nat.pow 2 63 % 2 == 1) (bits / Nat.pow 2 52 % 2048) (bits % Nat.pow 2 52)

/-- The pattern of a number, if it is one. -/
def toBits? : Number → Option Nat
  | notANumber => none
  | infinite negative => some ((if negative then Nat.pow 2 63 else 0) + 2047 * Nat.pow 2 52)
  | finite negative size => some ((if negative then Nat.pow 2 63 else 0) + size.bits)

end Number

end Gamebook
