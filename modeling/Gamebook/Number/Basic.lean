/-!
# Gamebook — binary64 numbers

* `Magnitude` — a non-negative finite binary64 value, held as its exact count
  of units of 2^-1074 (the distance between the smallest values).
* `Magnitude.ofRatio?` — a non-negative ratio rounded to the nearest magnitude,
  a half going to the even significand; `none` beyond the largest one.
* `Number` — a magnitude with a sign, an infinity, or not a number.
* `Number.order?` — the order of numbers, undefined where one is not a number.

Counting units makes order and equality those of the integers: no statement
about numbers needs exponents. The two zeros differ as values and agree in
order. Powers are applications of `Nat.pow`, so that they mean the same
whichever algebra is in scope.
-/

namespace Gamebook

/-! ## Rounded quotients -/

/-- `num / den` rounded to the nearest natural number, a half to the even one. -/
def roundDiv (num den : Nat) : Nat :=
  if 2 * (num % den) < den then num / den
  else if den < 2 * (num % den) then num / den + 1
  else num / den + num / den % 2

theorem roundDiv_le (num den : Nat) : roundDiv num den ≤ num / den + 1 := by
  unfold roundDiv
  split
  · omega
  · split <;> omega

/-- An exact quotient is its own rounding. -/
theorem roundDiv_mul {den : Nat} (h : 0 < den) (n : Nat) : roundDiv (n * den) den = n := by
  simp [roundDiv, Nat.mul_div_cancel n h, h]

/-! ## Magnitudes -/

/-- The units in one, 2^1074. -/
def unitsPerOne : Nat := Nat.pow 2 1074

/-- The units in 2^1024, where the finite magnitudes end. -/
def unitsCeiling : Nat := Nat.pow 2 2098

theorem natPow_two_pos (n : Nat) : 0 < Nat.pow 2 n := Nat.two_pow_pos n

theorem unitsCeiling_pos : 0 < unitsCeiling := by
  delta unitsCeiling; apply natPow_two_pos

/-- A finite binary64 magnitude: `units` times 2^-1074. -/
structure Magnitude where
  /-- The exact value in units of 2^-1074. -/
  units : Nat
  /-- At most 53 significant bits. -/
  exact : ∃ significand shift,
    significand < Nat.pow 2 53 ∧ units = significand * Nat.pow 2 shift
  /-- Below 2^1024. -/
  bounded : units < unitsCeiling
deriving DecidableEq

namespace Magnitude

/-- Equal counts of units are equal magnitudes. -/
theorem ext {a b : Magnitude} (h : a.units = b.units) : a = b := by
  cases a; cases b; cases h; rfl

def zero : Magnitude := ⟨0, ⟨0, 0, by decide, rfl⟩, unitsCeiling_pos⟩

/-- How many low bits a magnitude of about `n` units cannot use. -/
def spare (n : Nat) : Nat := n.log2 - 52

/-- The multiple of the usable grid nearest to `num / den` units. -/
def roundUnits (num den : Nat) : Nat :=
  roundDiv num (den * Nat.pow 2 (spare (num / den))) * Nat.pow 2 (spare (num / den))

/-- Rounding leaves at most 53 significant bits. -/
theorem roundUnits_exact (num den : Nat) :
    ∃ significand shift,
      significand < Nat.pow 2 53 ∧ roundUnits num den = significand * Nat.pow 2 shift := by
  simp only [Nat.pow_eq, roundUnits]
  -- The floor of the ratio has at most 53 bits above the spare ones.
  have hlt : num / den < 2 ^ (53 + spare (num / den)) := by
    refine Nat.lt_of_lt_of_le (Nat.lt_log2_self (n := num / den)) ?_
    exact Nat.pow_le_pow_right (by decide) (by unfold spare; omega)
  have hq : num / (den * 2 ^ spare (num / den)) < 2 ^ 53 := by
    rw [← Nat.div_div_eq_div_mul]
    exact Nat.div_lt_of_lt_mul (by rw [Nat.mul_comm, ← Nat.pow_add]; exact hlt)
  -- Rounding may carry into a 54th bit, but then all other bits are zero.
  have hr : roundDiv num (den * 2 ^ spare (num / den)) ≤ 2 ^ 53 :=
    Nat.le_trans (roundDiv_le _ _) hq
  rcases Nat.lt_or_eq_of_le hr with h | h
  · exact ⟨_, _, h, rfl⟩
  · refine ⟨2 ^ 52, spare (num / den) + 1, by decide, ?_⟩
    rw [h, Nat.pow_succ 2 (spare _), Nat.pow_succ 2 52, Nat.mul_assoc,
      Nat.mul_comm (2 ^ spare _) 2]

/-- `num / den` units rounded to the nearest magnitude; `none` from 2^1024 on. -/
def ofUnits? (num den : Nat) : Option Magnitude :=
  if h : roundUnits num den < unitsCeiling then some ⟨_, roundUnits_exact num den, h⟩ else none

/-- The ratio `num / den` rounded to the nearest magnitude. -/
def ofRatio? (num den : Nat) : Option Magnitude := ofUnits? (num * unitsPerOne) den

/-- The rounded product; `none` beyond the largest magnitude. -/
def mul? (a b : Magnitude) : Option Magnitude := ofUnits? (a.units * b.units) unitsPerOne

/-- The rounded quotient; `none` beyond the largest magnitude. -/
def div? (a b : Magnitude) : Option Magnitude := ofUnits? (a.units * unitsPerOne) b.units

end Magnitude

/-! ## Numbers -/

/-- A binary64 number. -/
inductive Number where
  | notANumber
  | infinite (negative : Bool)
  | finite (negative : Bool) (size : Magnitude)
deriving DecidableEq

namespace Number

/-- The number of that sign and that rounded magnitude, infinite beyond the largest. -/
def ofMagnitude? (negative : Bool) : Option Magnitude → Number
  | some m => finite negative m
  | none => infinite negative

/-- An integer rounded to the nearest number. -/
def ofInt (i : Int) : Number :=
  ofMagnitude? (decide (i < 0)) (Magnitude.ofRatio? i.natAbs 1)

def zero : Number := finite false .zero

/-- The place of a number on the number line, in units; the infinities stand
beyond every finite number. -/
def place? : Number → Option Int
  | notANumber => none
  | infinite negative => if negative then some (-(unitsCeiling : Int)) else some unitsCeiling
  | finite negative size => if negative then some (-(size.units : Int)) else some size.units

/-- The order of two numbers, undefined if one of them is not a number. -/
def order? (a b : Number) : Option Ordering :=
  match a.place?, b.place? with
  | some i, some j => some (compare i j)
  | _, _ => none

/-- Numeric equality: the two zeros are equal, what is not a number equals nothing. -/
def same (a b : Number) : Bool := a.order? b == some .eq

/-- Exchanging the operands reverses the order. -/
theorem order?_swap (a b : Number) : b.order? a = (a.order? b).map Ordering.swap := by
  unfold order?
  cases a.place? <;> cases b.place? <;> simp [Int.compare_swap]

theorem ofMagnitude?_ne_notANumber (negative : Bool) (size : Option Magnitude) :
    ofMagnitude? negative size ≠ notANumber := by
  cases size with
  | none => exact nofun
  | some m => exact nofun

theorem ofInt_ne_notANumber (i : Int) : ofInt i ≠ notANumber := ofMagnitude?_ne_notANumber _ _

end Number

end Gamebook
