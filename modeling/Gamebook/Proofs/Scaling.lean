import Gamebook.Proofs.Decimals
import Gamebook.Proofs.Rounding

/-!
# Gamebook — scaling by powers of ten

A numeral with a fraction or an exponent is read in two steps that each round: its
digits, as one integer of 64 bits, become a magnitude, and that is multiplied or
divided by a power of ten. So the result may not be the nearest magnitude, and it
may even be beyond the largest one where the nearest is not. It is the nearest if
both the integer and the power of ten are magnitudes, since then only one step
rounds. And digits that a magnitude is nearest to are scaled within range, with a
single exception: 17976931348623158 with 292 places, right above the largest one.

* `Magnitude.ofDecimal?` — the magnitude nearest to digits with a power of ten.
* `Magnitude.scaled?_of_fewBits` — it is what scaling gives if only one step rounds.
* `Magnitude.isSome_scaled?` — digits that a magnitude is nearest to are scaled to
  some magnitude.
* `Numeral.coefficient`, `Numeral.lastPlace`, `Numeral.read_eq` — a numeral whose
  digits fit 64 bits is scaled from all of them.
-/

namespace Gamebook

open Text

namespace Magnitude

variable {m a b : Magnitude}

-- ---------------------------------------------------------------------------
-- Decimals
-- ---------------------------------------------------------------------------

/-- The magnitude nearest to `digits · 10 ^ exponent`. -/
def ofDecimal? (digits : Nat) (exponent : Int) : Option Magnitude :=
  ofRatio? (digits * 10 ^ exponent.toNat) (10 ^ (-exponent).toNat)

theorem ofDecimal?_ofNat (digits places : Nat) :
    ofDecimal? digits (Int.ofNat places) = ofRatio? (digits * Nat.pow 10 places) 1 := by
  have hNeg : (-Int.ofNat places).toNat = 0 := by
    rw [Int.ofNat_eq_natCast]
    omega
  rw [ofDecimal?, hNeg, Nat.pow_zero]
  rfl

theorem ofDecimal?_negSucc (digits places : Nat) :
    ofDecimal? digits (Int.negSucc places) = ofRatio? digits (Nat.pow 10 (places + 1)) := by
  rw [ofDecimal?, Int.toNat_negSucc, Nat.pow_zero, Nat.mul_one]
  rfl

/-- Zeros behind the digits count as places. -/
theorem ofDecimal?_zeros (digits zeros : Nat) (place : Int) :
    ofDecimal? (digits * 10 ^ zeros) place = ofDecimal? digits (place + zeros) := by
  have hTen : ∀ n, 0 < 10 ^ n := fun n => Nat.pow_pos (by decide)
  rw [ofDecimal?, ofDecimal?, ofRatio?, ofRatio?]
  generalize unitsPerOne = one
  refine ofUnits?_congr (hTen _) (hTen _) ?_
  have hPlaces : zeros + place.toNat + (-(place + zeros)).toNat =
      (place + zeros).toNat + (-place).toNat := by omega
  calc digits * 10 ^ zeros * 10 ^ place.toNat * one * 10 ^ (-(place + zeros)).toNat
      = digits * one * 10 ^ (zeros + place.toNat + (-(place + zeros)).toNat) := by
        rw [Nat.pow_add, Nat.pow_add]
        ac_rfl
    _ = digits * 10 ^ (place + zeros).toNat * one * 10 ^ (-place).toNat := by
        rw [hPlaces, Nat.pow_add]
        ac_rfl

-- ---------------------------------------------------------------------------
-- Scaling without error
-- ---------------------------------------------------------------------------

theorem fewBits_pow_ten {n : Nat} (hSmall : n ≤ 22) : FewBits (Nat.pow 10 n) := by
  refine ⟨5 ^ n, n, Nat.lt_of_le_of_lt (Nat.pow_le_pow_right (by decide) hSmall) (by decide), ?_⟩
  rw [Nat.pow_eq, Nat.pow_eq, ← Nat.mul_pow]

theorem units_powerOfTen {n : Nat} (hSmall : n ≤ 22) :
    (powerOfTen n).units = Nat.pow 10 n * unitsPerOne := by
  have hLimit : Nat.pow 10 n < Nat.pow 2 80 :=
    Nat.lt_of_le_of_lt (Nat.pow_le_pow_right (by decide) hSmall) (by decide)
  have hBounded : Nat.pow 10 n < Nat.pow 2 1024 := by
    apply lt_pow_two_of_lt hLimit
    decide
  obtain ⟨m, hSome, hUnits⟩ := ofRatio?_of_fewBits (fewBits_pow_ten hSmall) hBounded
  rw [powerOfTen, hSome]
  exact hUnits

/-- Two whole numbers are multiplied exactly, and then rounded. -/
theorem mul?_of_units {x y : Nat} (ha : a.units = x * unitsPerOne)
    (hb : b.units = y * unitsPerOne) : a.mul? b = ofRatio? (x * y) 1 := by
  have hOne := unitsPerOne_pos
  rw [mul?, ofRatio?, ha, hb]
  generalize unitsPerOne = one at *
  refine ofUnits?_congr hOne Nat.one_pos ?_
  rw [Nat.mul_one, Nat.mul_mul_mul_comm, ← Nat.mul_assoc]

theorem div?_of_units {x y : Nat} (hy : 0 < y) (ha : a.units = x * unitsPerOne)
    (hb : b.units = y * unitsPerOne) : a.div? b = ofRatio? x y := by
  have hOne := unitsPerOne_pos
  rw [div?, ofRatio?, ha, hb]
  generalize unitsPerOne = one at *
  refine ofUnits?_congr (Nat.mul_pos hy hOne) hy ?_
  rw [Nat.mul_assoc, Nat.mul_comm one y]

/-- A significand of few bits and a power of ten that is a magnitude are scaled without error: the
result is the nearest magnitude. -/
theorem scaled?_of_fewBits {significand : Nat} {exponent : Int} (hBits : FewBits significand)
    (hRange : significand < Nat.pow 2 64) (hExponent : exponent.natAbs ≤ 22)
    (hNearest : ofDecimal? significand exponent = some m) :
    scaled? significand exponent = some m := by
  have hBounded : significand < Nat.pow 2 1024 := by
    apply lt_pow_two_of_lt hRange
    decide
  obtain ⟨a, hSome, hUnits⟩ := ofRatio?_of_fewBits hBits hBounded
  rw [scaled?, hSome]
  cases exponent with
  | ofNat places =>
    have hSmall : places ≤ 22 := hExponent
    show a.scaleUp? places = some m
    rw [scaleUp?, if_pos (Nat.le_trans hSmall (by decide)),
      mul?_of_units hUnits (units_powerOfTen hSmall)]
    rwa [ofDecimal?_ofNat] at hNearest
  | negSucc places =>
    have hSmall : places + 1 ≤ 22 := hExponent
    have hTen : 0 < Nat.pow 10 (places + 1) := Nat.pow_pos (by decide)
    show some (a.scaleDown (places + 1)) = some m
    rw [scaleDown, if_pos (Nat.le_trans hSmall (by decide)),
      div?_of_units hTen hUnits (units_powerOfTen hSmall)]
    rw [ofDecimal?_negSucc] at hNearest
    rw [hNearest]
    rfl

-- ---------------------------------------------------------------------------
-- Scaling within range
-- ---------------------------------------------------------------------------

/-- Below a power of ten that is no larger than the largest magnitude, none is. -/
theorem powerOfTen_mono {places places' : Nat} (hLe : places ≤ places')
    (hSome : (ofRatio? (Nat.pow 10 places') 1).isSome = true) :
    (ofRatio? (Nat.pow 10 places) 1).isSome = true ∧
      (powerOfTen places).units ≤ (powerOfTen places').units := by
  have hPower : Nat.pow 10 places ≤ Nat.pow 10 places' := Nat.pow_le_pow_right (by decide) hLe
  obtain ⟨b, hLarger⟩ := Option.isSome_iff_exists.mp hSome
  obtain ⟨a, hSmaller, hUnits⟩ := ofRatio?_mono hPower hLarger
  rw [powerOfTen, powerOfTen, hLarger, hSmaller]
  exact ⟨rfl, hUnits⟩

/-- The largest power of ten that is no larger than the largest magnitude. -/
def mostPlaces : Nat := 308

theorem isSome_ofRatio?_mostPlaces : (ofRatio? (Nat.pow 10 mostPlaces) 1).isSome = true := by
  decide +kernel

/-- Where a significand is scaled up, a smaller one is, and by fewer places. -/
theorem scaled?_mono {significand significand' places places' : Nat}
    (hLe : significand ≤ significand') (hPlaces : places ≤ places') (hRange : places' ≤ mostPlaces)
    (hSome : (scaled? significand' (Int.ofNat places')).isSome = true) :
    (scaled? significand (Int.ofNat places)).isSome = true := by
  obtain ⟨m', hSome⟩ := Option.isSome_iff_exists.mp hSome
  rw [scaled?] at hSome
  obtain ⟨b, hWhole, hUp⟩ := Option.bind_eq_some_iff.mp hSome
  obtain ⟨a, hLess, hUnits⟩ := ofRatio?_mono hLe hWhole
  replace hUp : b.scaleUp? places' = some m' := hUp
  have hUpper : places' ≤ 308 := hRange
  rw [scaleUp?, if_pos hUpper] at hUp
  rw [scaled?, hLess]
  show (a.scaleUp? places).isSome = true
  rw [scaleUp?, if_pos (Nat.le_trans hPlaces hUpper)]
  have hLargest := (powerOfTen_mono hRange isSome_ofRatio?_mostPlaces).1
  obtain ⟨_, hScaled, -⟩ :=
    ofUnits?_mono (Nat.mul_le_mul hUnits (powerOfTen_mono hPlaces hLargest).2) hUp
  exact Option.isSome_of_eq_some hScaled

/-- The least integer that is rounded past the largest magnitude. -/
def firstBeyond : Nat := 2 ^ 1024 - 2 ^ 970

theorem ofRatio?_firstBeyond : ofRatio? firstBeyond 1 = none := by decide +kernel

theorem firstBeyond_lt : firstBeyond < 10 ^ 309 := by decide +kernel

theorem isSome_scaled?_few : (scaled? (10 ^ 17) (Int.ofNat 291)).isSome = true := by decide +kernel

/-- Significands that are not beyond the largest magnitude with their places are not scaled beyond
it. At 292 places there is one exception. -/
theorem isSome_scaled?_most : ∀ i < 17,
    (scaled? (if i = 0 then 17976931348623157 else firstBeyond / 10 ^ (292 + i))
      (Int.ofNat (292 + i))).isSome = true := by
  decide +kernel

theorem div_firstBeyond : firstBeyond / 10 ^ (292 + 0) = 17976931348623158 := by decide +kernel

/-- The digits of a magnitude are never scaled beyond the largest one. -/
theorem isSome_scaled? {digits : Nat} {place : Int} (hPos : 0 < digits) (hFew : digits ≤ 10 ^ 17)
    (hNearest : ofDecimal? digits place = some m)
    (hNotLargest : digits = 17976931348623158 → place ≠ 292) :
    (scaled? digits place).isSome = true := by
  cases place with
  | negSucc places =>
    have hMost : (ofRatio? (10 ^ 17) 1).isSome = true := by decide +kernel
    obtain ⟨b, hMost⟩ := Option.isSome_iff_exists.mp hMost
    obtain ⟨a, hSome, -⟩ := ofRatio?_mono hFew hMost
    rw [scaled?, hSome]
    rfl
  | ofNat places =>
    rw [ofDecimal?_ofNat] at hNearest
    have hBelow : digits * 10 ^ places < firstBeyond := by
      refine Nat.not_le.mp fun hBeyond => ?_
      obtain ⟨a, hSome, -⟩ := ofRatio?_mono hBeyond hNearest
      rw [ofRatio?_firstBeyond] at hSome
      cases hSome
    have hQuotient : digits ≤ firstBeyond / 10 ^ places :=
      (Nat.le_div_iff_mul_le (Nat.pow_pos (by decide))).mpr (Nat.le_of_lt hBelow)
    have hPlaces : places < 309 := by
      refine Nat.not_le.mp fun hMany => ?_
      have hPower := Nat.pow_le_pow_right (n := 10) (by decide) hMany
      have hLeast := Nat.le_mul_of_pos_left (10 ^ places) hPos
      have hBeyond := firstBeyond_lt
      omega
    rcases Nat.lt_or_ge places 292 with hFewPlaces | hMany
    · exact scaled?_mono hFew (Nat.le_of_lt_succ hFewPlaces) (by decide) isSome_scaled?_few
    · obtain ⟨i, rfl⟩ := Nat.exists_eq_add_of_le hMany
      refine scaled?_mono ?_ (Nat.le_refl _) (Nat.le_of_lt_succ hPlaces)
        (isSome_scaled?_most i (by omega))
      split
      · rename_i hTop
        subst hTop
        have hNot : digits ≠ 17976931348623158 := fun hLargest => hNotLargest hLargest rfl
        rw [div_firstBeyond] at hQuotient
        omega
      · exact hQuotient

end Magnitude

-- ---------------------------------------------------------------------------
-- Numerals
-- ---------------------------------------------------------------------------

/-- Digits whose number fits 64 bits fill a significand, and none is dropped. -/
theorem accumulate_eq {significand : Nat} {ds : List (Fin 10)}
    (hFits : ds.foldl (fun n d => 10 * n + d.val) significand < Nat.pow 2 64) :
    accumulate significand ds =
      ⟨ds.foldl (fun n d => 10 * n + d.val) significand, ds.length, 0⟩ := by
  induction ds generalizing significand with
  | nil => rfl
  | cons d ds ih =>
    rw [List.foldl_cons] at hFits
    have hNext : 10 * significand + d.val < Nat.pow 2 64 :=
      Nat.lt_of_le_of_lt (le_foldl_digits _ ds) hFits
    rw [accumulate, if_pos hNext, ih hFits]
    rfl

namespace Numeral

variable {n : Numeral}

/-- All digits of a numeral as one number. -/
def coefficient (n : Numeral) : Nat := digitsValue (n.whole ++ n.fractionDigits)

/-- The power of ten of the last digit. -/
def lastPlace (n : Numeral) : Int := n.exponentValue - n.fractionDigits.length

/-- The digits and the power of ten are magnitudes both, so scaling does not round twice. -/
def Fits (n : Numeral) : Prop := Magnitude.FewBits n.coefficient ∧ n.lastPlace.natAbs ≤ 22

/-- A number whose digits fit 64 bits is scaled from all of them. -/
theorem readReal_eq {n : Numeral} (hFits : digitsValue (n.whole ++ n.fractionDigits) < Nat.pow 2 64)
    (hExponent : n.exponentValue.natAbs ≤ exponentLimit) :
    n.readReal = scaledNumber n.negative (digitsValue (n.whole ++ n.fractionDigits))
      (n.exponentValue - n.fractionDigits.length) := by
  rw [digitsValue, List.foldl_append] at hFits
  have hWhole : n.whole.foldl (fun n d => 10 * n + d.val) 0 < Nat.pow 2 64 :=
    Nat.lt_of_le_of_lt (le_foldl_digits _ _) hFits
  rw [readReal, accumulate_eq hWhole]
  simp only [accumulate_eq hFits, if_neg (Nat.not_lt.mpr hExponent)]
  rw [digitsValue, List.foldl_append, Int.natCast_zero, Int.add_zero]

theorem read_eq (hNotWhole : n.isWhole = false) (hFits : n.coefficient < Nat.pow 2 64)
    (hExponent : n.exponentValue.natAbs ≤ exponentLimit) :
    n.read = (inRange n.negative (Magnitude.scaled? n.coefficient n.lastPlace)).map .real := by
  rw [read, hNotWhole]
  simp only [Bool.false_and, Bool.false_eq_true, if_false]
  rw [readReal_eq hFits hExponent, scaledNumber, coefficient, lastPlace]

end Numeral

end Gamebook
