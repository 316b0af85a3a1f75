import Gamebook.Number.Layout
import Gamebook.Proofs.ShortestDigits

/-!
# Gamebook — numbers that are written and read back

In JSON a number is written with the digits that are found for it, in one of four
shapes: below one, with a point among the digits, as an integer with zeros and
`.0` behind it, or with an exponent. Each is a numeral of JSON, and the digits
that are read from it are those that are written. They are not always read to the
nearest number, though, so a number may come back as another one. An integer has
one more digit to read than to write, the zero behind its point.

* `Numeral.Spells`, `exists_numeral` — the numeral of some digits, in every shape.
* `Numeral.exists_read_of_spells` — it is read as a number, and as the same one if
  its digits and its power of ten are magnitudes.
* `Numeral.keptLimit`, `Numeral.fits_of_spells` — the integers for which they are.
* `Number.exists_written` — a finite number in JSON and what is read from it.
-/

namespace Gamebook

open Text

-- ---------------------------------------------------------------------------
-- The numeral of significant digits
-- ---------------------------------------------------------------------------

open Numeral

variable {s : Significant} {d : Fin 10} {ds : List (Fin 10)}

/-- The numeral spells the digits, as they are or with zeros behind them. -/
structure Numeral.Spells (n : Numeral) (ds : List (Fin 10)) (exponent : Int) : Prop where
  notWhole : n.isWhole = false
  bounded : n.exponentValue.natAbs ≤ exponent.natAbs
  digits : ∃ zeros : Nat, n.coefficient = digitsValue ds * 10 ^ zeros ∧
    n.lastPlace = exponent + 1 - ds.length - zeros ∧
    (zeros ≠ 0 → n.lastPlace = -1 ∧ exponent ≤ 15)

theorem noLeadingZero_of_ne {d : Fin 10} (hFirst : d.val ≠ 0) : NoLeadingZero (d :: ds) :=
  noLeadingZero_cons_iff.mpr fun hZero => absurd hZero hFirst

/-- Below one, zeros stand between the point and the digits. -/
theorem exists_numeral_below (negative : Bool) (hDigits : s.digits = digitChars ds)
    (hSome : ds ≠ []) (hBelow : s.exponent < 0) : ∃ n : Numeral,
      n.WrittenAs ((if negative then ['-'] else []) ++ Layout.json.positional s) ∧
      n.negative = negative ∧ n.Spells ds s.exponent := by
  refine ⟨⟨negative, [0], some (List.replicate ((-s.exponent).toNat - 1) 0 ++ ds), none⟩,
    ⟨noLeadingZero_cons_iff.mpr fun _ => rfl, _, _, .some ?_, .none, ?_⟩, rfl, rfl, ?_, 0,
    ?_, ?_, ?_⟩
  · exact List.append_ne_nil_of_right_ne_nil _ hSome
  · rw [Layout.positional, if_pos hBelow, digitChars_append, digitChars_zeros, hDigits,
      List.append_nil, List.append_assoc]
    rfl
  · exact Nat.zero_le _
  · rw [coefficient, Nat.pow_zero, Nat.mul_one]
    exact digitsValue_zeros_append (_ + 1) ds
  · rw [lastPlace, fractionDigits, Option.getD_some, List.length_append, List.length_replicate]
    simp only [exponentValue]
    omega
  · intro hZero
    exact absurd rfl hZero

/-- An integer has zeros between the digits and the point, and one behind it. -/
theorem exists_numeral_integer (negative : Bool) (hDigits : s.digits = digitChars (d :: ds))
    (hFirst : d.val ≠ 0) (hHigh : s.exponent ≤ 15) (hLength : ds.length ≤ s.exponent) :
    ∃ n : Numeral,
      n.WrittenAs ((if negative then ['-'] else []) ++ Layout.json.positional s) ∧
      n.negative = negative ∧ n.Spells (d :: ds) s.exponent := by
  obtain ⟨e, hExponent⟩ := Int.eq_ofNat_of_zero_le (a := s.exponent) (by omega)
  have hZeros : e + 1 - (d :: ds).length = e - ds.length := Nat.add_sub_add_right _ _ _
  have hInteger : s.digits.length ≤ s.exponent.toNat + 1 := by
    rw [hDigits, digitChars, List.length_map, List.length_cons]
    omega
  refine ⟨⟨negative, d :: ds ++ List.replicate (e - ds.length) 0, some [0], none⟩,
    ⟨noLeadingZero_of_ne hFirst, _, _, .some (List.cons_ne_nil _ _), .none, ?_⟩, rfl, rfl, ?_,
    e - ds.length + 1, ?_, ?_, ?_⟩
  · have hNat : ¬s.exponent < 0 := by omega
    have hPoint : Layout.json.pointZero = true := rfl
    rw [Layout.positional, if_neg hNat, if_pos hInteger, if_pos hPoint, digitChars_append,
      digitChars_zeros, hDigits, hExponent, Int.toNat_natCast, digitChars, List.length_map, hZeros,
      List.append_nil]
    rfl
  · exact Nat.zero_le _
  · rw [coefficient, fractionDigits, Option.getD_some, List.append_assoc,
      ← digitsValue_append_zeros, List.replicate_succ']
  · rw [lastPlace, fractionDigits, Option.getD_some, List.length_singleton, List.length_cons]
    simp only [exponentValue]
    omega
  · intro _
    rw [lastPlace, fractionDigits, Option.getD_some, List.length_singleton]
    exact ⟨rfl, hHigh⟩

/-- Where the digits go on behind the last whole place, the point stands between them. -/
theorem exists_numeral_fraction (negative : Bool) (hDigits : s.digits = digitChars (d :: ds))
    (hFirst : d.val ≠ 0) (hLow : 0 ≤ s.exponent) (hLength : s.exponent < ds.length) :
    ∃ n : Numeral,
      n.WrittenAs ((if negative then ['-'] else []) ++ Layout.json.positional s) ∧
      n.negative = negative ∧ n.Spells (d :: ds) s.exponent := by
  obtain ⟨e, hExponent⟩ := Int.eq_ofNat_of_zero_le (a := s.exponent) hLow
  have hBehind : ds.drop e ≠ [] := by
    rw [ne_eq, List.drop_eq_nil_iff]
    omega
  refine ⟨⟨negative, d :: ds.take e, some (ds.drop e), none⟩,
    ⟨noLeadingZero_of_ne hFirst, _, _, .some hBehind, .none, ?_⟩, rfl, rfl, ?_, 0, ?_, ?_, ?_⟩
  · have hNat : ¬s.exponent < 0 := by omega
    have hLonger : ¬s.digits.length ≤ s.exponent.toNat + 1 := by
      rw [hDigits, digitChars, List.length_map, List.length_cons]
      omega
    rw [Layout.positional, if_neg hNat, if_neg hLonger, hDigits, hExponent, Int.toNat_natCast,
      digitChars, ← List.map_take, ← List.map_drop, List.append_nil]
    rfl
  · exact Nat.zero_le _
  · rw [coefficient, fractionDigits, Option.getD_some, List.cons_append, List.take_append_drop,
      Nat.pow_zero, Nat.mul_one]
  · rw [lastPlace, fractionDigits, Option.getD_some, List.length_drop, List.length_cons]
    simp only [exponentValue]
    omega
  · intro hZero
    exact absurd rfl hZero

/-- With an exponent, one digit stands in front of the point. -/
theorem exists_numeral_scientific (negative : Bool) (hDigits : s.digits = digitChars (d :: ds))
    (hFirst : d.val ≠ 0) : ∃ n : Numeral,
      n.WrittenAs ((if negative then ['-'] else []) ++ Layout.scientific s) ∧
      n.negative = negative ∧ n.Spells (d :: ds) s.exponent := by
  obtain ⟨fraction, text, hFraction, hText, hRest⟩ :
      ∃ (fraction : Option (List (Fin 10))) (text : List Char), FractionAs fraction text ∧
        (if s.digits.length ≤ 1 then [] else '.' :: s.digits.drop 1) = text ∧
        fraction.getD [] = ds := by
    rw [hDigits]
    cases ds with
    | nil => exact ⟨none, [], .none, rfl, rfl⟩
    | cons d' ds => exact ⟨some (d' :: ds), _, .some (List.cons_ne_nil _ _), rfl, rfl⟩
  obtain ⟨sign, hSign, hMark⟩ : ∃ sign, SignAs (decide (s.exponent < 0)) sign ∧
      [if s.exponent < 0 then '-' else '+'] = sign := by
    by_cases hBelow : s.exponent < 0
    · rw [decide_eq_true hBelow, if_pos hBelow]
      exact ⟨['-'], .minus, rfl⟩
    · rw [decide_eq_false hBelow, if_neg hBelow]
      exact ⟨['+'], .plus, rfl⟩
  have hSome : (digits (decimal s.exponent.natAbs)).1 ≠ [] := by
    intro hNone
    have hText := digitChars_decimal s.exponent.natAbs
    rw [hNone] at hText
    exact absurd hText.symm (List.ne_nil_of_length_pos Nat.length_toDigits_pos)
  have hValue : exponentValue ⟨negative, [d], fraction, some (decide (s.exponent < 0),
      (digits (decimal s.exponent.natAbs)).1)⟩ = s.exponent := by
    simp only [exponentValue, digitsValue_decimal, decide_eq_true_eq]
    split
    · omega
    · omega
  refine ⟨⟨negative, [d], fraction, some (decide (s.exponent < 0),
      (digits (decimal s.exponent.natAbs)).1)⟩,
    ⟨noLeadingZero_of_ne hFirst, _, _, hFraction, .some (Or.inl rfl) hSign hSome, ?_⟩, rfl, ?_, ?_,
    0, ?_, ?_, ?_⟩
  · rw [Layout.scientific, hText, hDigits, digitChars_decimal, ← hMark, List.append_assoc]
    rfl
  · exact Bool.and_false _
  · exact Nat.le_of_eq (congrArg Int.natAbs hValue)
  · rw [coefficient, fractionDigits, hRest, Nat.pow_zero, Nat.mul_one]
    rfl
  · rw [lastPlace, hValue, fractionDigits, hRest, List.length_cons]
    omega
  · intro hZero
    exact absurd rfl hZero

/-- Significant digits in JSON are a numeral that spells them. -/
theorem exists_numeral (negative : Bool) (hDigits : s.digits = digitChars (d :: ds))
    (hFirst : d.val ≠ 0) : ∃ n : Numeral,
      n.WrittenAs ((if negative then ['-'] else []) ++ Layout.json.significant s) ∧
      n.negative = negative ∧ n.Spells (d :: ds) s.exponent := by
  have hLowest : Layout.json.lowest = -5 := rfl
  have hHighest : Layout.json.highest = 15 := rfl
  rw [Layout.significant, hLowest, hHighest]
  by_cases hRange : (decide (-5 ≤ s.exponent) && decide (s.exponent ≤ 15)) = true
  · rw [if_pos hRange]
    rw [Bool.and_eq_true, decide_eq_true_eq, decide_eq_true_eq] at hRange
    rcases Int.lt_or_le s.exponent 0 with hBelow | hAbove
    · exact exists_numeral_below negative hDigits (List.cons_ne_nil _ _) hBelow
    · rcases Int.lt_or_le s.exponent ds.length with hFraction | hInteger
      · exact exists_numeral_fraction negative hDigits hFirst hAbove hFraction
      · exact exists_numeral_integer negative hDigits hFirst hRange.2 hInteger
  · rw [if_neg hRange]
    exact exists_numeral_scientific negative hDigits hFirst

-- ---------------------------------------------------------------------------
-- Reading back
-- ---------------------------------------------------------------------------

namespace Numeral

variable {n : Numeral} {m : Magnitude}

/-- A numeral that spells the digits of a magnitude is read as a magnitude of the same sign, and
as the same magnitude if it fits. -/
theorem exists_read_of_spells {d : Fin 10} {ds : List (Fin 10)} (hUnits : m.units ≠ 0)
    (hDigits : m.Digits d ds) (hSpells : n.Spells (d :: ds) (m.shortest .even).exponent) : ∃ m',
      n.read = .ok (.real (.finite n.negative m')) ∧ (n.Fits → m' = m) := by
  obtain ⟨zeros, hCoefficient, hPlace, hZeros⟩ := hSpells.digits
  have hNearest := hDigits.nearest
  have hRange := Nat.le_trans hSpells.bounded (hDigits.range hUnits)
  have hNotLargest := hDigits.notLargest hUnits
  generalize (m.shortest .even).exponent = exponent at *
  have hShift : n.lastPlace + zeros = exponent - ds.length := by
    rw [hPlace, List.length_cons]
    omega
  rw [← hShift, ← Magnitude.ofDecimal?_zeros, ← hCoefficient] at hNearest
  have hPos : 0 < n.coefficient := by
    rw [hCoefficient]
    exact Nat.mul_pos (digitsValue_pos hDigits.first) (Nat.pow_pos (by decide))
  have hFew : n.coefficient ≤ 10 ^ 17 ∧
      (n.coefficient = 17976931348623158 → n.lastPlace ≠ 292) := by
    by_cases hNone : zeros = 0
    · subst hNone
      rw [Nat.pow_zero, Nat.mul_one] at hCoefficient
      rw [hCoefficient]
      refine ⟨hDigits.few hUnits, fun hLargest => ?_⟩
      have hNot := hNotLargest hLargest
      omega
    · -- An integer of at most 16 digits, with the zero behind the point.
      obtain ⟨hLast, hHigh⟩ := hZeros hNone
      have hBelow := Nat.mul_lt_mul_of_pos_right (digitsValue_lt (d :: ds))
        (Nat.pow_pos (n := zeros) (by decide : 0 < 10))
      rw [← hCoefficient, ← Nat.pow_add] at hBelow
      have hLength : 10 ^ ((d :: ds).length + zeros) ≤ 10 ^ 17 :=
        Nat.pow_le_pow_right (by decide) (by omega)
      refine ⟨Nat.le_trans (Nat.le_of_lt hBelow) hLength, fun _ => ?_⟩
      omega
  have hSixtyFour : n.coefficient < Nat.pow 2 64 := Nat.lt_of_le_of_lt hFew.1 (by decide)
  obtain ⟨m', hScaled⟩ := Option.isSome_iff_exists.mp
    (Magnitude.isSome_scaled? hPos hFew.1 hNearest hFew.2)
  rw [read_eq hSpells.notWhole hSixtyFour (Nat.le_trans hRange (by decide)), hScaled]
  refine ⟨m', rfl, fun hFits => ?_⟩
  have hExact := Magnitude.scaled?_of_fewBits hFits.1 hSixtyFour hFits.2 hNearest
  exact Option.some.inj (hScaled.symm.trans hExact)

/-- The largest integer up to which all integers are read back, with the zero behind their point.
Five times the next one has more than 53 bits. -/
def keptLimit : Nat := 1801439850948198

/-- The numeral of an integer fits up to that limit. -/
theorem fits_of_spells {d : Fin 10} {ds : List (Fin 10)} {i : Nat} (hDigits : m.Digits d ds)
    (hSpells : n.Spells (d :: ds) (m.shortest .even).exponent) (hUnits : m.units = i * unitsPerOne)
    (hPos : 0 < i) (hRange : i ≤ keptLimit) : n.Fits := by
  have hLimit : keptLimit = 1801439850948198 := rfl
  have hExact : Magnitude.exactLimit = 9007199254740992 := rfl
  have hBits : Nat.pow 2 53 = 9007199254740992 := rfl
  obtain ⟨e, hPlaces, hValue⟩ := hDigits.whole hUnits hPos (by omega)
  obtain ⟨zeros, hCoefficient, hPlace, hZeros⟩ := hSpells.digits
  generalize (m.shortest .even).exponent = exponent at *
  rw [List.length_cons] at hPlace
  by_cases hNone : zeros = 0
  · subst hNone
    rw [Nat.pow_zero, Nat.mul_one] at hCoefficient
    have hTen : 0 < 10 ^ e := Nat.pow_pos (by decide)
    have hDigitsLe := Nat.le_mul_of_pos_right (digitsValue (d :: ds)) hTen
    have hNumber : 0 < digitsValue (d :: ds) := digitsValue_pos hDigits.first
    have hPowerLe := Nat.le_mul_of_pos_left (10 ^ e) hNumber
    have hFew : e < 16 := (Nat.pow_lt_pow_iff_right (a := 10) (by decide)).mp (by omega)
    refine ⟨⟨n.coefficient, 0, ?_, (Nat.mul_one _).symm⟩, ?_⟩
    · omega
    · omega
  · obtain ⟨hLast, -⟩ := hZeros hNone
    obtain rfl : zeros = e + 1 := by omega
    rw [Nat.pow_succ, ← Nat.mul_assoc, hValue] at hCoefficient
    refine ⟨⟨5 * i, 1, ?_, ?_⟩, ?_⟩
    · omega
    · rw [hCoefficient, Nat.pow_eq]
      omega
    · rw [hLast]
      decide

end Numeral

/-- A finite number in JSON is a numeral. It is read as a finite number of the same sign, and as
the same number if its digits and their power of ten are magnitudes. Those of integers are, up to a
limit. -/
theorem Number.exists_written (negative : Bool) (m : Magnitude) : ∃ (n : Numeral) (m' : Magnitude),
    n.WrittenAs ((Number.finite negative m).write .json) ∧
    n.read = .ok (.real (.finite negative m')) ∧ (n.Fits → m' = m) ∧
    (∀ i ≤ keptLimit, m.units = i * unitsPerOne → m' = m) := by
  by_cases hZero : m.units = 0
  · have hSame : Magnitude.zero = m := (Magnitude.ext hZero).symm
    refine ⟨⟨negative, [0], some [0], none⟩, .zero,
      ⟨noLeadingZero_cons_iff.mpr fun _ => rfl, _, _, .some (List.cons_ne_nil _ _), .none, ?_⟩, ?_,
      fun _ => hSame, fun _ _ _ => hSame⟩
    · have hSigned : Layout.json.signedZero = true := rfl
      have hPoint : Layout.json.pointZero = true := rfl
      rw [write, if_pos hZero, hSigned, Bool.and_true, if_pos hPoint]
      rfl
    · have hScaled : Magnitude.scaled? 0 (-1) = some .zero := by decide +kernel
      have hRead : Numeral.read ⟨negative, [0], some [0], none⟩ =
          (inRange negative (Magnitude.scaled? 0 (-1))).map .real :=
        read_eq rfl (natPow_two_pos 64) (Nat.zero_le _)
      rw [hRead, hScaled]
      rfl
  · obtain ⟨d, ds, hDigits⟩ := Magnitude.exists_digits hZero
    obtain ⟨n, hWritten, rfl, hSpells⟩ := exists_numeral negative hDigits.text hDigits.first
    obtain ⟨m', hRead, hSame⟩ := exists_read_of_spells hZero hDigits hSpells
    refine ⟨n, m', ?_, hRead, hSame, fun i hRange hUnits => hSame ?_⟩
    · rw [write, if_neg hZero]
      exact hWritten
    · refine fits_of_spells hDigits hSpells hUnits (Nat.pos_of_ne_zero ?_) hRange
      rintro rfl
      exact hZero (hUnits.trans (Nat.zero_mul _))

end Gamebook
