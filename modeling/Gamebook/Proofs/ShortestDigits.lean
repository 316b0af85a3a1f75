import Gamebook.Number.Shortest
import Gamebook.Proofs.Scaling

/-!
# Gamebook — the digits of a magnitude

The digits that a magnitude is written with are searched for: at one place after
the other, from the first digit on, the two decimals that enclose the magnitude
are tested for whether they read back. The test compares distances, in quarters
of the distance to the next magnitude. A decimal that passes is rounded to the
magnitude, and with 17 digits one of the two passes, because such decimals are
closer to each other than magnitudes are. An integer passes as it is, so its
digits end in front of the point.

* `ofDecimal?_of_readsBack` — what reads back is rounded to the magnitude.
* `ratioTo_bounds`, `readsBack_of_seventeen` — how many digits there are at a place,
  and that 17 are enough.
* `FoundAt`, `exists_foundAt` — the decimal that is found.
* `Digits`, `exists_digits` — its digits without the zeros at their end.
* `Digits.nearest`, `Digits.few`, `Digits.notLargest` — the magnitude is nearest to
  them, there are at most 17, and they are not those above the largest magnitude.
* `Digits.whole` — those of an integer.
-/

namespace Gamebook

open Text

namespace Magnitude

variable {m : Magnitude} {place : Int} {c : Nat} {tie : Tie}

-- ---------------------------------------------------------------------------
-- Decimals that read back
-- ---------------------------------------------------------------------------

/-- A decimal in units, as numerator and denominator. -/
def unitsOf (c : Nat) (place : Int) : Nat × Nat :=
  (c * 10 ^ place.toNat * unitsPerOne, 10 ^ (-place).toNat)

theorem ratioTo_eq (m : Magnitude) (place : Int) :
    m.ratioTo place = (m.units * 10 ^ (-place).toNat, unitsPerOne * 10 ^ place.toNat) := by
  cases place with
  | ofNat p =>
    have hNeg : (-Int.ofNat p).toNat = 0 := by
      rw [Int.ofNat_eq_natCast]
      omega
    rw [hNeg, Nat.pow_zero, Nat.mul_one]
    rfl
  | negSucc p =>
    rw [Int.toNat_negSucc, Nat.pow_zero, Nat.mul_one]
    rfl

theorem ratioTo_pos (m : Magnitude) (place : Int) : 0 < (m.ratioTo place).2 := by
  rw [ratioTo_eq]
  exact Nat.mul_pos unitsPerOne_pos (Nat.pow_pos (by decide))

theorem unitTo_eq (place : Int) : unitTo place = 10 ^ (-place).toNat := by
  cases place with
  | ofNat p =>
    have hNeg : (-Int.ofNat p).toNat = 0 := by
      rw [Int.ofNat_eq_natCast]
      omega
    rw [hNeg, Nat.pow_zero]
    rfl
  | negSucc p => rfl

theorem readsBack_eq (m : Magnitude) (place : Int) (c : Nat) :
    m.readsBack place c =
      (let value := 4 * (m.units * (unitsOf c place).2)
      let tried := 4 * (unitsOf c place).1
      let quarter := (unitsOf c place).2 * 2 ^ spare m.units
      if tried ≤ value then
        decide (value - tried < (if m.lowerIsNear then quarter else 2 * quarter)) ||
          (m.significand % 2 == 0 &&
            value - tried == (if m.lowerIsNear then quarter else 2 * quarter))
      else
        decide (tried - value < 2 * quarter) ||
          (m.significand % 2 == 0 && tried - value == 2 * quarter)) := by
  have hTried : ∀ one, 4 * c * (one * 10 ^ place.toNat) = 4 * (c * 10 ^ place.toNat * one) := by
    intro one
    rw [Nat.mul_assoc, Nat.mul_assoc, Nat.mul_comm one]
  rw [readsBack, ratioTo_eq, unitTo_eq, unitsOf]
  generalize unitsPerOne = one
  simp only [hTried, Nat.pow_eq]

/-- A decimal that reads back is near the magnitude. -/
theorem near_of_readsBack (hReads : m.readsBack place c = true) :
    m.Near (unitsOf c place).1 (unitsOf c place).2 := by
  rw [readsBack_eq] at hReads
  constructor
  · intro hBelow
    have hTried : 4 * (unitsOf c place).1 ≤ 4 * (m.units * (unitsOf c place).2) := by omega
    simp only [if_pos hTried, Bool.or_eq_true, Bool.and_eq_true, decide_eq_true_eq,
      beq_iff_eq] at hReads
    omega
  · intro hAbove
    have hTried : ¬4 * (unitsOf c place).1 ≤ 4 * (m.units * (unitsOf c place).2) := by omega
    simp only [if_neg hTried, Bool.or_eq_true, Bool.and_eq_true, decide_eq_true_eq,
      beq_iff_eq] at hReads
    omega

theorem unitsOf_pos (c : Nat) (place : Int) : 0 < (unitsOf c place).2 := Nat.pow_pos (by decide)

/-- A decimal that reads back is rounded to the magnitude. -/
theorem ofDecimal?_of_readsBack (hReads : m.readsBack place c = true) :
    ofDecimal? c place = some m := by
  have hNear := ofUnits?_of_near (unitsOf_pos c place) (near_of_readsBack hReads)
  rw [unitsOf] at hNear
  rw [ofDecimal?, ofRatio?, hNear]

/-- The decimal that is found reads back, and is one of the two that enclose the magnitude. -/
theorem readsBack_of_candidate? (hFound : m.candidate? tie place = some c) :
    m.readsBack place c = true ∧ (c = (m.ratioTo place).1 / (m.ratioTo place).2 ∨
      c = (m.ratioTo place).1 / (m.ratioTo place).2 + 1) := by
  unfold candidate? at hFound
  simp only at hFound
  split at hFound
  · cases hFound
  · cases hFound
    exact ⟨by assumption, Or.inl rfl⟩
  · cases hFound
    exact ⟨by assumption, Or.inr rfl⟩
  · rename_i hLow hHigh
    split at hFound
    · cases hFound
      exact ⟨hLow, Or.inl rfl⟩
    · split at hFound
      · cases hFound
        exact ⟨hHigh, Or.inr rfl⟩
      · split at hFound
        · cases hFound
          exact ⟨hHigh, Or.inr rfl⟩
        · cases hFound
          rcases Nat.mod_two_eq_zero_or_one ((m.ratioTo place).1 / (m.ratioTo place).2) with
            hEven | hOdd
          · rw [hEven]
            exact ⟨hLow, Or.inl rfl⟩
          · rw [hOdd]
            exact ⟨hHigh, Or.inr rfl⟩

/-- If one of the two enclosing decimals reads back, one is found. -/
theorem isSome_candidate? (tie : Tie)
    (hReads : m.readsBack place ((m.ratioTo place).1 / (m.ratioTo place).2) = true ∨
      m.readsBack place ((m.ratioTo place).1 / (m.ratioTo place).2 + 1) = true) :
    (m.candidate? tie place).isSome = true := by
  unfold candidate?
  simp only
  split
  · rename_i hLow hHigh
    rw [hLow, hHigh] at hReads
    simp at hReads
  · rfl
  · rfl
  · split
    · rfl
    · split
      · rfl
      · split <;> rfl

-- ---------------------------------------------------------------------------
-- Powers of ten
-- ---------------------------------------------------------------------------

/-- The power of ten of the first digit: the magnitude lies between it and the next one. The places
that are counted behind the point are `more`, so that no power of them is ever computed. -/
theorem decimalExponent_bounds (hUnits : m.units ≠ 0) : ∃ length more : Nat, 0 < length ∧
    more = 400 ∧ m.decimalExponent = (length : Int) - (more + 1) ∧
    unitsPerOne * 10 ^ (length - 1) ≤ m.units * 10 ^ more ∧
    m.units * 10 ^ more < unitsPerOne * 10 ^ length := by
  have hOne := unitsPerOne_pos
  have hScale : unitsPerOne ≤ Nat.pow 10 400 := by decide +kernel
  rw [decimalExponent]
  generalize hMore : 400 = more at hScale ⊢
  simp only [Nat.pow_eq] at hScale ⊢
  have hPos : 0 < m.units * 10 ^ more / unitsPerOne := Nat.div_pos
    (Nat.le_trans hScale (Nat.le_mul_of_pos_left _ (Nat.pos_of_ne_zero hUnits))) hOne
  refine ⟨decimalLength (m.units * 10 ^ more / unitsPerOne), more, Nat.length_toDigits_pos,
    rfl, ?_, ?_, ?_⟩
  · omega
  · rw [Nat.mul_comm unitsPerOne]
    exact (Nat.le_div_iff_mul_le hOne).mp (pow_decimalLength_le hPos)
  · rw [Nat.mul_comm unitsPerOne]
    exact (Nat.div_lt_iff_lt_mul hOne).mp (lt_pow_decimalLength _)

/-- At a place so many digits behind the first one, the decimals that enclose the magnitude have
that many digits. -/
theorem ratioTo_bounds (hUnits : m.units ≠ 0) (j : Nat) :
    10 ^ j * (m.ratioTo (m.decimalExponent - j)).2 ≤ (m.ratioTo (m.decimalExponent - j)).1 ∧
    (m.ratioTo (m.decimalExponent - j)).1 <
      10 ^ (j + 1) * (m.ratioTo (m.decimalExponent - j)).2 := by
  obtain ⟨length, more, hPos, -, hExponent, hLow, hHigh⟩ := decimalExponent_bounds hUnits
  rw [ratioTo_eq]
  simp only
  generalize unitsPerOne = one at *
  generalize hUp : (m.decimalExponent - j).toNat = up
  generalize hDown : (-(m.decimalExponent - j)).toNat = down
  -- With more places both sides are the powers of ten around the magnitude.
  have hFactor : 0 < 10 ^ more := Nat.pow_pos (by decide)
  have hGrid : ∀ i, 10 ^ i * (one * 10 ^ up) * 10 ^ more = one * 10 ^ (i + up + more) := by
    intro i
    rw [Nat.pow_add, Nat.pow_add]
    ac_rfl
  have hSize : m.units * 10 ^ down * 10 ^ more = m.units * 10 ^ more * 10 ^ down :=
    Nat.mul_right_comm _ _ _
  constructor
  · refine Nat.le_of_mul_le_mul_right ?_ hFactor
    rw [hGrid, hSize, show j + up + more = length - 1 + down by omega, Nat.pow_add,
      ← Nat.mul_assoc]
    exact Nat.mul_le_mul_right _ hLow
  · refine Nat.lt_of_mul_lt_mul_right (a := 10 ^ more) ?_
    rw [hGrid, hSize, show j + 1 + up + more = length + down by omega, Nat.pow_add,
      ← Nat.mul_assoc]
    exact Nat.mul_lt_mul_of_pos_right hHigh (Nat.pow_pos (by decide))

-- ---------------------------------------------------------------------------
-- Seventeen digits
-- ---------------------------------------------------------------------------

theorem unitsOf_eq (m : Magnitude) (c : Nat) (place : Int) :
    (unitsOf c place).1 = c * (m.ratioTo place).2 ∧
      m.units * (unitsOf c place).2 = (m.ratioTo place).1 := by
  rw [ratioTo_eq, unitsOf]
  refine ⟨?_, rfl⟩
  generalize unitsPerOne = one
  rw [Nat.mul_assoc, Nat.mul_comm _ one]

theorem readsBack_of_below (hBelow : c * (m.ratioTo place).2 ≤ (m.ratioTo place).1)
    (hLess : 4 * (m.ratioTo place).1 < 4 * (c * (m.ratioTo place).2) +
      (if m.lowerIsNear then (unitsOf c place).2 * 2 ^ spare m.units
        else 2 * ((unitsOf c place).2 * 2 ^ spare m.units))) :
    m.readsBack place c = true := by
  rw [readsBack_eq, (unitsOf_eq m c place).1, (unitsOf_eq m c place).2]
  have hTried : 4 * (c * (m.ratioTo place).2) ≤ 4 * (m.ratioTo place).1 := by omega
  simp only [if_pos hTried, Bool.or_eq_true, decide_eq_true_eq]
  exact Or.inl (by omega)

theorem readsBack_of_above (hAbove : (m.ratioTo place).1 < c * (m.ratioTo place).2)
    (hLess : 4 * (c * (m.ratioTo place).2) < 4 * (m.ratioTo place).1 +
      2 * ((unitsOf c place).2 * 2 ^ spare m.units)) : m.readsBack place c = true := by
  rw [readsBack_eq, (unitsOf_eq m c place).1, (unitsOf_eq m c place).2]
  have hTried : ¬4 * (c * (m.ratioTo place).2) ≤ 4 * (m.ratioTo place).1 := by omega
  simp only [if_neg hTried, Bool.or_eq_true, decide_eq_true_eq]
  exact Or.inl (by omega)

/-- With 17 digits, decimals are closer to each other than magnitudes are. -/
theorem readsBack_of_seventeen (hDigits : 10 ^ 16 * (m.ratioTo place).2 ≤ (m.ratioTo place).1)
    (hDen : 0 < (m.ratioTo place).2) :
    m.readsBack place ((m.ratioTo place).1 / (m.ratioTo place).2) = true ∨
      m.readsBack place ((m.ratioTo place).1 / (m.ratioTo place).2 + 1) = true := by
  have hSplit := Nat.div_add_mod (m.ratioTo place).1 (m.ratioTo place).2
  have hRest := Nat.mod_lt (m.ratioTo place).1 hDen
  have hValue := (unitsOf_eq m 0 place).2
  have hGrid : (m.ratioTo place).1 = m.significand * ((unitsOf 0 place).2 * 2 ^ spare m.units) := by
    rw [← hValue]
    exact m.units_mul_eq _
  have hLargest := Nat.mul_le_mul_right ((unitsOf 0 place).2 * 2 ^ spare m.units) m.significand_lt
  rw [Nat.succ_mul, ← hGrid] at hLargest
  have hPower : m.lowerIsNear = true →
      (m.ratioTo place).1 = 2 ^ 52 * ((unitsOf 0 place).2 * 2 ^ spare m.units) := by
    intro hLower
    rw [← (lowerIsNear_iff.mp hLower).1]
    exact hGrid
  rw [Nat.mul_comm] at hSplit
  -- The nearer of the two is at most half of their distance away.
  by_cases hNearer : 2 * ((m.ratioTo place).1 % (m.ratioTo place).2) ≤ (m.ratioTo place).2
  · refine Or.inl (readsBack_of_below (by omega) ?_)
    have hSame : ∀ c, (unitsOf c place).2 = (unitsOf 0 place).2 := fun _ => rfl
    rw [hSame]
    split
    · rename_i hLower
      have := hPower hLower
      omega
    · omega
  · refine Or.inr (readsBack_of_above ?_ ?_)
    · rw [Nat.add_mul, Nat.one_mul]
      omega
    · have hSame : ∀ c, (unitsOf c place).2 = (unitsOf 0 place).2 := fun _ => rfl
      rw [hSame, Nat.add_mul, Nat.one_mul]
      omega

/-- The first of some numbers for which there is something. -/
theorem exists_of_findSome?_range {β : Type} {f : Nat → Option β} {n : Nat} {b : β}
    (hFound : (List.range n).findSome? f = some b) :
    ∃ i, i < n ∧ f i = some b ∧ ∀ j, j < i → f j = none := by
  induction n with
  | zero => cases hFound
  | succ n ih =>
    rw [List.range_succ, List.findSome?_append, Option.or_eq_some_iff] at hFound
    rcases hFound with hBefore | ⟨hNone, hLast⟩
    · obtain ⟨i, hLess, hSome⟩ := ih hBefore
      exact ⟨i, Nat.lt_succ_of_lt hLess, hSome⟩
    · rw [List.findSome?_singleton] at hLast
      refine ⟨n, Nat.lt_succ_self n, hLast, fun j hLess => ?_⟩
      exact List.findSome?_eq_none_iff.mp hNone j (List.mem_range.mpr hLess)

theorem shortest_eq (m : Magnitude) (tie : Tie) : m.shortest tie =
    ((List.range 17).findSome? fun (n : Nat) => (m.candidate? tie (m.decimalExponent - n)).map
      (significant · (m.decimalExponent - n))).getD ⟨['0'], 0⟩ := by
  delta shortest
  simp only
  rw [List.findSome?_map]
  rfl

/-- The decimal whose digits are written: it is found so many places behind the first digit, and
none is found further in front. -/
structure FoundAt (m : Magnitude) (tie : Tie) (c j : Nat) : Prop where
  few : j ≤ 16
  found : m.candidate? tie (m.decimalExponent - j) = some c
  before : ∀ i : Nat, i < j → m.candidate? tie (m.decimalExponent - i) = none
  digits : m.shortest tie = significant c (m.decimalExponent - j)

/-- A decimal is found with 17 digits at the latest. -/
theorem exists_foundAt (hUnits : m.units ≠ 0) (tie : Tie) : ∃ c j, m.FoundAt tie c j := by
  have hLast := isSome_candidate? tie
    (readsBack_of_seventeen (ratioTo_bounds hUnits 16).1 (ratioTo_pos m _))
  generalize hSearch : ((List.range 17).findSome? fun (n : Nat) =>
    (m.candidate? tie (m.decimalExponent - n)).map
      (significant · (m.decimalExponent - n))) = found
  cases found with
  | none =>
    have hNone := List.findSome?_eq_none_iff.mp hSearch 16 (List.mem_range.mpr (by decide))
    rw [Option.map_eq_none_iff] at hNone
    rw [hNone] at hLast
    cases hLast
  | some s =>
    obtain ⟨j, hLess, hSome, hBefore⟩ := exists_of_findSome?_range hSearch
    obtain ⟨c, hFound, hDigits⟩ := Option.map_eq_some_iff.mp hSome
    refine ⟨c, j, Nat.le_of_lt_succ hLess, hFound, fun i hFirst => ?_, ?_⟩
    · exact Option.map_eq_none_iff.mp (hBefore i hFirst)
    · rw [shortest_eq, hSearch]
      exact hDigits.symm

-- ---------------------------------------------------------------------------
-- Digits without zeros at the end
-- ---------------------------------------------------------------------------

theorem dropZeros_append (cs : List Char) :
    ∃ zeros, cs = dropZeros cs ++ List.replicate zeros '0' := by
  have hSplit := List.takeWhile_append_dropWhile (p := (· == '0')) (l := cs.reverse)
  have hZeros : cs.reverse.takeWhile (· == '0') =
      List.replicate (cs.reverse.takeWhile (· == '0')).length '0' :=
    List.eq_replicate_iff.mpr ⟨rfl, fun c hMem =>
      beq_iff_eq.mp (List.all_eq_true.mp List.all_takeWhile c hMem)⟩
  refine ⟨(cs.reverse.takeWhile (· == '0')).length, ?_⟩
  rw [dropZeros, ← List.reverse_reverse (List.replicate _ _), List.reverse_replicate, ← hZeros,
    ← List.reverse_append, hSplit, List.reverse_reverse]

/-- The digits of a decimal that are written, with the zeros that are not. -/
theorem exists_significant (hPos : 0 < c) (place : Int) :
    ∃ (d : Fin 10) (ds : List (Fin 10)) (zeros : Nat), d.val ≠ 0 ∧
      (significant c place).digits = digitChars (d :: ds) ∧
      digitsValue (d :: ds) * 10 ^ zeros = c ∧
      (significant c place).exponent - ds.length = place + zeros := by
  obtain ⟨zeros, hSplit⟩ := dropZeros_append (decimal c)
  obtain ⟨d, hFirst, cs, hText⟩ := exists_first_of_decimal hPos
  have hDigits := digitChars_decimal c
  rw [hSplit, digitChars, List.map_eq_append_iff] at hDigits
  obtain ⟨kept, dropped, hAll, hKept, hDropped⟩ := hDigits
  have hValue : digitsValue kept * 10 ^ zeros = c := by
    have hNumber : Nat.ofDigitChars 10 (decimal c) 0 = c := Nat.ofDigitChars_ten_toDigits
    rw [hSplit, ← hKept, Nat.ofDigitChars_append, Nat.ofDigitChars_replicate_zero] at hNumber
    rw [digitsValue_eq, Nat.mul_comm]
    exact hNumber
  cases kept with
  | nil =>
    -- Nothing but zeros would be the number zero.
    have hZero : digitsValue [] = 0 := rfl
    rw [hZero, Nat.zero_mul] at hValue
    omega
  | cons d' ds =>
    have hSame : d' = d := by
      have hHead : Nat.digitChar d'.val = Nat.digitChar d.val := by
        rw [hSplit, ← hKept] at hText
        exact (List.cons.inj hText).1
      have hRead := congrArg digit? hHead
      rw [digit?_digitChar, digit?_digitChar] at hRead
      exact Option.some.inj hRead
    have hLength : decimalLength c = ds.length + 1 + zeros := by
      rw [decimalLength, hSplit, ← hKept, List.length_append, List.length_map, List.length_cons,
        List.length_replicate]
    refine ⟨d', ds, zeros, hSame ▸ hFirst, hKept.symm, hValue, ?_⟩
    rw [significant, hLength]
    simp only
    omega

-- ---------------------------------------------------------------------------
-- The digits of a magnitude
-- ---------------------------------------------------------------------------

/-- The factor 10 ^ 709 is more than the magnitudes and the 400 places behind the point span. -/
theorem ceiling_lt {more most : Nat} (hMore : more = 400) (hMost : most = 709) :
    unitsCeiling * 10 ^ more < unitsPerOne * 10 ^ most := by
  subst hMore hMost
  decide +kernel

/-- A magnitude has at most 309 digits before the point and 400 behind it. -/
theorem decimalExponent_range (hUnits : m.units ≠ 0) :
    -400 ≤ m.decimalExponent ∧ m.decimalExponent ≤ 308 := by
  obtain ⟨length, more, hPos, hMore, hExponent, hLow, -⟩ := decimalExponent_bounds hUnits
  obtain ⟨most, hMost⟩ : ∃ most, most = 709 := ⟨_, rfl⟩
  have hApart := ceiling_lt hMore hMost
  have hLength : length - 1 < most := by
    refine Nat.not_le.mp fun hLong => ?_
    have hGrid : unitsPerOne * 10 ^ most ≤ unitsPerOne * 10 ^ (length - 1) :=
      Nat.mul_le_mul_left _ (Nat.pow_le_pow_right (by decide) hLong)
    have hCeiling : m.units * 10 ^ more ≤ unitsCeiling * 10 ^ more :=
      Nat.mul_le_mul_right _ (Nat.le_of_lt m.bounded)
    exact absurd (Nat.le_trans hGrid (Nat.le_trans hLow hCeiling)) (Nat.not_le.mpr hApart)
  omega

/-- Of the two decimals of 17 digits at the top, the smaller one is nearer to the largest
magnitude. -/
theorem candidate?_largest :
    (ofDecimal? 17976931348623158 292).bind (fun m => m.candidate? .even 292) ≠
      some 17976931348623158 := by decide +kernel

theorem ne_largest {place : Int} {c : Nat} (hFound : m.candidate? .even place = some c)
    (hPlace : place = 292) : c ≠ 17976931348623158 := by
  subst hPlace
  rintro rfl
  have hNearest := ofDecimal?_of_readsBack (readsBack_of_candidate? hFound).1
  exact candidate?_largest (Option.bind_eq_some_iff.mpr ⟨m, hNearest, hFound⟩)

theorem FoundAt.le {c j : Nat} (hFound : m.FoundAt tie c j) (hUnits : m.units ≠ 0) :
    0 < c ∧ c ≤ 10 ^ 17 := by
  obtain ⟨hLow, hHigh⟩ := ratioTo_bounds hUnits j
  have hDen := ratioTo_pos m (m.decimalExponent - j)
  have hFloor := (Nat.le_div_iff_mul_le hDen).mpr hLow
  have hCeiling := (Nat.div_lt_iff_lt_mul hDen).mpr hHigh
  have hOne : 1 ≤ 10 ^ j := Nat.pow_pos (by decide)
  have hFew := hFound.few
  have hMost : 10 ^ (j + 1) ≤ 10 ^ 17 := Nat.pow_le_pow_right (by decide) (by omega)
  rcases (readsBack_of_candidate? hFound.found).2 with rfl | rfl
  · omega
  · omega

/-- The digits of a magnitude in JSON: with some zeros behind them they are the decimal that is
found. -/
structure Digits (m : Magnitude) (d : Fin 10) (ds : List (Fin 10)) : Prop where
  first : d.val ≠ 0
  text : (m.shortest .even).digits = digitChars (d :: ds)
  found : ∃ c j zeros : Nat, m.FoundAt .even c j ∧ digitsValue (d :: ds) * 10 ^ zeros = c ∧
    (m.shortest .even).exponent - ds.length = m.decimalExponent - j + zeros

theorem exists_digits (hUnits : m.units ≠ 0) : ∃ d ds, m.Digits d ds := by
  obtain ⟨c, j, hFound⟩ := exists_foundAt hUnits .even
  obtain ⟨d, ds, zeros, hFirst, hText, hValue, hPlace⟩ :=
    exists_significant (hFound.le hUnits).1 (m.decimalExponent - j)
  rw [← hFound.digits] at hText hPlace
  exact ⟨d, ds, hFirst, hText, c, j, zeros, hFound, hValue, hPlace⟩

namespace Digits

variable {d : Fin 10} {ds : List (Fin 10)}

/-- The magnitude is the one nearest to its digits. -/
theorem nearest (hDigits : m.Digits d ds) :
    ofDecimal? (digitsValue (d :: ds)) ((m.shortest .even).exponent - ds.length) = some m := by
  obtain ⟨c, j, zeros, hFound, hValue, hPlace⟩ := hDigits.found
  rw [hPlace, ← ofDecimal?_zeros, hValue]
  exact ofDecimal?_of_readsBack (readsBack_of_candidate? hFound.found).1

/-- There are no more than 17 digits. -/
theorem few (hDigits : m.Digits d ds) (hUnits : m.units ≠ 0) :
    digitsValue (d :: ds) ≤ 10 ^ 17 := by
  obtain ⟨c, j, zeros, hFound, hValue, -⟩ := hDigits.found
  refine Nat.le_trans ?_ (hFound.le hUnits).2
  rw [← hValue]
  exact Nat.le_mul_of_pos_right _ (Nat.pow_pos (by decide))

theorem range (hDigits : m.Digits d ds) (hUnits : m.units ≠ 0) :
    (m.shortest .even).exponent.natAbs ≤ 1000 := by
  obtain ⟨c, j, zeros, hFound, -, -⟩ := hDigits.found
  obtain ⟨hPos, hLe⟩ := hFound.le hUnits
  have hFew := hFound.few
  have hTop := decimalExponent_range hUnits
  have hLength : decimalLength c - 1 ≤ 17 :=
    (Nat.pow_le_pow_iff_right (by decide)).mp (Nat.le_trans (pow_decimalLength_le hPos) hLe)
  rw [hFound.digits, significant]
  simp only
  omega

theorem notLargest (hDigits : m.Digits d ds) (hUnits : m.units ≠ 0) :
    digitsValue (d :: ds) = 17976931348623158 → (m.shortest .even).exponent - ds.length ≠ 292 := by
  obtain ⟨c, j, zeros, hFound, hValue, hPlace⟩ := hDigits.found
  intro hLargest hTop
  have hLe := (hFound.le hUnits).2
  have hNone : zeros = 0 := by
    refine Nat.eq_zero_of_not_pos fun hSome => ?_
    have hTen : 10 ^ 1 ≤ 10 ^ zeros := Nat.pow_le_pow_right (by decide) hSome
    have hMore := Nat.mul_le_mul_left (digitsValue (d :: ds)) hTen
    omega
  rw [hNone, Nat.pow_zero, Nat.mul_one] at hValue
  rw [hTop, hNone] at hPlace
  exact ne_largest hFound.found (by omega) (hValue.symm.trans hLargest)

end Digits

-- ---------------------------------------------------------------------------
-- Integers
-- ---------------------------------------------------------------------------

variable {i : Nat}

/-- The places of an integer begin in front of the point. -/
theorem decimalExponent_whole (hUnits : m.units = i * unitsPerOne) (hPos : 0 < i) :
    0 ≤ m.decimalExponent := by
  have hOne := unitsPerOne_pos
  have hNonzero : m.units ≠ 0 := by
    rw [hUnits]
    exact Nat.ne_of_gt (Nat.mul_pos hPos hOne)
  obtain ⟨length, more, -, -, hExponent, -, hHigh⟩ := decimalExponent_bounds hNonzero
  rw [hUnits, Nat.mul_comm i, Nat.mul_assoc] at hHigh
  have hLonger : 10 ^ more < 10 ^ length :=
    Nat.lt_of_le_of_lt (Nat.le_mul_of_pos_left _ hPos) (Nat.lt_of_mul_lt_mul_left hHigh)
  have hLength := (Nat.pow_lt_pow_iff_right (by decide)).mp hLonger
  omega

/-- An integer itself is one of the decimals, so what is found is an integer too. -/
theorem le_of_foundAt_whole {c j : Nat} (hUnits : m.units = i * unitsPerOne) (hPos : 0 < i)
    (hFound : m.FoundAt tie c j) : (j : Int) ≤ m.decimalExponent := by
  obtain ⟨e, hTop⟩ := Int.eq_ofNat_of_zero_le (decimalExponent_whole hUnits hPos)
  rw [hTop]
  refine Int.ofNat_le.mpr (Nat.not_lt.mp fun hLess => ?_)
  have hNone := hFound.before e hLess
  have hRatio : (m.ratioTo 0).1 = i * (m.ratioTo 0).2 := by
    rw [ratioTo_eq, hUnits]
    generalize unitsPerOne = one
    show i * one * 10 ^ 0 = i * (one * 10 ^ 0)
    rw [Nat.pow_zero, Nat.mul_one, Nat.mul_one]
  have hReads : m.readsBack 0 ((m.ratioTo 0).1 / (m.ratioTo 0).2) = true := by
    rw [hRatio, Nat.mul_div_cancel _ (ratioTo_pos m 0)]
    refine readsBack_of_below (Nat.le_of_eq hRatio.symm) ?_
    have hStep : 0 < (unitsOf i 0).2 * 2 ^ spare m.units :=
      Nat.mul_pos (unitsOf_pos i 0) (Nat.two_pow_pos _)
    rw [hRatio]
    split
    · omega
    · omega
  have hSome := isSome_candidate? tie (Or.inl hReads)
  rw [hTop, Int.sub_self] at hNone
  rw [hNone] at hSome
  cases hSome

/-- What is found for an integer is the integer, if both the decimals that enclose it are
magnitudes. -/
theorem FoundAt.whole {j : Nat} (hFound : m.FoundAt tie c j) (hUnits : m.units = i * unitsPerOne)
    (hPos : 0 < i) (hRange : 2 * i ≤ exactLimit) :
    ∃ p : Nat, m.decimalExponent - j = p ∧ c * 10 ^ p = i := by
  have hInFront := le_of_foundAt_whole hUnits hPos hFound
  obtain ⟨p, hPlace⟩ := Int.eq_ofNat_of_zero_le (a := m.decimalExponent - j) (by omega)
  have hOne := unitsPerOne_pos
  have hNonzero : m.units ≠ 0 := by
    rw [hUnits]
    exact Nat.ne_of_gt (Nat.mul_pos hPos hOne)
  have hRatio : m.ratioTo p = (i * unitsPerOne, 10 ^ p * unitsPerOne) := by
    have hNeg : (-(p : Int)).toNat = 0 := by omega
    rw [ratioTo_eq, hNeg, Int.toNat_natCast, hUnits, Nat.pow_zero, Nat.mul_one,
      Nat.mul_comm unitsPerOne]
  have hDigits := (ratioTo_bounds hNonzero j).1
  have hEnclosing := (readsBack_of_candidate? hFound.found).2
  have hNearest := ofDecimal?_of_readsBack (readsBack_of_candidate? hFound.found).1
  rw [hPlace] at hDigits hEnclosing hNearest
  rw [hRatio, ← Nat.mul_assoc] at hDigits
  rw [hRatio, Nat.mul_div_mul_right _ _ hOne] at hEnclosing
  -- One more at this place is no more than twice as much.
  have hPower : 10 ^ p ≤ i := Nat.le_trans (Nat.le_mul_of_pos_left _ (Nat.pow_pos (by decide)))
    (Nat.le_of_mul_le_mul_right hDigits hOne)
  have hFloor : i / 10 ^ p * 10 ^ p ≤ i := Nat.div_mul_le_self _ _
  have hSmall : c * 10 ^ p ≤ 2 * i := by
    rcases hEnclosing with rfl | rfl
    · omega
    · rw [Nat.succ_mul]
      omega
  refine ⟨p, hPlace, ?_⟩
  have hWhole := ofRatio?_one (Nat.le_trans hSmall hRange)
  replace hNearest : ofRatio? (c * Nat.pow 10 p) 1 = some m := by
    rw [← ofDecimal?_ofNat]
    exact hNearest
  have hSame := Option.some.inj (hWhole.symm.trans hNearest)
  have hCount : c * 10 ^ p * unitsPerOne = i * unitsPerOne := by
    rw [← hUnits, ← hSame, Magnitude.whole]
  exact Nat.eq_of_mul_eq_mul_right hOne hCount

/-- The digits of an integer, with zeros behind them, are the integer. -/
theorem Digits.whole {d : Fin 10} {ds : List (Fin 10)} (hDigits : m.Digits d ds)
    (hUnits : m.units = i * unitsPerOne) (hPos : 0 < i) (hRange : 2 * i ≤ exactLimit) :
    ∃ e : Nat, (m.shortest .even).exponent - ds.length = e ∧
      digitsValue (d :: ds) * 10 ^ e = i := by
  obtain ⟨c, j, zeros, hFound, hValue, hPlace⟩ := hDigits.found
  obtain ⟨p, hInFront, hSame⟩ := hFound.whole hUnits hPos hRange
  refine ⟨p + zeros, ?_, ?_⟩
  · rw [hPlace, hInFront, Int.natCast_add]
  · rw [← hSame, ← hValue, Nat.pow_add, ← Nat.mul_assoc, Nat.mul_right_comm]

end Magnitude

end Gamebook
