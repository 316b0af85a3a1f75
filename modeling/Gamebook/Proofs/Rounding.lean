import Mathlib.Algebra.Group.Nat.Defs
import Gamebook.Json.Numeral

/-!
# Gamebook — rounding to magnitudes

A ratio is rounded to the nearest magnitude, a half to the even significand. How
far apart the magnitudes are depends on the ratio itself, so no single division
tells the result: a ratio may be rounded up past a power of two, from where on
they are twice as far apart, and below a power of two the next smaller magnitude
is at half the distance of the next larger one. Rounding keeps the order all the
same, and whatever lies near a magnitude is rounded to it.

* `Nearest`, `roundDiv_eq`, `roundDiv_mono` — quotients of natural numbers.
* `spare_eq_of_bounds`, `units_eq`, `significand_lt`, `le_significand` — between
  which powers of two a magnitude lies, and its bits that are used.
* `ofUnits?_congr`, `ofUnits?_mono` — only the ratio counts, and a smaller one is
  rounded to no larger magnitude.
* `Near`, `ofUnits?_of_near` — the ratios that are rounded to a magnitude.
* `FewBits`, `ofRatio?_of_fewBits`, `ofRatio?_one` — integers that are not rounded.
-/

namespace Gamebook

-- ---------------------------------------------------------------------------
-- Rounded quotients
-- ---------------------------------------------------------------------------

variable {num den num' den' d s : Nat}

/-- The quotient is no further from the natural number than a half, and a half only if that one is
even. -/
structure Nearest (s num den : Nat) : Prop where
  below : 2 * (s * den) ≤ 2 * num + den
  above : 2 * num ≤ 2 * (s * den) + den
  tie : 2 * (s * den) = 2 * num + den ∨ 2 * num = 2 * (s * den) + den → s % 2 = 0

/-- The natural number that a quotient lies next to is its rounding. -/
theorem roundDiv_eq (hDen : 0 < den) (hNearest : Nearest s num den) : roundDiv num den = s := by
  obtain ⟨hBelow, hAbove, hTie⟩ := hNearest
  have hFloorOf : ∀ t, t * den ≤ num → num < t * den + den →
      num / den = t ∧ num % den = num - t * den := by
    intro t hLow hHigh
    refine (Nat.div_mod_unique hDen).mpr ⟨?_, ?_⟩
    · rw [Nat.mul_comm den t]
      omega
    · omega
  by_cases hLess : num < s * den
  · -- The quotient is below, and its floor is one less.
    obtain ⟨t, rfl⟩ : ∃ t, s = t + 1 := by
      refine Nat.exists_eq_succ_of_ne_zero ?_
      rintro rfl
      omega
    have hProduct : (t + 1) * den = t * den + den := Nat.succ_mul t den
    obtain ⟨hFloor, hRest⟩ := hFloorOf t (by omega) (by omega)
    rw [roundDiv, hFloor, hRest]
    split
    · omega
    · split
      · rfl
      · have hEven := hTie (Or.inl (by omega))
        omega
  · obtain ⟨hFloor, hRest⟩ := hFloorOf s (Nat.not_lt.mp hLess) (by omega)
    rw [roundDiv, hFloor, hRest]
    split
    · rfl
    · split
      · omega
      · have hEven := hTie (Or.inr (by omega))
        omega

theorem roundDiv_mul_mul (hPos : 0 < d) (num den : Nat) :
    roundDiv (num * d) (den * d) = roundDiv num den := by
  have hLess : ∀ a b : Nat, a * d < b * d ↔ a < b := fun _ _ => Nat.mul_lt_mul_right hPos
  simp only [roundDiv, Nat.mul_div_mul_right _ _ hPos, Nat.mul_mod_mul_right, ← Nat.mul_assoc,
    hLess]

theorem le_roundDiv (num den : Nat) : num / den ≤ roundDiv num den := by
  unfold roundDiv
  split
  · omega
  · split <;> omega

/-- Rounding keeps the order of quotients. -/
theorem roundDiv_mono (hLe : num ≤ num') (den : Nat) : roundDiv num den ≤ roundDiv num' den := by
  have hFloor : num / den ≤ num' / den := Nat.div_le_div_right hLe
  rcases Nat.lt_or_eq_of_le hFloor with hLess | hSame
  · exact Nat.le_trans (roundDiv_le _ _) (Nat.le_trans hLess (le_roundDiv _ _))
  · have hRest : num % den ≤ num' % den := by
      have hNum := Nat.div_add_mod num den
      have hNum' := Nat.div_add_mod num' den
      rw [hSame] at hNum
      omega
    unfold roundDiv
    rw [hSame]
    -- What is left over decides in both, and on the left no more is left.
    repeat' split
    all_goals omega

namespace Magnitude

variable {m a b : Magnitude}

-- ---------------------------------------------------------------------------
-- Significands
-- ---------------------------------------------------------------------------

/-- The bits of a magnitude that it cannot use are all zero. -/
theorem two_pow_spare_dvd (m : Magnitude) : Nat.pow 2 (spare m.units) ∣ m.units := by
  obtain ⟨significand, shift, hSignificand, hUnits⟩ := m.exact
  rw [Nat.pow_eq] at hSignificand hUnits
  rw [Nat.pow_eq]
  by_cases hZero : m.units = 0
  · rw [hZero]
    exact Nat.dvd_zero _
  · have hBelow : m.units < 2 ^ (53 + shift) := by
      rw [hUnits, Nat.pow_add]
      exact Nat.mul_lt_mul_of_pos_right hSignificand (Nat.two_pow_pos shift)
    have hLog : m.units.log2 < 53 + shift := (Nat.log2_lt hZero).mpr hBelow
    have hSpare : spare m.units ≤ shift := by
      unfold spare
      omega
    have hGrid : 2 ^ shift ∣ m.units := ⟨significand, by rw [hUnits, Nat.mul_comm]⟩
    exact Nat.dvd_trans (Nat.pow_dvd_pow 2 hSpare) hGrid

theorem units_eq (m : Magnitude) : m.units = m.significand * 2 ^ spare m.units :=
  (Nat.div_mul_cancel m.two_pow_spare_dvd).symm

/-- How many bits are spare tells between which powers of two a number lies. -/
theorem spare_eq_of_bounds {q k : Nat} (hLow : k = 0 ∨ 2 ^ (52 + k) ≤ q)
    (hHigh : q < 2 ^ (53 + k)) : spare q = k := by
  unfold spare
  by_cases hZero : q = 0
  · subst hZero
    rcases hLow with rfl | hLow
    · rfl
    · have := Nat.two_pow_pos (52 + k)
      omega
  · have hLog : q.log2 < 53 + k := (Nat.log2_lt hZero).mpr hHigh
    rcases hLow with rfl | hLow
    · omega
    · have : 52 + k ≤ q.log2 := (Nat.le_log2 hZero).mpr hLow
      omega

theorem lt_two_pow_spare (q : Nat) : q < 2 ^ (53 + spare q) := by
  refine Nat.lt_of_lt_of_le (Nat.lt_log2_self (n := q)) (Nat.pow_le_pow_right (by decide) ?_)
  unfold spare
  omega

theorem two_pow_spare_le {q : Nat} (hSpare : spare q ≠ 0) : 2 ^ (52 + spare q) ≤ q := by
  have hZero : q ≠ 0 := by
    rintro rfl
    exact hSpare rfl
  refine (Nat.le_log2 hZero).mp ?_
  unfold spare at hSpare ⊢
  omega

theorem spare_mono {q q' : Nat} (hLe : q ≤ q') : spare q ≤ spare q' := by
  by_cases hSpare : spare q = 0
  · rw [hSpare]
    exact Nat.zero_le _
  · have hBetween : 2 ^ (52 + spare q) < 2 ^ (53 + spare q') :=
      Nat.lt_of_le_of_lt (Nat.le_trans (two_pow_spare_le hSpare) hLe) (lt_two_pow_spare q')
    have := (Nat.pow_lt_pow_iff_right (by decide)).mp hBetween
    omega

theorem significand_lt (m : Magnitude) : m.significand < 2 ^ 53 := by
  have hBelow := lt_two_pow_spare m.units
  rw [Nat.pow_add] at hBelow
  exact Nat.div_lt_of_lt_mul (by rwa [Nat.mul_comm])

theorem le_significand (hSpare : spare m.units ≠ 0) : 2 ^ 52 ≤ m.significand := by
  have hAbove := two_pow_spare_le hSpare
  rw [Nat.pow_add] at hAbove
  exact (Nat.le_div_iff_mul_le (Nat.two_pow_pos _)).mpr hAbove

-- ---------------------------------------------------------------------------
-- Rounded ratios
-- ---------------------------------------------------------------------------

theorem roundUnits_eq (num den : Nat) : roundUnits num den =
    roundDiv num (den * 2 ^ spare (num / den)) * 2 ^ spare (num / den) := rfl

theorem roundUnits_mul_mul (hPos : 0 < d) (num den : Nat) :
    roundUnits (num * d) (den * d) = roundUnits num den := by
  rw [roundUnits_eq, roundUnits_eq, Nat.mul_div_mul_right _ _ hPos, Nat.mul_right_comm,
    roundDiv_mul_mul hPos]

/-- Only the ratio counts. -/
theorem ofUnits?_congr (hDen : 0 < den) (hDen' : 0 < den') (hRatio : num * den' = num' * den) :
    ofUnits? num den = ofUnits? num' den' := by
  have hRound : roundUnits num den = roundUnits num' den' := by
    rw [← roundUnits_mul_mul hDen' num den, ← roundUnits_mul_mul hDen num' den', hRatio,
      Nat.mul_comm den den']
  unfold ofUnits?
  simp only [hRound]

theorem roundDiv_spare_le (num den : Nat) :
    roundDiv num (den * 2 ^ spare (num / den)) ≤ 2 ^ 53 := by
  have hBelow := lt_two_pow_spare (num / den)
  rw [Nat.pow_add, Nat.mul_comm] at hBelow
  refine Nat.le_trans (roundDiv_le _ _) ?_
  rw [← Nat.div_div_eq_div_mul]
  exact Nat.div_lt_of_lt_mul hBelow

theorem le_roundDiv_spare (hSpare : spare (num / den) ≠ 0) :
    2 ^ 52 ≤ roundDiv num (den * 2 ^ spare (num / den)) := by
  have hAbove := two_pow_spare_le hSpare
  rw [Nat.pow_add] at hAbove
  refine Nat.le_trans ?_ (le_roundDiv _ _)
  rw [← Nat.div_div_eq_div_mul]
  exact (Nat.le_div_iff_mul_le (Nat.two_pow_pos _)).mpr hAbove

/-- A larger ratio is not rounded to a smaller magnitude. -/
theorem roundUnits_mono (den : Nat) (hLe : num ≤ num') :
    roundUnits num den ≤ roundUnits num' den := by
  have hSpare : spare (num / den) ≤ spare (num' / den) := spare_mono (Nat.div_le_div_right hLe)
  rw [roundUnits_eq, roundUnits_eq]
  rcases Nat.lt_or_eq_of_le hSpare with hLess | hSame
  · -- With more bits to spare, the larger ratio is beyond a power of two that the other one
    -- is not rounded past.
    have hLow := roundDiv_spare_le num den
    have hSpare' : spare (num' / den) ≠ 0 := Nat.ne_of_gt (Nat.zero_lt_of_lt hLess)
    have hHigh := le_roundDiv_spare hSpare'
    generalize spare (num / den) = k at hLess hLow ⊢
    generalize spare (num' / den) = k' at hLess hHigh ⊢
    calc roundDiv num (den * 2 ^ k) * 2 ^ k
        ≤ 2 ^ 53 * 2 ^ k := Nat.mul_le_mul_right _ hLow
      _ = 2 ^ (53 + k) := (Nat.pow_add 2 53 k).symm
      _ ≤ 2 ^ (52 + k') := Nat.pow_le_pow_right (by decide) (by omega)
      _ = 2 ^ 52 * 2 ^ k' := Nat.pow_add 2 52 k'
      _ ≤ roundDiv num' (den * 2 ^ k') * 2 ^ k' := Nat.mul_le_mul_right _ hHigh
  · rw [hSame]
    exact Nat.mul_le_mul_right _ (roundDiv_mono hLe _)

theorem units_of_ofUnits? (hSome : ofUnits? num den = some m) : m.units = roundUnits num den := by
  unfold ofUnits? at hSome
  split at hSome
  · cases hSome
    rfl
  · cases hSome

theorem ofUnits?_eq_some_iff : ofUnits? num den = some m ↔ roundUnits num den = m.units := by
  constructor
  · intro hSome
    exact (units_of_ofUnits? hSome).symm
  · intro hUnits
    unfold ofUnits?
    rw [dif_pos (hUnits ▸ m.bounded)]
    exact congrArg some (ext hUnits)

/-- What is no larger than a ratio that is rounded to a magnitude is rounded to one too, and to
no larger one. -/
theorem ofUnits?_mono (hLe : num ≤ num') (hSome : ofUnits? num' den = some b) :
    ∃ a, ofUnits? num den = some a ∧ a.units ≤ b.units := by
  have hUnits := roundUnits_mono den hLe
  rw [← units_of_ofUnits? hSome] at hUnits
  have hBounded := Nat.lt_of_le_of_lt hUnits b.bounded
  refine ⟨_, dif_pos hBounded, hUnits⟩

theorem ofRatio?_mono {num num' den : Nat} {b : Magnitude} (hLe : num ≤ num')
    (hSome : ofRatio? num' den = some b) :
    ∃ a, ofRatio? num den = some a ∧ a.units ≤ b.units :=
  ofUnits?_mono (Nat.mul_le_mul_right _ hLe) hSome

-- ---------------------------------------------------------------------------
-- The nearest magnitude
-- ---------------------------------------------------------------------------

/-- The ratio is no further from the magnitude than half the way to the next one on its side, and
a ratio halfway belongs to it only if its significand is even. Distances are in quarters of the
distance to the next larger magnitude. -/
structure Near (m : Magnitude) (num den : Nat) : Prop where
  below : num ≤ m.units * den →
    4 * (m.units * den) ≤
      4 * num + (if m.lowerIsNear then den * 2 ^ spare m.units else 2 * (den * 2 ^ spare m.units)) ∧
    (4 * (m.units * den) =
      4 * num + (if m.lowerIsNear then den * 2 ^ spare m.units else 2 * (den * 2 ^ spare m.units)) →
        m.significand % 2 = 0)
  above : m.units * den < num →
    4 * num ≤ 4 * (m.units * den) + 2 * (den * 2 ^ spare m.units) ∧
    (4 * num = 4 * (m.units * den) + 2 * (den * 2 ^ spare m.units) → m.significand % 2 = 0)

theorem lowerIsNear_iff : m.lowerIsNear = true ↔ m.significand = 2 ^ 52 ∧ spare m.units ≠ 0 := by
  rw [lowerIsNear, Bool.and_eq_true, beq_iff_eq, bne_iff_ne, Nat.pow_eq]

/-- Below a power of two the next smaller magnitude is at half the distance, and the ratio has one
bit less to spare. -/
theorem roundUnits_of_near_lower (hDen : 0 < den) (hNear : m.Near num den)
    (hLower : m.lowerIsNear = true) (hBelow : num < m.units * den) :
    roundUnits num den = m.units := by
  obtain ⟨hSignificand, hSpare⟩ := lowerIsNear_iff.mp hLower
  obtain ⟨j, hj⟩ := Nat.exists_eq_succ_of_ne_zero hSpare
  have hDistance := (hNear.below (Nat.le_of_lt hBelow)).1
  rw [if_pos hLower] at hDistance
  have hUnits : m.units = 2 ^ 53 * 2 ^ j := by
    rw [m.units_eq, hSignificand, hj, ← Nat.pow_add, ← Nat.pow_add, Nat.succ_eq_add_one,
      ← Nat.add_assoc, Nat.add_right_comm]
  have hGrid : den * 2 ^ spare m.units = 2 * (den * 2 ^ j) := by
    rw [hj, Nat.pow_succ, ← Nat.mul_assoc, Nat.mul_comm]
  have hProduct : m.units * den = 2 ^ 53 * (den * 2 ^ j) := by
    rw [hUnits, Nat.mul_assoc, Nat.mul_comm (2 ^ j)]
  have hPos : 0 < den * 2 ^ j := Nat.mul_pos hDen (Nat.two_pow_pos j)
  rw [hProduct] at hBelow hDistance
  rw [hGrid] at hDistance
  have hHalf : spare (num / den) = j := by
    refine spare_eq_of_bounds (Or.inr ?_) ?_
    · rw [Nat.le_div_iff_mul_le hDen, Nat.pow_add, Nat.mul_assoc, Nat.mul_comm (2 ^ j)]
      omega
    · rw [Nat.div_lt_iff_lt_mul hDen, Nat.pow_add, Nat.mul_assoc, Nat.mul_comm (2 ^ j)]
      exact hBelow
  have hRound : roundDiv num (den * 2 ^ j) = 2 ^ 53 :=
    roundDiv_eq hPos ⟨by omega, by omega, fun _ => by decide⟩
  rw [roundUnits_eq, hHalf, hRound, hUnits]

/-- A magnitude in steps to the next larger one. -/
theorem units_mul_eq (m : Magnitude) (den : Nat) :
    m.units * den = m.significand * (den * 2 ^ spare m.units) := by
  conv => lhs; rw [m.units_eq]
  rw [Nat.mul_assoc, Nat.mul_comm (2 ^ _)]

/-- On the other sides the distances are halves of one step. -/
theorem Near.nearest (hDen : 0 < den) (hNear : m.Near num den)
    (hSide : m.lowerIsNear = true → m.units * den ≤ num) :
    Nearest m.significand num (den * 2 ^ spare m.units) := by
  have hPos : 0 < den * 2 ^ spare m.units := Nat.mul_pos hDen (Nat.two_pow_pos _)
  obtain ⟨hBelow, hAbove⟩ := hNear
  have hFar : num < m.units * den → m.lowerIsNear = false := by
    intro hLess
    exact Bool.eq_false_iff.mpr fun hLower => Nat.not_le.mpr hLess (hSide hLower)
  rw [units_mul_eq] at hBelow hAbove hFar
  suffices hWithin : 2 * (m.significand * (den * 2 ^ spare m.units)) ≤
        2 * num + den * 2 ^ spare m.units ∧
      2 * num ≤ 2 * (m.significand * (den * 2 ^ spare m.units)) + den * 2 ^ spare m.units ∧
      (2 * (m.significand * (den * 2 ^ spare m.units)) = 2 * num + den * 2 ^ spare m.units ∨
        2 * num = 2 * (m.significand * (den * 2 ^ spare m.units)) + den * 2 ^ spare m.units →
          m.significand % 2 = 0) from ⟨hWithin.1, hWithin.2.1, hWithin.2.2⟩
  generalize m.significand * (den * 2 ^ spare m.units) = place at *
  rcases Nat.lt_trichotomy num place with hLess | rfl | hGreater
  · have hHalf := hBelow (Nat.le_of_lt hLess)
    rw [hFar hLess, if_neg Bool.false_ne_true] at hHalf
    omega
  · omega
  · have hHalf := hAbove hGreater
    omega

/-- A ratio next to a magnitude lies between the same powers of two. -/
theorem spare_eq_of_nearest (hDen : 0 < den)
    (hNearest : Nearest m.significand num (den * 2 ^ spare m.units))
    (hSide : m.lowerIsNear = true → m.units * den ≤ num) : spare (num / den) = spare m.units := by
  have hPos : 0 < den * 2 ^ spare m.units := Nat.mul_pos hDen (Nat.two_pow_pos _)
  have hScale : ∀ n, 2 ^ (n + spare m.units) * den = 2 ^ n * (den * 2 ^ spare m.units) := by
    intro n
    rw [Nat.pow_add, Nat.mul_assoc, Nat.mul_comm (2 ^ spare m.units)]
  obtain ⟨hBelow, hAbove, -⟩ := hNearest
  refine spare_eq_of_bounds (Decidable.or_iff_not_imp_left.mpr fun hSpare => ?_) ?_
  · rw [Nat.le_div_iff_mul_le hDen, hScale]
    rcases Nat.lt_or_eq_of_le (le_significand hSpare) with hInner | hPower
    · have hNext := Nat.mul_le_mul_right (den * 2 ^ spare m.units) hInner
      rw [Nat.succ_mul] at hNext
      omega
    · -- A power of two has its lower neighbour near, so the ratio is not below it.
      have hAtLeast := hSide (lowerIsNear_iff.mpr ⟨hPower.symm, hSpare⟩)
      rwa [units_mul_eq, ← hPower] at hAtLeast
  · have hLargest := Nat.mul_le_mul_right (den * 2 ^ spare m.units) m.significand_lt
    rw [Nat.succ_mul] at hLargest
    rw [Nat.div_lt_iff_lt_mul hDen, hScale]
    omega

/-- A ratio near a magnitude is rounded to it. -/
theorem roundUnits_of_near (hDen : 0 < den) (hNear : m.Near num den) :
    roundUnits num den = m.units := by
  by_cases hCase : m.lowerIsNear = true ∧ num < m.units * den
  · exact roundUnits_of_near_lower hDen hNear hCase.1 hCase.2
  · have hSide : m.lowerIsNear = true → m.units * den ≤ num :=
      fun hLower => Nat.not_lt.mp fun hLess => hCase ⟨hLower, hLess⟩
    have hNearest := hNear.nearest hDen hSide
    have hPos : 0 < den * 2 ^ spare m.units := Nat.mul_pos hDen (Nat.two_pow_pos _)
    rw [roundUnits_eq, spare_eq_of_nearest hDen hNearest hSide, roundDiv_eq hPos hNearest,
      ← units_eq]

theorem ofUnits?_of_near (hDen : 0 < den) (hNear : m.Near num den) : ofUnits? num den = some m :=
  ofUnits?_eq_some_iff.mpr (roundUnits_of_near hDen hNear)

-- ---------------------------------------------------------------------------
-- Numbers that are not rounded
-- ---------------------------------------------------------------------------

/-- What is a magnitude already is not rounded. -/
theorem ofUnits?_units (m : Magnitude) : ofUnits? m.units 1 = some m := by
  have hRound : roundUnits m.units 1 = m.units := by
    obtain ⟨n, hUnits⟩ := m.two_pow_spare_dvd
    rw [Nat.mul_comm] at hUnits
    have hQuotient := roundDiv_mul (natPow_two_pos (spare m.units)) n
    rw [← hUnits] at hQuotient
    rw [roundUnits, Nat.div_one, Nat.one_mul, hQuotient, ← hUnits]
  unfold ofUnits?
  simp only [hRound, m.bounded, dif_pos]

/-- The number has at most 53 significant bits. -/
def FewBits (n : Nat) : Prop := ∃ significand shift,
  significand < Nat.pow 2 53 ∧ n = significand * Nat.pow 2 shift

theorem FewBits.mul_pow_two {n : Nat} (hBits : FewBits n) (shift : Nat) :
    FewBits (n * Nat.pow 2 shift) := by
  obtain ⟨significand, shift', hSignificand, rfl⟩ := hBits
  refine ⟨significand, shift' + shift, hSignificand, ?_⟩
  simp only [Nat.pow_eq, Nat.pow_add, Nat.mul_assoc]

theorem FewBits.mul_unitsPerOne {n : Nat} (hBits : FewBits n) : FewBits (n * unitsPerOne) := by
  delta unitsPerOne
  apply hBits.mul_pow_two

theorem unitsPerOne_pos : 0 < unitsPerOne := by
  delta unitsPerOne
  apply natPow_two_pos

theorem lt_pow_two_of_lt {n k k' : Nat} (hLess : n < Nat.pow 2 k) (hLe : k ≤ k') :
    n < Nat.pow 2 k' :=
  Nat.lt_of_lt_of_le hLess (Nat.pow_le_pow_right (by decide) hLe)

theorem mul_pow_two_lt {n k shift k' : Nat} (hLess : n < Nat.pow 2 k) (hSum : k + shift = k') :
    n * Nat.pow 2 shift < Nat.pow 2 k' := by
  have hPower : Nat.pow 2 (k + shift) = Nat.pow 2 k * Nat.pow 2 shift := Nat.pow_add 2 k shift
  rw [← hSum, hPower]
  exact Nat.mul_lt_mul_of_pos_right hLess (natPow_two_pos shift)

theorem mul_unitsPerOne_lt {n : Nat} (hBounded : n < Nat.pow 2 1024) :
    n * unitsPerOne < unitsCeiling := by
  delta unitsPerOne unitsCeiling
  apply mul_pow_two_lt hBounded
  rfl

/-- A number of few bits is a magnitude. -/
theorem ofRatio?_of_fewBits {n : Nat} (hBits : FewBits n) (hBounded : n < Nat.pow 2 1024) :
    ∃ m : Magnitude, ofRatio? n 1 = some m ∧ m.units = n * unitsPerOne := by
  have hExact : FewBits (n * unitsPerOne) := hBits.mul_unitsPerOne
  have hUnits : n * unitsPerOne < unitsCeiling := mul_unitsPerOne_lt hBounded
  exact ⟨⟨_, hExact, hUnits⟩, ofUnits?_units ⟨_, hExact, hUnits⟩, rfl⟩

/-- The largest integer up to which every integer is a magnitude. -/
def exactLimit : Nat := Nat.pow 2 53

theorem fewBits_of_le {n : Nat} (hRange : n ≤ exactLimit) : FewBits n := by
  rcases Nat.lt_or_eq_of_le hRange with hBelow | rfl
  · exact ⟨n, 0, hBelow, (Nat.mul_one n).symm⟩
  · -- The limit itself has one bit too many, and the last one is zero.
    exact ⟨Nat.pow 2 52, 1, by decide, rfl⟩

theorem bounded_of_le {n : Nat} (hRange : n ≤ exactLimit) : n < Nat.pow 2 1024 := by
  have hBelow : n < Nat.pow 2 54 := Nat.lt_of_le_of_lt hRange (by decide)
  apply lt_pow_two_of_lt hBelow
  decide

/-- An integer as a magnitude. -/
def whole (n : Nat) (hRange : n ≤ exactLimit) : Magnitude where
  units := n * unitsPerOne
  exact := (fewBits_of_le hRange).mul_unitsPerOne
  bounded := mul_unitsPerOne_lt (bounded_of_le hRange)

theorem ofRatio?_one {n : Nat} (hRange : n ≤ exactLimit) :
    ofRatio? n 1 = some (whole n hRange) :=
  (whole n hRange).ofUnits?_units

end Magnitude

end Gamebook
