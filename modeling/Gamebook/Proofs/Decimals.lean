import Mathlib.Algebra.Group.Nat.Defs
import Gamebook.Proofs.Numerals

/-!
# Gamebook — natural numbers in decimal

* `digitsValue_decimal` — a number is read from its decimal digits.
* `exists_first_of_decimal` — they do not begin with a zero.
* `pow_decimalLength_le`, `lt_pow_decimalLength` — how many there are tells between
  which powers of ten a number lies.
-/

namespace Gamebook

namespace Text

variable {c : Char} {ds : List (Fin 10)}

theorem isDigit_of_mem_decimal {n : Nat} (hMem : c ∈ decimal n) : c.isDigit = true :=
  Nat.isDigit_of_mem_toDigits (by decide) (by decide) hMem

/-- A positive number does not begin with a zero. -/
theorem exists_first_of_decimal {n : Nat} (hPos : 0 < n) :
    ∃ d : Fin 10, d.val ≠ 0 ∧ ∃ cs, decimal n = Nat.digitChar d :: cs := by
  -- All but the last digit are those of a smaller number.
  induction n using Nat.strongRecOn with
  | ind n ih =>
    unfold decimal at ih ⊢
    rcases Nat.lt_or_ge n 10 with hSmall | hLarge
    · exact ⟨⟨n, hSmall⟩, Nat.ne_of_gt hPos, [], Nat.toDigits_of_lt_base hSmall⟩
    · obtain ⟨d, hFirst, cs, hText⟩ := ih (n / 10) (Nat.div_lt_self hPos (by decide))
        (Nat.div_pos hLarge (by decide))
      refine ⟨d, hFirst, cs ++ [Nat.digitChar (n % 10)], ?_⟩
      rw [Nat.toDigits_of_base_le (by decide) hLarge, hText, List.cons_append]

/-- A number in decimal is digits and nothing else. -/
theorem digitChars_decimal (n : Nat) : digitChars (digits (decimal n)).1 = decimal n := by
  have hSplit : digits (decimal n) = ((digits (decimal n)).1, (digits (decimal n)).2) := rfl
  obtain ⟨hText, hStop⟩ := digits_eq hSplit
  cases hRest : (digits (decimal n)).2 with
  | nil =>
    rw [hRest, List.append_nil] at hText
    exact hText.symm
  | cons c cs =>
    have hMem : c ∈ decimal n := by
      rw [hText, hRest]
      exact List.mem_append_right _ List.mem_cons_self
    have hNoDigit := hStop c (by rw [hRest]; rfl)
    rw [isDigit_of_mem_decimal hMem] at hNoDigit
    cases hNoDigit

/-- A run of digits stands for the number that its characters stand for. -/
theorem digitsValue_eq (ds : List (Fin 10)) :
    digitsValue ds = Nat.ofDigitChars 10 (digitChars ds) 0 := by
  have hDigit : ∀ (sofar : Nat) (d : Fin 10),
      10 * sofar + ((Nat.digitChar d).toNat - '0'.toNat) = 10 * sofar + d.val := by
    intro sofar d
    rw [toNat_digitChar]
    exact congrArg _ (Nat.add_sub_cancel_left 48 d.val)
  rw [digitsValue, Nat.ofDigitChars, digitChars, List.foldl_map]
  simp only [hDigit]

/-- A number is read from its decimal digits. -/
theorem digitsValue_decimal (n : Nat) : digitsValue (digits (decimal n)).1 = n := by
  rw [digitsValue_eq, digitChars_decimal, decimal,
    Nat.ofDigitChars_toDigits (by decide) (by decide)]

/-- More digits never make a number smaller. -/
theorem le_foldl_digits (n : Nat) (ds : List (Fin 10)) :
    n ≤ ds.foldl (fun n d => 10 * n + d.val) n := by
  induction ds generalizing n with
  | nil => exact Nat.le_refl n
  | cons d ds ih =>
    have hStep : n ≤ 10 * n + d.val := by omega
    exact Nat.le_trans hStep (ih _)

theorem lt_pow_decimalLength (n : Nat) : n < 10 ^ decimalLength n :=
  (Nat.length_toDigits_le_iff (by decide) Nat.length_toDigits_pos).mp (Nat.le_refl _)

theorem pow_decimalLength_le {n : Nat} (hPos : 0 < n) : 10 ^ (decimalLength n - 1) ≤ n := by
  by_cases hShort : decimalLength n - 1 = 0
  · rw [hShort]
    exact hPos
  · refine Nat.not_lt.mp fun hLess => ?_
    have hLength := (Nat.length_toDigits_le_iff (by decide) (Nat.pos_of_ne_zero hShort)).mpr hLess
    have hSame : (Nat.toDigits 10 n).length = decimalLength n := rfl
    omega

-- ---------------------------------------------------------------------------
-- Zeros at the ends
-- ---------------------------------------------------------------------------

theorem digitChars_append (ds ds' : List (Fin 10)) :
    digitChars (ds ++ ds') = digitChars ds ++ digitChars ds' :=
  List.map_append

theorem digitChars_zeros (zeros : Nat) :
    digitChars (List.replicate zeros 0) = List.replicate zeros '0' :=
  List.map_replicate

theorem digitsValue_append_zeros (ds : List (Fin 10)) (zeros : Nat) :
    digitsValue (ds ++ List.replicate zeros 0) = digitsValue ds * 10 ^ zeros := by
  rw [digitsValue_eq, digitsValue_eq, digitChars_append, digitChars_zeros, Nat.ofDigitChars_append,
    Nat.ofDigitChars_replicate_zero, Nat.mul_comm]

theorem digitsValue_zeros_append (zeros : Nat) (ds : List (Fin 10)) :
    digitsValue (List.replicate zeros 0 ++ ds) = digitsValue ds := by
  have hZeros := digitsValue_append_zeros [] zeros
  have hNone : digitsValue [] = 0 := rfl
  rw [List.nil_append, hNone, Nat.zero_mul] at hZeros
  rw [digitsValue, List.foldl_append, ← digitsValue, hZeros, digitsValue]

theorem foldl_digits_lt (n : Nat) (ds : List (Fin 10)) :
    ds.foldl (fun n d => 10 * n + d.val) n < (n + 1) * 10 ^ ds.length := by
  induction ds generalizing n with
  | nil =>
    rw [List.foldl_nil, List.length_nil, Nat.pow_zero]
    omega
  | cons d ds ih =>
    have hNext : 10 * n + d.val + 1 ≤ (n + 1) * 10 := by omega
    calc (d :: ds).foldl (fun n d => 10 * n + d.val) n
        < (10 * n + d.val + 1) * 10 ^ ds.length := ih _
      _ ≤ (n + 1) * 10 * 10 ^ ds.length := Nat.mul_le_mul_right _ hNext
      _ = (n + 1) * 10 ^ (d :: ds).length := by
        rw [List.length_cons, Nat.pow_succ, Nat.mul_assoc, Nat.mul_comm 10]

theorem digitsValue_lt (ds : List (Fin 10)) : digitsValue ds < 10 ^ ds.length := by
  have hLess := foldl_digits_lt 0 ds
  rwa [Nat.zero_add, Nat.one_mul] at hLess

/-- Digits that do not begin with a zero are a positive number. -/
theorem digitsValue_pos {d : Fin 10} (hFirst : d.val ≠ 0) : 0 < digitsValue (d :: ds) := by
  have hLe := le_foldl_digits (10 * 0 + d.val) ds
  rw [digitsValue, List.foldl_cons]
  omega

end Text

end Gamebook
