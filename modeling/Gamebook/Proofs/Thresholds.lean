import Gamebook.Proofs.Rounding
import Gamebook.Proofs.SetAndTest
import Gamebook.Proofs.WrittenJson

/-!
# Gamebook — integers as thresholds

A scene sets a variable to an integer, and a choice asks whether the variable is
above some other integer. On the way both become binary64 numbers: the text is
scanned as a numeral of JSON, its digits are added up, the integer is rounded to
53 significant bits, and the comparison takes place between the rounded numbers.
Up to 2^53 nothing is rounded, so the choice can be seen exactly if the
comparison holds between the integers; one further, two different integers
become equal.

* `Number.order?_ofInt` — the order of integers that are not rounded.
* `Value.ofLiteral_toString` — an integer in decimal is read as its number.
* `Operator.relates` — a comparison of integers.
* `thresholds_compare_integers` — a directive and a condition on integers.
-/

namespace Gamebook

open Text

-- ---------------------------------------------------------------------------
-- Numbers that are not rounded
-- ---------------------------------------------------------------------------

namespace Number

open Magnitude

variable {a b : Int}

/-- An integer that is not rounded stands at its own place on the number line. -/
theorem place?_ofInt (hRange : a.natAbs ≤ exactLimit) :
    (ofInt a).place? = some (a * unitsPerOne) := by
  rw [ofInt, ofRatio?_one hRange, ofMagnitude?, place?]
  by_cases hNegative : a < 0
  · have hAbs : (a.natAbs : Int) = -a := by omega
    simp only [hNegative, decide_true, if_true, whole, Int.natCast_mul, hAbs, Int.neg_mul,
      Int.neg_neg]
  · have hAbs : (a.natAbs : Int) = a := by omega
    simp only [hNegative, decide_false, Bool.false_eq_true, if_false, whole, Int.natCast_mul, hAbs]

theorem compare_mul_units (a b : Int) :
    compare (a * unitsPerOne) (b * unitsPerOne) = compare a b := by
  have hUnits : (0 : Int) < unitsPerOne := by
    delta unitsPerOne
    apply Int.natCast_pos.mpr
    apply natPow_two_pos
  have hLess : a * unitsPerOne < b * unitsPerOne ↔ a < b := Int.mul_lt_mul_right hUnits
  have hEqual : a * unitsPerOne = b * unitsPerOne ↔ a = b :=
    Int.mul_eq_mul_right_iff (Int.ne_of_gt hUnits)
  simp only [compare, compareOfLessAndEq, hLess, hEqual]

/-- Integers that are not rounded have the order of integers. -/
theorem order?_ofInt (hLeft : a.natAbs ≤ exactLimit) (hRight : b.natAbs ≤ exactLimit) :
    (ofInt a).order? (ofInt b) = some (compare a b) := by
  rw [order?, place?_ofInt hLeft, place?_ofInt hRight]
  exact congrArg some (compare_mul_units a b)

-- One beyond the limit, two different integers are the same number.
example : (ofInt 9007199254740993).same (ofInt 9007199254740992) = true := by decide +kernel

end Number

-- ---------------------------------------------------------------------------
-- Integers in decimal
-- ---------------------------------------------------------------------------

/-- The numeral of an integer. -/
def Numeral.ofInteger (i : Int) : Numeral := { ofCount i.natAbs with negative := decide (i < 0) }

/-- An integer in decimal is a minus or none, and digits. -/
theorem Text.toList_toString_int (i : Int) :
    (toString i).toList = (if decide (i < 0) then ['-'] else []) ++ decimal i.natAbs := by
  cases i with
  | ofNat n =>
    have hSign : decide (Int.ofNat n < 0) = false :=
      decide_eq_false (Int.not_lt.mpr (Int.natCast_nonneg n))
    rw [hSign]
    exact String.toList_ofList
  | negSucc n =>
    have hSign : decide (Int.negSucc n < 0) = true := decide_eq_true (Int.negSucc_lt_zero n)
    rw [hSign]
    show ("-" ++ toString (n + 1)).toList = ['-'] ++ decimal (n + 1)
    rw [String.toList_append]
    exact congrArg (['-'] ++ ·) String.toList_ofList

theorem Numeral.writtenAs_toString (i : Int) : (ofInteger i).WrittenAs (toString i).toList where
  whole := (writtenAs_decimal i.natAbs).whole
  text := by
    refine ⟨[], [], .none, .none, ?_⟩
    rw [Text.toList_toString_int, List.append_nil, List.append_nil]
    exact congrArg _ (Text.digitChars_decimal i.natAbs).symm

/-- Up to the limit an integer is read as an integer. -/
theorem Numeral.read_ofInteger {i : Int} (hRange : i.natAbs ≤ Magnitude.exactLimit) :
    (ofInteger i).read = .ok (.integer i) := by
  have hLimit : Magnitude.exactLimit ≤ Nat.pow 2 63 := by decide
  have hValue : Text.digitsValue (ofInteger i).whole = i.natAbs := Text.digitsValue_decimal _
  have hFits : i.natAbs < Nat.pow 2 64 :=
    Nat.lt_of_le_of_lt (Nat.le_trans hRange hLimit) (by decide)
  have hWhole : ((ofInteger i).isWhole && decide (i.natAbs < Nat.pow 2 64)) = true :=
    decide_eq_true hFits
  rw [Numeral.read]
  simp only [hValue, hWhole, if_true]
  by_cases hNegative : i < 0
  · have hSign : (ofInteger i).negative = true := decide_eq_true hNegative
    have hNonzero : i.natAbs ≠ 0 := by omega
    have hInteger : -(i.natAbs : Int) = i := by omega
    rw [hSign, if_neg (by decide), if_neg hNonzero, if_pos (Nat.le_trans hRange hLimit), hInteger]
  · have hSign : (ofInteger i).negative = false := decide_eq_false hNegative
    have hInteger : (i.natAbs : Int) = i := by omega
    rw [hSign, if_pos (by decide), hInteger]

theorem Text.mem_toString_int {i : Int} {c : Char} (hMem : c ∈ (toString i).toList) :
    c = '-' ∨ c.isDigit = true := by
  rw [toList_toString_int] at hMem
  rcases List.mem_append.mp hMem with hSign | hDigit
  · by_cases hNegative : i < 0
    · rw [decide_eq_true hNegative, if_pos rfl] at hSign
      exact Or.inl (List.mem_singleton.mp hSign)
    · rw [decide_eq_false hNegative, if_neg Bool.false_ne_true] at hSign
      cases hSign
  · exact Or.inr (isDigit_of_mem_decimal hDigit)

/-- No character of an integer in decimal ends a literal or is trimmed away. -/
theorem Text.plain_of_mem_toString_int {i : Int} {c : Char} (hMem : c ∈ (toString i).toList) :
    isBlank c = false ∧ (c ≠ '\x7d' ∧ isLineEnd c = false) ∧ c ∉ Operator.marks := by
  have hDigits : ∀ d : Fin 10, isBlank (Nat.digitChar d) = false ∧
      (Nat.digitChar d ≠ '\x7d' ∧ isLineEnd (Nat.digitChar d) = false) ∧
      Nat.digitChar d ∉ Operator.marks := by decide
  rcases mem_toString_int hMem with rfl | hDigit
  · decide
  · obtain ⟨d, rfl⟩ := exists_digitChar hDigit
    exact hDigits d

theorem isEnclosed_toString_int (i : Int) : IsEnclosed (toString i) where
  notBlank := by
    obtain ⟨c, rest, hText, -⟩ := (Numeral.writtenAs_toString i).exists_first
    have hMem : c ∈ (toString i).toList := by
      rw [hText]
      exact List.mem_cons_self
    exact ⟨c, hMem, (plain_of_mem_toString_int hMem).1⟩
  line := fun _ hMem => (plain_of_mem_toString_int hMem).2.1
  marks := fun _ hMem => (plain_of_mem_toString_int hMem).2.2

/-- An integer in decimal is read as its number. -/
theorem Value.ofLiteral_toString {i : Int} (hRange : i.natAbs ≤ Magnitude.exactLimit) :
    ofLiteral (toString i) = .number (.ofInt i) := by
  have hTrimmed : trimmed (toString i) = toString i :=
    trimmed_of_forall fun _ hMem => (plain_of_mem_toString_int hMem).1
  have hValue : (Numeral.ofInteger i).value = .ofInt i := by
    rw [Numeral.value, Numeral.read_ofInteger hRange]
    rfl
  rw [← hValue]
  refine ofLiteral_of_literalAs ?_
  rw [hTrimmed]
  exact .number (Numeral.writtenAs_toString i)

-- ---------------------------------------------------------------------------
-- Comparisons of integers
-- ---------------------------------------------------------------------------

namespace Operator

/-- Whether a comparison holds between two integers. -/
def relates : Operator → Int → Int → Prop
  | equal, a, b => a = b
  | notEqual, a, b => a ≠ b
  | atLeast, a, b => b ≤ a
  | atMost, a, b => a ≤ b
  | greater, a, b => b < a
  | less, a, b => a < b

instance decidableRelates : (op : Operator) → (a b : Int) → Decidable (op.relates a b)
  | equal, a, b => inferInstanceAs (Decidable (a = b))
  | notEqual, a, b => inferInstanceAs (Decidable (a ≠ b))
  | atLeast, a, b => inferInstanceAs (Decidable (b ≤ a))
  | atMost, a, b => inferInstanceAs (Decidable (a ≤ b))
  | greater, a, b => inferInstanceAs (Decidable (b < a))
  | less, a, b => inferInstanceAs (Decidable (a < b))

variable {op : Operator} {a b : Int}

/-- An ordered operator accepts the order of two integers if it holds between them. -/
theorem accepts_compare (hOrdered : op.IsOrdered) (a b : Int) :
    op.accepts (compare a b) = decide (op.relates a b) := by
  rw [Bool.eq_iff_iff, decide_eq_true_iff]
  cases op with
  | equal | notEqual => exact hOrdered.elim
  | atLeast =>
    show (compare a b != .lt) = true ↔ b ≤ a
    rw [bne_iff_ne, ne_eq, Int.compare_eq_lt, Int.not_lt]
  | atMost =>
    show (compare a b != .gt) = true ↔ a ≤ b
    rw [bne_iff_ne, ne_eq, Int.compare_eq_gt, Int.not_lt]
  | greater =>
    show (compare a b == .gt) = true ↔ b < a
    rw [beq_iff_eq, Int.compare_eq_gt]
  | less =>
    show (compare a b == .lt) = true ↔ a < b
    rw [beq_iff_eq, Int.compare_eq_lt]

/-- Integers that are not rounded are compared as integers. -/
theorem holds_ofInt (op : Operator) (hLeft : a.natAbs ≤ Magnitude.exactLimit)
    (hRight : b.natAbs ≤ Magnitude.exactLimit) :
    op.holds (some (.number (.ofInt a))) (.number (.ofInt b)) = decide (op.relates a b) := by
  have hOrder : (Number.ofInt a).order? (.ofInt b) = some (compare a b) :=
    Number.order?_ofInt hLeft hRight
  have hSame : (Number.ofInt a).same (.ofInt b) = decide (a = b) := by
    rw [Number.same, hOrder, Bool.eq_iff_iff, beq_iff_eq, Option.some_inj, Int.compare_eq_eq,
      decide_eq_true_iff]
  have hOrdered : ∀ op : Operator, op.IsOrdered →
      op.holds (some (.number (.ofInt a))) (.number (.ofInt b)) = decide (op.relates a b) := by
    intro op hOrdered
    have hValues : (Value.number (.ofInt a)).order? (.number (.ofInt b)) = some (compare a b) :=
      hOrder
    rw [holds_of_isOrdered hOrdered, Option.bind_some, hValues]
    exact accepts_compare hOrdered a b
  cases op with
  | equal => exact hSame
  | notEqual => exact (congrArg (!·) hSame).trans decide_not.symm
  | _ => exact hOrdered _ trivial

end Operator

-- ---------------------------------------------------------------------------
-- Set and tested
-- ---------------------------------------------------------------------------

/--
**Thresholds compare integers.** A template sets a variable to an integer, and a
condition compares it with another one, both in decimal and neither beyond 2^53.
Whatever the variables were before, the choice can then be seen exactly if the
comparison holds between the two integers.
-/
theorem thresholds_compare_integers {x : String} {a b : Int} (hName : IsVariable x)
    (hSet : a.natAbs ≤ Nat.pow 2 53) (hTested : b.natAbs ≤ Nat.pow 2 53) (op : Operator)
    (vars : Vars) :
    let after := (Template.process ("\x7bset " ++ x ++ " = " ++ toString a ++ "\x7d") vars).2
    Condition.visible after (some (x ++ " " ++ op.symbol ++ " " ++ toString b)) =
      .ok (decide (op.relates a b)) := by
  intro after
  have hAfter : after[x]? = some (.number (.ofInt a)) := by
    have hProcess : after = vars.insert x (.ofLiteral (toString a)) :=
      Template.vars_process_set hName (isEnclosed_toString_int a) vars
    rw [hProcess, Std.ExtTreeMap.getElem?_insert_self, Value.ofLiteral_toString hSet]
  rw [Condition.visible_comparison hName (isEnclosed_toString_int b), hAfter,
    Value.ofLiteral_toString hTested, op.holds_ofInt hSet hTested]

/-- Next to the limit, below zero, neighbours are told apart. -/
theorem thresholds_compare_integers_edge :
    let after := (Template.process ("\x7bset " ++ "gold_2" ++ " = " ++
      toString (-9007199254740992 : Int) ++ "\x7d") ∅).2
    Condition.visible after (some ("gold_2" ++ " " ++ Operator.symbol .less ++ " " ++
      toString (-9007199254740991 : Int))) = .ok true := by
  have hName : IsVariable "gold_2" := by decide
  exact thresholds_compare_integers hName (by decide) (by decide) .less ∅

end Gamebook
