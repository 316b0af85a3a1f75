import Gamebook.Condition.Operator

/-!
# Gamebook — the six operators fit together

Equality and order are decided by different rules. Equality takes two values as
they are, so values of different kinds are never equal. Order counts everything
but two texts as numbers, a text by what it says, so values of different kinds
can be in order and even agree in it. The operators could therefore contradict
each other: an equality that is not also a "not less", a pair that is both less
and greater when the sides are exchanged. They do not. All four ordered operators
read one and the same order, exchanging the sides turns that order round, and
values that are equal agree in it.

* `Value.order?_swap` — the order with the sides exchanged.
* `Value.order?_of_same` — equal values agree in order.
* `Operator.holds_of_isOrdered` — an ordered operator reads nothing but the order.
* `Operator.holds_converse`, `Operator.holds_opposite` — the operator for exchanged
  sides, and the one that denies.
* `Operator.comparisons_fit_together` — the laws of the six operators.
-/

namespace Gamebook

-- ---------------------------------------------------------------------------
-- Numbers
-- ---------------------------------------------------------------------------

namespace Number

variable {x y : Number}

/-- Two numbers have an order exactly if each of them has a place on the number line. -/
theorem order?_eq_some_iff {o : Ordering} : x.order? y = some o ↔
    ∃ i j, x.place? = some i ∧ y.place? = some j ∧ compare i j = o := by
  unfold order?
  cases x.place? <;> cases y.place? <;> simp

/-- Numbers are equal exactly if they stand at the same place. -/
theorem same_iff : x.same y = true ↔ ∃ i, x.place? = some i ∧ y.place? = some i := by
  rw [same, beq_iff_eq, order?_eq_some_iff]
  constructor
  · rintro ⟨i, j, hX, hY, hEq⟩
    rw [← Std.LawfulEqCmp.eq_of_compare hEq] at hY
    exact ⟨i, hX, hY⟩
  · rintro ⟨i, hX, hY⟩
    exact ⟨i, i, hX, hY, Std.ReflCmp.compare_self⟩

theorem same_self (hProper : x ≠ notANumber) : x.same x = true := by
  have hPlace : ∃ i, x.place? = some i := by
    cases x with
    | notANumber => exact absurd rfl hProper
    | infinite negative => cases negative <;> exact ⟨_, rfl⟩
    | finite negative size => cases negative <;> exact ⟨_, rfl⟩
  obtain ⟨i, hPlace⟩ := hPlace
  exact same_iff.mpr ⟨i, hPlace, hPlace⟩

theorem same_comm (x y : Number) : x.same y = y.same x := by
  rw [Bool.eq_iff_iff, same_iff, same_iff]
  exact exists_congr fun i => and_comm

theorem order?_of_same (hSame : x.same y = true) : x.order? y = some .eq := eq_of_beq hSame

end Number

-- ---------------------------------------------------------------------------
-- Values
-- ---------------------------------------------------------------------------

namespace Value

variable {l r : Value}

/-- Two texts have the order of texts, any other two values that of the numbers they count as. -/
theorem order?_cases (l r : Value) : (∃ s t, l = text s ∧ r = text t) ∨
    (l.order? r = l.toNumber.order? r.toNumber ∧ r.order? l = r.toNumber.order? l.toNumber) := by
  cases l with
  | text s =>
    cases r with
    | text t => exact Or.inl ⟨s, t, rfl, rfl⟩
    | _ => exact Or.inr ⟨rfl, rfl⟩
  | _ => exact Or.inr ⟨by cases r <;> rfl, by cases r <;> rfl⟩

/-- Exchanging the sides turns the order round, also between values of different kinds. -/
theorem order?_swap (l r : Value) : r.order? l = (l.order? r).map Ordering.swap := by
  rcases order?_cases l r with ⟨s, t, rfl, rfl⟩ | ⟨hLeft, hRight⟩
  · exact congrArg some Std.OrientedCmp.eq_swap
  · rw [hLeft, hRight]
    exact Number.order?_swap _ _

theorem same_comm (l r : Value) : l.same r = r.same l := by
  cases l with
  | bool a =>
    cases r with
    | bool b => exact Bool.beq_comm
    | _ => rfl
  | number x =>
    cases r with
    | number y => exact Number.same_comm x y
    | _ => rfl
  | text s =>
    cases r with
    | text t => exact Bool.beq_comm
    | _ => rfl
  | null => cases r <;> rfl

/-- Everything but what is not a number equals itself. -/
theorem same_self (hProper : l ≠ number .notANumber) : l.same l = true := by
  cases l with
  | bool b => exact beq_self_eq_true b
  | text s => exact beq_self_eq_true s
  | null => rfl
  | number x => exact Number.same_self fun hEq => hProper (congrArg number hEq)

/-- What counts as a number agrees in order with itself. -/
theorem order?_self_of_toNumber (hProper : l.toNumber ≠ .notANumber) : l.order? l = some .eq := by
  rcases order?_cases l l with ⟨s, t, rfl, -⟩ | ⟨hNumbers, -⟩
  · exact congrArg some Std.ReflCmp.compare_self
  · rw [hNumbers]
    exact Number.order?_of_same (Number.same_self hProper)

/-- Equal values agree in order: neither comes first. -/
theorem order?_of_same (hSame : l.same r = true) : l.order? r = some .eq := by
  cases l with
  | bool a =>
    cases r with
    | bool b =>
      have hEq : a = b := eq_of_beq hSame
      rw [← hEq]
      exact order?_self_of_toNumber (Number.ofInt_ne_notANumber _)
    | _ => cases hSame
  | number x =>
    cases r with
    | number y => exact Number.order?_of_same hSame
    | _ => cases hSame
  | text s =>
    cases r with
    | text t =>
      have hEq : s = t := eq_of_beq hSame
      rw [hEq]
      exact congrArg some Std.ReflCmp.compare_self
    | _ => cases hSame
  | null =>
    cases r with
    | null => exact order?_self_of_toNumber Number.noConfusion
    | _ => cases hSame

end Value

-- ---------------------------------------------------------------------------
-- Operators
-- ---------------------------------------------------------------------------

namespace Operator

variable {op : Operator} {l r : Value} {left : Option Value}

/-- The four operators that ask for an order. -/
def IsOrdered : Operator → Prop
  | equal | notEqual => False
  | atLeast | atMost | greater | less => True

/-- The operator that says the same with the sides exchanged. -/
def converse : Operator → Operator
  | equal => equal
  | notEqual => notEqual
  | atLeast => atMost
  | atMost => atLeast
  | greater => less
  | less => greater

/-- The operator that denies what the operator says. -/
def opposite : Operator → Operator
  | equal => notEqual
  | notEqual => equal
  | atLeast => less
  | atMost => greater
  | greater => atMost
  | less => atLeast

theorem accepts_converse (op : Operator) (o : Ordering) :
    op.converse.accepts o.swap = op.accepts o := by
  cases op <;> cases o <;> rfl

theorem accepts_opposite (hOrdered : op.IsOrdered) (o : Ordering) :
    op.opposite.accepts o = !op.accepts o := by
  cases op with
  | equal | notEqual => exact hOrdered.elim
  | _ => cases o <;> rfl

theorem isOrdered_opposite (hOrdered : op.IsOrdered) : op.opposite.IsOrdered := by
  cases op with
  | equal | notEqual => exact hOrdered.elim
  | _ => exact trivial

/-- An ordered operator holds if there is an order and the operator accepts it. -/
theorem holds_of_isOrdered (hOrdered : op.IsOrdered) (left : Option Value) (right : Value) :
    op.holds left right = (left.bind (·.order? right)).any op.accepts := by
  cases op with
  | equal | notEqual => exact hOrdered.elim
  | _ =>
    unfold holds
    cases left.bind (·.order? right) <;> rfl

/-- Every comparison can be read from the other side. -/
theorem holds_converse (op : Operator) (l r : Value) :
    op.converse.holds (some r) l = op.holds (some l) r := by
  have hOrdered : ∀ op : Operator, op.IsOrdered → op.converse.IsOrdered →
      op.converse.holds (some r) l = op.holds (some l) r := by
    intro op hHere hThere
    rw [holds_of_isOrdered hHere, holds_of_isOrdered hThere, Option.bind_some, Option.bind_some,
      Value.order?_swap l r, Option.any_map]
    exact congrArg (Option.any · (l.order? r)) (funext (accepts_converse op))
  cases op with
  | equal => exact Value.same_comm r l
  | notEqual => exact congrArg (!·) (Value.same_comm r l)
  | _ => exact hOrdered _ trivial trivial

/-- Where the sides have an order, each ordered operator denies its opposite. -/
theorem holds_opposite (hOrdered : op.IsOrdered) (hOrder : (l.order? r).isSome = true) :
    op.opposite.holds (some l) r = !op.holds (some l) r := by
  obtain ⟨o, hSome⟩ := Option.isSome_iff_exists.mp hOrder
  rw [holds_of_isOrdered hOrdered, holds_of_isOrdered (isOrdered_opposite hOrdered),
    Option.bind_some, hSome]
  exact accepts_opposite hOrdered o

/-- Without an order no ordered operator holds. -/
theorem holds_eq_false (hOrdered : op.IsOrdered) (hNone : left.bind (·.order? r) = none) :
    op.holds left r = false := by
  rw [holds_of_isOrdered hOrdered, hNone]
  rfl

/-- Between equal values an ordered operator holds if it accepts a tie. -/
theorem holds_of_equal (hOrdered : op.IsOrdered) (hEqual : equal.holds (some l) r = true) :
    op.holds (some l) r = op.accepts .eq := by
  have hOrder : l.order? r = some .eq := Value.order?_of_same hEqual
  rw [holds_of_isOrdered hOrdered, Option.bind_some, hOrder]
  rfl

/--
**The six operators fit together.** For values of whatever kinds, exchanging the
sides reverses the order, so each ordered operator says what its mirror image
says of the exchanged sides. Unequal denies equal, for an undefined left side
too. Equal values agree in order: they are at least and at most each other, and
neither greater nor less. Where there is an order, at least denies less and at
most denies greater; where there is none, or no left side, no ordered operator
holds.
-/
theorem comparisons_fit_together (l r : Value) :
    r.order? l = (l.order? r).map Ordering.swap ∧
    (greater.holds (some l) r = less.holds (some r) l ∧
      atLeast.holds (some l) r = atMost.holds (some r) l) ∧
    (∀ left : Option Value, notEqual.holds left r = !equal.holds left r) ∧
    (l.same r = true → l.order? r = some .eq) ∧
    (equal.holds (some l) r = true →
      atLeast.holds (some l) r = true ∧ atMost.holds (some l) r = true ∧
      greater.holds (some l) r = false ∧ less.holds (some l) r = false) ∧
    ((l.order? r).isSome = true →
      atLeast.holds (some l) r = (!less.holds (some l) r) ∧
      atMost.holds (some l) r = (!greater.holds (some l) r)) ∧
    ∀ left : Option Value, left = none ∨ left = some l ∧ l.order? r = none →
      atLeast.holds left r = false ∧ atMost.holds left r = false ∧
      greater.holds left r = false ∧ less.holds left r = false := by
  refine ⟨Value.order?_swap l r, ⟨?_, ?_⟩, fun _ => rfl, Value.order?_of_same, ?_, ?_, ?_⟩
  · exact (holds_converse greater l r).symm
  · exact (holds_converse atLeast l r).symm
  · intro hEqual
    exact ⟨holds_of_equal trivial hEqual, holds_of_equal trivial hEqual,
      holds_of_equal trivial hEqual, holds_of_equal trivial hEqual⟩
  · intro hOrder
    have hLess : less.IsOrdered := trivial
    have hGreater : greater.IsOrdered := trivial
    exact ⟨holds_opposite hLess hOrder, holds_opposite hGreater hOrder⟩
  · intro left hLeft
    have hNone : left.bind (·.order? r) = none := by
      rcases hLeft with rfl | ⟨rfl, hNone⟩
      · rfl
      · exact hNone
    exact ⟨holds_eq_false trivial hNone, holds_eq_false trivial hNone, holds_eq_false trivial hNone,
      holds_eq_false trivial hNone⟩

-- A text and a number can agree in order without being equal.
example : atLeast.holds (some (.text "12")) (.number (.ofInt 12)) = true ∧
    equal.holds (some (.text "12")) (.number (.ofInt 12)) = false := by
  decide +kernel

end Operator

end Gamebook
