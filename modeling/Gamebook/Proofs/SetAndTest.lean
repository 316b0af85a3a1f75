import Gamebook.Proofs.Comparisons
import Gamebook.Proofs.OperatorLaws
import Gamebook.Proofs.WrittenDirectives

/-!
# Gamebook — what is set is what is tested

A directive and a condition find their literal in different ways: the directive
leaves out the blanks behind its equals sign, as many as it can, and reads to
the closing brace; the condition is cut at its operator. If the literal has
none of the characters that would end it for one of the two, both read the same
value, so a variable equals the literal that it was set to.

* `assign_set`, `vars_process_set` — a template that is one directive sets its variable to the
  literal.
* `parse_comparison` — a condition compares its variable with the literal.
* `set_then_tested` — both together.
-/

namespace Gamebook

open Text

variable {x lit : String} {vars : Vars}

/-- A literal that ends neither a directive nor a condition: not blank, on one line, without a
closing brace and without the characters of operators. -/
structure IsEnclosed (lit : String) : Prop where
  notBlank : ∃ c ∈ lit.toList, isBlank c = false
  line : ∀ c ∈ lit.toList, c ≠ '\x7d' ∧ isLineEnd c = false
  marks : ∀ c ∈ lit.toList, c ∉ Operator.marks

theorem isEnclosed_iff : IsEnclosed lit ↔ (∃ c ∈ lit.toList, isBlank c = false) ∧
    (∀ c ∈ lit.toList, c ≠ '\x7d' ∧ isLineEnd c = false) ∧
    ∀ c ∈ lit.toList, c ∉ Operator.marks :=
  ⟨fun hLit => ⟨hLit.notBlank, hLit.line, hLit.marks⟩,
    fun ⟨hBlank, hLine, hMarks⟩ => ⟨hBlank, hLine, hMarks⟩⟩

instance decidableIsEnclosed (lit : String) : Decidable (IsEnclosed lit) :=
  have := List.decidableBEx (fun c => isBlank c = false) lit.toList
  have := List.decidableBAll (fun c => c ≠ '\x7d' ∧ isLineEnd c = false) lit.toList
  have := List.decidableBAll (fun c => c ∉ Operator.marks) lit.toList
  decidable_of_iff _ isEnclosed_iff.symm

theorem IsEnclosed.fits (hLit : IsEnclosed lit) : FitsDirective lit := ⟨hLit.notBlank, hLit.line⟩

-- ---------------------------------------------------------------------------
-- The two ways to find a literal
-- ---------------------------------------------------------------------------

/-- A template that is one directive sets its variable to the literal. -/
theorem Template.assign_set (hName : IsVariable x) (hLit : IsEnclosed lit) (vars : Vars) :
    assign ("\x7bset " ++ x ++ " = " ++ lit ++ "\x7d") vars = vars.insert x (.ofLiteral lit) := by
  have hScan : Segment.all (Directive.spaced x lit).source = [.directive (.spaced x lit)] := by
    have hRest := Segment.all_spaced hName hLit.fits []
    rwa [List.append_nil, Segment.all] at hRest
  rw [← Directive.setIn_spaced, assign, directives, segments, ← Directive.source_spaced, hScan]
  rfl

/-- After such a template the variable has the value that the literal writes. -/
theorem Template.vars_process_set (hName : IsVariable x) (hLit : IsEnclosed lit) (vars : Vars) :
    (process ("\x7bset " ++ x ++ " = " ++ lit ++ "\x7d") vars).2 =
      vars.insert x (.ofLiteral lit) := by
  rw [← assign_set hName hLit vars]
  exact congrArg Prod.snd (process_eq _ vars)

/-- A text without blanks has nothing to trim away. -/
theorem Text.trimmed_of_forall (hProper : ∀ c ∈ lit.toList, isBlank c = false) :
    trimmed lit = lit := by
  have hStart : trimStart lit.toList = lit.toList :=
    dropWhile_run (List.forall_mem_nil _) fun c hHead => hProper c (List.mem_of_mem_head? hHead)
  have hReversed : lit.toList.reverse.dropWhile isBlank = lit.toList.reverse :=
    dropWhile_run (List.forall_mem_nil _) fun c hHead =>
      hProper c (List.mem_reverse.mp (List.mem_of_mem_head? hHead))
  rw [trimmed, trim, hStart, trimEnd, hReversed, List.reverse_reverse, String.ofList_toList]

theorem IsVariable.trimmed_eq (hName : IsVariable x) : trimmed x = x :=
  trimmed_of_forall fun c hMem => isBlank_eq_false_of_isWordChar (hName.2 c hMem)

/-- A condition compares its variable with the literal. -/
theorem Condition.parse_comparison (hName : IsVariable x) (hLit : IsEnclosed lit) (op : Operator) :
    parse (x ++ " " ++ op.symbol ++ " " ++ lit) = .ok ⟨x, op, .ofLiteral lit⟩ := by
  have hUnmarked : Unmarked x :=
    fun c hMem => Operator.not_mem_marks (by decide) (hName.2 c hMem)
  have hSpace : AllBlank " " := by decide
  have hNone : AllBlank "" := by decide
  have hRead := (parse_spaced hNone hUnmarked hSpace hSpace hLit.marks hNone op).1
  rwa [String.empty_append, String.append_empty, hName.trimmed_eq] at hRead

/-- Whether a comparison lets a choice be seen. -/
theorem Condition.visible_comparison (hName : IsVariable x) (hLit : IsEnclosed lit) (op : Operator)
    (vars : Vars) : visible vars (some (x ++ " " ++ op.symbol ++ " " ++ lit)) =
      .ok (op.holds vars[x]? (.ofLiteral lit)) := by
  have hNonempty : (x ++ " " ++ op.symbol ++ " " ++ lit).isEmpty = false := by
    rw [Bool.eq_false_iff, ne_eq, String.isEmpty_iff, ← String.toList_eq_nil_iff]
    simp
  simp only [visible, hNonempty, Bool.false_eq_true, if_false, parse_comparison hName hLit op,
    Except.map, holds]

-- ---------------------------------------------------------------------------
-- Both together
-- ---------------------------------------------------------------------------

/-- **What is set is what is tested.** A template that sets a variable to a literal leaves the
variable with exactly the value that a condition on it compares with, whichever its operator is,
and leaves every other variable alone; so the variable is equal to the literal from then on. -/
theorem set_then_tested (hName : IsVariable x) (hLit : IsEnclosed lit) (vars : Vars) :
    let after := (Template.process ("\x7bset " ++ x ++ " = " ++ lit ++ "\x7d") vars).2
    after[x]? = some (.ofLiteral lit) ∧
    (∀ name, name ≠ x → after[name]? = vars[name]?) ∧
    (∀ op : Operator, ∃ c, Condition.parse (x ++ " " ++ op.symbol ++ " " ++ lit) = .ok c ∧
      c.name = x ∧ c.op = op ∧ after[x]? = some c.operand) ∧
    Condition.visible after (some (x ++ " == " ++ lit)) = .ok true ∧
    Condition.visible after (some (x ++ " != " ++ lit)) = .ok false := by
  intro after
  have hAfter : after = vars.insert x (.ofLiteral lit) := Template.vars_process_set hName hLit vars
  have hSet : after[x]? = some (.ofLiteral lit) := by
    rw [hAfter, Std.ExtTreeMap.getElem?_insert_self]
  have hEqual : Operator.equals after[x]? (.ofLiteral lit) = true := by
    rw [hSet]
    exact Value.same_self (Value.ofLiteral_ne_notANumber lit)
  refine ⟨hSet, ?_, ?_, ?_, ?_⟩
  · intro name hOther
    rw [hAfter, Std.ExtTreeMap.getElem?_insert]
    exact if_neg fun hEq => hOther (Std.LawfulEqCmp.eq_of_compare hEq).symm
  · intro op
    exact ⟨_, Condition.parse_comparison hName hLit op, rfl, rfl, hSet⟩
  · have hSource : x ++ " == " ++ lit = x ++ " " ++ Operator.symbol .equal ++ " " ++ lit := by
      simp [Operator.symbol, String.append_assoc]
    rw [hSource, Condition.visible_comparison hName hLit .equal]
    exact congrArg Except.ok hEqual
  · have hSource : x ++ " != " ++ lit = x ++ " " ++ Operator.symbol .notEqual ++ " " ++ lit := by
      simp [Operator.symbol, String.append_assoc]
    rw [hSource, Condition.visible_comparison hName hLit .notEqual]
    exact congrArg (fun b => Except.ok !b) hEqual

/-- A number that is out of range is set and tested like any other literal. -/
theorem set_then_tested_huge :
    Condition.visible
      (Template.process ("\x7bset " ++ "luck_2" ++ " = " ++ " -1e400" ++ "\x7d") ∅).2
      (some ("luck_2" ++ " == " ++ " -1e400")) = .ok true := by
  have hName : IsVariable "luck_2" := by decide
  have hLit : IsEnclosed " -1e400" := by decide
  exact (set_then_tested hName hLit ∅).2.2.2.1

end Gamebook
