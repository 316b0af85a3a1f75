import Gamebook.Proofs.Assignment
import Gamebook.Proofs.Interpolation

/-!
# Gamebook — entering a scene

Directives and placeholders may stand in a template in any order, and a variable
may be set more than once. Still no placeholder ever shows a value that is
overwritten behind it: the whole template is carried out before the first value
is put in. So a template acts on the variables as one change, the same whatever
they are before, and its text is filled from the variables that are left.

* `getElem?_process` — a variable after the template.
* `toList_process_of_has` — what is shown where a placeholder stands.
* `process_congr` — directives of different names may stand in any order and
  anywhere.
* `enters_with_last_values` — all of it, for any template.
-/

namespace Gamebook.Template

open Text

variable {template template' w : String} {before behind : List Char} {vars : Vars} {v : Value}

-- ---------------------------------------------------------------------------
-- The variables
-- ---------------------------------------------------------------------------

theorem process_vars (template : String) (vars : Vars) :
    (process template vars).2 = assign template vars := by
  rw [process_eq]

/-- The last directive of a name decides, or else the variable stays as it was. -/
theorem getElem?_process (template : String) (vars : Vars) (name : String) :
    (process template vars).2[name]? =
      match ((directives template).filter (·.target == name)).getLast? with
      | some d => some d.assigned
      | none => vars[name]? := by
  rw [process_vars, assign, Directive.getElem?_foldl]
  cases ((directives template).filter (·.target == name)).getLast? with
  | some d => rfl
  | none => rfl

-- ---------------------------------------------------------------------------
-- The text
-- ---------------------------------------------------------------------------

/-- The text is filled from the variables that are left in the end. -/
theorem process_text (template : String) (vars : Vars) :
    (process template vars).1 = fill template (process template vars).2 := by
  rw [process_eq, shown]

/-- Wherever a placeholder stands, it shows the value that its variable has in the end. -/
theorem toList_process_of_has (hHas : Has template w before behind)
    (hValue : (process template vars).2[w]? = some v) :
    (process template vars).1.toList =
      interpolate (process template vars).2 (trimStart before) ++
        (v.display.toList ++ interpolate (process template vars).2 (trimEnd behind)) := by
  have hShown :
      Piece.fill (process template vars).2 (.placeholder w.toList) = v.display.toList := by
    rw [Piece.fill, String.ofList_toList, hValue]
  rw [process_text, toList_fill_of_has hHas, hShown]

/-- Neither the places of the directives count nor their order, but for those of one name. -/
theorem process_congr (hText : stripped template' = stripped template)
    (hSame : ∀ name, ((directives template').filter (·.target == name)).map Directive.value =
      ((directives template).filter (·.target == name)).map Directive.value) (vars : Vars) :
    process template' vars = process template vars := by
  have hAssign : assign template' vars = assign template vars :=
    Directive.foldl_setIn_congr hSame vars
  rw [process_eq, process_eq, shown, shown, fill, fill, hText, hAssign]

-- ---------------------------------------------------------------------------
-- Entering
-- ---------------------------------------------------------------------------

/--
**A scene is entered with the last values.** After a template each variable has
the value of the last directive that sets it, or its old one if none does; what
changes and what text is left do not depend on the variables before. The text is
what stands between the directives without the blanks at its ends, cut at all of
its placeholders, each of them filled with the value that its variable has in the
end if it has one. So it makes no difference whether a placeholder stands in front
of the directives, behind them or between two of them, nor in which order the
directives of different names stand.
-/
theorem enters_with_last_values (template : String) :
    (∀ (vars : Vars) (name : String), (process template vars).2[name]? =
      match ((directives template).filter (·.target == name)).getLast? with
      | some d => some (.ofLiteral (String.ofList d.value))
      | none => vars[name]?) ∧
    (∃ changes : Vars, ∀ vars : Vars,
      (apply template vars).1 = trim ((segments template).flatMap Segment.text) ∧
      ∀ name : String, (process template vars).2[name]? = changes[name]?.or vars[name]?) ∧
    (∃ cut : Cut, cut.Of (trim ((segments template).flatMap Segment.text)) ∧
      ∀ vars : Vars, (process template vars).1.toList = cut.filled fun name =>
        match (process template vars).2[String.ofList name]? with
        | some v => v.display.toList
        | none => '\x7b' :: (name ++ ['\x7d'])) ∧
    (∀ w before behind, Has template w before behind → ∀ (vars : Vars) (v : Value),
      (process template vars).2[w]? = some v → (process template vars).1.toList =
        interpolate (process template vars).2 (trimStart before) ++
          (v.display.toList ++ interpolate (process template vars).2 (trimEnd behind))) ∧
    ∀ template' : String, stripped template' = stripped template →
      (∀ name, ((directives template').filter (·.target == name)).map Directive.value =
        ((directives template).filter (·.target == name)).map Directive.value) →
      ∀ vars : Vars, process template' vars = process template vars := by
  refine ⟨fun vars name => getElem?_process template vars name, ?_, ?_, ?_, ?_⟩
  · refine ⟨assign template ∅, fun vars => ⟨?_, fun name => ?_⟩⟩
    · rw [apply_eq, stripped]
    · rw [process_vars, assign, assign, Directive.getElem?_foldl_empty]
  · refine ⟨Cut.ofPieces (Piece.all (stripped template)), Cut.of_ofPieces _, fun vars => ?_⟩
    rw [process_text, fill, String.toList_ofList, interpolate]
    exact (Cut.filled_ofPieces (fun _ => rfl) (Piece.all (stripped template))).symm
  · intro w before behind hHas vars v hValue
    exact toList_process_of_has hHas hValue
  · intro template' hText hSame vars
    exact process_congr hText hSame vars

-- Every placeholder shows the last value of its variable, also one in front of all directives.
example : process
    "\x7bx\x7d\x7bset x = 1\x7d \x7bx\x7d \x7bset y = no\x7d\x7bset x = 2\x7d\x7by\x7d"
    (Std.ExtTreeMap.ofList [("x", Value.null)]) =
      ("2 2 no", Std.ExtTreeMap.ofList [("x", Value.ofLiteral "2"), ("y", .text "no")]) := by
  decide +kernel

end Gamebook.Template
