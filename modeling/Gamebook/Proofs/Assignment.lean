import Gamebook.Proofs.Overwriting
import Gamebook.Template.Basic

/-!
# Gamebook — what directives do to the variables

Directives are carried out from left to right, so a variable ends with the value
of the last directive that sets it, keeps its old value if none does, and is
never forgotten.

* `getElem?_foldl` — the value of any variable.
* `getElem?_foldl_of_forall_ne` — a variable that no directive sets.
* `getElem?_foldl_of_last` — a variable and the last directive that sets it.
* `getElem?_foldl_empty` — what changes does not depend on the variables before.
* `foldl_setIn_congr` — directives of different names may stand in any order.
* `mem_foldl_iff` — the variables that are defined in the end.
-/

namespace Gamebook.Directive

variable {vars : Vars} {d : Directive} {ds ds' : List Directive} {name : String}

theorem mem_setIn_iff : name ∈ d.setIn vars ↔ d.target = name ∨ name ∈ vars := by
  rw [setIn, Std.ExtTreeMap.mem_insert, Std.LawfulEqCmp.compare_eq_iff_eq]

/-- The last directive that sets a variable decides its value, or else it keeps the old one. -/
theorem getElem?_foldl (ds : List Directive) (vars : Vars) (name : String) :
    (ds.foldl setIn vars)[name]? =
      ((ds.filter (·.target == name)).getLast?.map assigned).or vars[name]? :=
  getElem?_foldl_insert target assigned ds vars name

/-- Directives leave a variable alone that none of them sets. -/
theorem getElem?_foldl_of_forall_ne (hNames : ∀ d ∈ ds, d.target ≠ name) :
    (ds.foldl setIn vars)[name]? = vars[name]? := by
  have hNone : ds.filter (·.target == name) = [] := by
    rw [List.filter_eq_nil_iff]
    intro d hMem hName
    exact hNames d hMem (eq_of_beq hName)
  rw [getElem?_foldl, hNone]
  rfl

/-- The last directive that sets a variable decides its value. -/
theorem getElem?_foldl_of_last {before behind : List Directive}
    (hLast : ∀ d' ∈ behind, d'.target ≠ d.target) :
    ((before ++ d :: behind).foldl setIn vars)[d.target]? = some d.assigned := by
  rw [List.foldl_append, List.foldl_cons, getElem?_foldl_of_forall_ne hLast, setIn,
    Std.ExtTreeMap.getElem?_insert_self]

/-- What directives change does not depend on the variables that were there before. -/
theorem getElem?_foldl_empty (ds : List Directive) (vars : Vars) (name : String) :
    (ds.foldl setIn vars)[name]? = (ds.foldl setIn ∅)[name]?.or vars[name]? := by
  have hEmpty : (∅ : Vars)[name]? = none := Std.ExtTreeMap.getElem?_empty
  rw [getElem?_foldl, getElem?_foldl, hEmpty, Option.or_none]

/-- Only the order among the directives of one name counts. -/
theorem foldl_setIn_congr (hSame : ∀ name, (ds'.filter (·.target == name)).map value =
    (ds.filter (·.target == name)).map value) (vars : Vars) :
    ds'.foldl setIn vars = ds.foldl setIn vars := by
  have hAssigned : ∀ ds : List Directive, ds.map assigned =
      (ds.map value).map fun cs => .ofLiteral (String.ofList cs) := by
    intro ds
    rw [List.map_map]
    rfl
  have hValues : ∀ name, (ds'.filter (·.target == name)).map assigned =
      (ds.filter (·.target == name)).map assigned := by
    intro name
    rw [hAssigned, hAssigned, hSame]
  exact foldl_insert_congr hValues vars

/-- Directives define the variables that they set, and no others. -/
theorem mem_foldl_iff :
    name ∈ ds.foldl setIn vars ↔ name ∈ vars ∨ ∃ d ∈ ds, d.target = name := by
  induction ds generalizing vars with
  | nil => simp only [List.foldl_nil, List.not_mem_nil, false_and, exists_false, or_false]
  | cons d ds ih =>
    simp only [List.mem_cons, exists_eq_or_imp]
    rw [List.foldl_cons, ih, mem_setIn_iff, or_assoc, or_left_comm]

/-- Directives never forget a variable. -/
theorem mem_foldl_of_mem (hMem : name ∈ vars) :
    name ∈ ds.foldl setIn vars :=
  mem_foldl_iff.mpr (Or.inl hMem)

end Gamebook.Directive
