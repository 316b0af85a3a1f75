import Gamebook.Form.Value
import Gamebook.Proofs.Entering
import Gamebook.Proofs.Literals
import Gamebook.Proofs.WrittenJson

/-!
# Gamebook — variables that are saved and loaded

Variables are saved as JSON, where the kind of a value is told by its shape alone,
and every value has its own shape but the infinities. Directives can set a
variable to one, by a number that is too large, and it is saved as null. The
other numbers are saved with digits that no other number is nearest to, but when
they are loaded they are not read to the nearest number. Names, truth values and
texts always come back, whatever characters they are made of.

* `Value.Kept` — the values that come back as they are.
* `Value.ComesBackAs` — what a value comes back as.
* `Value.read_toJson`, `Value.comesBackAs_reread` — what is read in place of a value.
* `Vars.after` — the variables that templates leave behind.
* `Vars.written` — the text of variables in a given order.
* `Vars.saved_variables_come_back` — what comes back of them.
* `Vars.some_variables_come_back_changed` — an infinity and an integer that do not.
-/

namespace Gamebook

open Json

-- ---------------------------------------------------------------------------
-- Values
-- ---------------------------------------------------------------------------

/-- An integer that is a magnitude is a number of just that size. -/
theorem Number.ofInt_eq {i : Int} (hRange : i.natAbs ≤ Magnitude.exactLimit) :
    ofInt i = finite (decide (i < 0)) (.whole i.natAbs hRange) := by
  rw [ofInt, Magnitude.ofRatio?_one hRange]
  rfl

namespace Value

/-- The values that come back from JSON as they are. Of the numbers these are the integers up to a
limit, and those whose digits and power of ten are binary64 numbers themselves. -/
inductive Kept : Value → Prop
  | bool (b : Bool) : Kept (bool b)
  | text (s : String) : Kept (text s)
  | null : Kept null
  | integer {i : Int} (hRange : i.natAbs ≤ Numeral.keptLimit) : Kept (number (.ofInt i))
  | fitting {negative : Bool} {m : Magnitude} {n : Numeral}
      (hWritten : n.WrittenAs ((Number.finite negative m).write .json)) (hFits : n.Fits) :
      Kept (number (.finite negative m))

/-- What a value comes back as. -/
inductive ComesBackAs : Value → Value → Prop
  | same {v : Value} (hKept : Kept v) : ComesBackAs v v
  /-- JSON has no infinities. -/
  | infinite (negative : Bool) : ComesBackAs (number (.infinite negative)) null
  /-- A number is not always read to the nearest one, but its sign and that it is finite stay. -/
  | finite {negative : Bool} {m : Magnitude} (hOther : ¬Kept (number (.finite negative m)))
      (m' : Magnitude) : ComesBackAs (number (.finite negative m)) (number (.finite negative m'))

/-- A kept number is one of the integers or fits. -/
theorem kept_number_iff {x : Number} : Kept (number x) ↔
    (∃ i : Int, i.natAbs ≤ Numeral.keptLimit ∧ x = .ofInt i) ∨
    ∃ (negative : Bool) (m : Magnitude) (n : Numeral), x = .finite negative m ∧
      n.WrittenAs ((Number.finite negative m).write .json) ∧ n.Fits := by
  constructor
  · intro hKept
    generalize hValue : number x = v at hKept
    cases hKept with
    | bool b => cases hValue
    | text s => cases hValue
    | null => cases hValue
    | @integer i hRange => exact Or.inl ⟨i, hRange, number.inj hValue⟩
    | fitting hWritten hFits => exact Or.inr ⟨_, _, _, number.inj hValue, hWritten, hFits⟩
  · rintro (⟨i, hRange, hInteger⟩ | ⟨negative, m, n, rfl, hWritten, hFits⟩)
    · rw [hInteger]
      exact .integer hRange
    · exact .fitting hWritten hFits

theorem le_exactLimit {i : Int} (hRange : i.natAbs ≤ Numeral.keptLimit) :
    i.natAbs ≤ Magnitude.exactLimit := by
  have hLimits : Numeral.keptLimit ≤ Magnitude.exactLimit := by decide
  exact Nat.le_trans hRange hLimits

/-- What a kept number is written as is read as the same number. -/
theorem Kept.read_eq {negative : Bool} {m : Magnitude} (hKept : Kept (number (.finite negative m)))
    {n : Numeral} (hWritten : n.WrittenAs ((Number.finite negative m).write .json)) :
    n.read = .ok (.real (.finite negative m)) := by
  obtain ⟨n', m', hWritten', hRead, hFits, hWhole⟩ := Number.exists_written negative m
  obtain rfl := writtenAs_unique hWritten hWritten'
  suffices hSame : m' = m by rw [hRead, hSame]
  rcases kept_number_iff.mp hKept with ⟨i, hRange, hInteger⟩ | ⟨_, _, n, hNumber, hOther, hFitting⟩
  · rw [Number.ofInt_eq (le_exactLimit hRange)] at hInteger
    cases hInteger
    exact hWhole _ hRange rfl
  · cases hNumber
    exact hFits (writtenAs_unique hWritten hOther ▸ hFitting)

variable {v w : Value}

/-- A kept value comes back as itself. -/
theorem Kept.eq_of_comesBackAs (hKept : v.Kept) (hBack : v.ComesBackAs w) : w = v := by
  cases hBack with
  | same _ => rfl
  | infinite negative =>
    rcases kept_number_iff.mp hKept with ⟨i, hRange, hInteger⟩ | ⟨_, _, _, hFinite, -⟩
    · rw [Number.ofInt_eq (le_exactLimit hRange)] at hInteger
      cases hInteger
    · cases hFinite
  | finite hOther m' => exact absurd hKept hOther

/-- The value that is read from what a value is written as. -/
def reread (v : Value) : Value := (ofSyntax v.toJson.tree).toOption.getD null

/-- Reading a value from its tree never fails. -/
theorem read_toJson (v : Value) (depth : Nat) : reader depth v.toJson.tree = .ok v.reread := by
  cases v with
  | bool b => rfl
  | text s => rfl
  | null => rfl
  | number x =>
    cases x with
    | notANumber => rfl
    | infinite negative => rfl
    | finite negative m =>
      obtain ⟨n, m', hWritten, hRead, -⟩ := Number.exists_written negative m
      rw [reread, toJson, tree_finite hWritten, reader, Syntax.check, hRead]
      simp only [bind, Except.bind, Except.map, ofSyntax, hRead]
      rfl

theorem comesBackAs_reread (hProper : v ≠ number .notANumber) : v.ComesBackAs v.reread := by
  cases v with
  | bool b => exact .same (.bool b)
  | text s => exact .same (.text s)
  | null => exact .same .null
  | number x =>
    cases x with
    | notANumber => exact absurd rfl hProper
    | infinite negative => exact .infinite negative
    | finite negative m =>
      obtain ⟨n, m', hWritten, hRead, -⟩ := Number.exists_written negative m
      have hReread : (number (.finite negative m)).reread = number (.finite negative m') := by
        rw [reread, toJson, tree_finite hWritten, ofSyntax, hRead]
        rfl
      rw [hReread]
      by_cases hKept : Kept (number (.finite negative m))
      · have hSame := hKept.read_eq hWritten
        rw [hRead] at hSame
        cases hSame
        exact .same hKept
      · exact .finite hKept m'

end Value

-- ---------------------------------------------------------------------------
-- Variables
-- ---------------------------------------------------------------------------

namespace Vars

variable {vars : Vars} {name : String} {v : Value}

/-- The variables that templates leave behind, one template after the other, from none. -/
def after (templates : List String) : Vars :=
  templates.foldl (fun vars template => (Template.process template vars).2) ∅

/-- No variable is set to something that is called a number and is none. -/
theorem ne_notANumber_of_after (templates : List String)
    (hValue : (after templates)[name]? = some v) : v ≠ .number .notANumber := by
  -- The variables that a template finds are generalized to any that hold proper numbers.
  suffices hAll : ∀ vars : Vars,
      (∀ (name : String) (v : Value), vars[name]? = some v → v ≠ .number .notANumber) →
      ∀ (name : String) (v : Value),
        (templates.foldl (fun vars template => (Template.process template vars).2) vars)[name]? =
          some v → v ≠ .number .notANumber by
    refine hAll ∅ (fun name v hNone => ?_) name v hValue
    rw [Std.ExtTreeMap.getElem?_empty] at hNone
    cases hNone
  clear hValue
  induction templates with
  | nil => exact fun vars hVars => hVars
  | cons template templates ih =>
    intro vars hVars
    rw [List.foldl_cons]
    refine ih _ fun name v hValue => ?_
    rw [Template.getElem?_process] at hValue
    split at hValue
    · cases hValue
      exact Value.ofLiteral_ne_notANumber _
    · exact hVars name v hValue

/-- The object that has these variables as its members, in this order. -/
def object (members : List (String × Value)) : Json :=
  .object [("variables", .object (members.map fun m => (m.1, m.2.toJson)))]

/-- The text of that object. -/
def written (members : List (String × Value)) : String := (object members).text

/-- Members that are written are read back one by one. -/
theorem read_written (members : List (String × Value)) : ofText reader (written members) =
    .ok (members.foldl (fun vars m => vars.insert m.1 m.2.reread) ∅) := by
  let back := members.map fun m => (m.1, m.2.reread)
  -- The limit of nesting leaves room for the variables and their values.
  have hPairs : Reader.pairs Value.reader 127
      (Json.object (members.map fun m => (m.1, m.2.toJson))).tree = .ok back :=
    pairs_tree_map fun m _ => m.2.read_toJson 126
  have hTree : (object members).tree = .object [(⟨.ok "variables", .ok ()⟩,
      (Json.object (members.map fun m => (m.1, m.2.toJson))).tree)] .closed := rfl
  have hFill : ((Reader.pairs Value.reader 127
      (Json.object (members.map fun m => (m.1, m.2.toJson))).tree).bind fun members =>
        .ok { ({} : Partly) with members := some members }) = .ok { members := some back } := by
    rw [hPairs]
    rfl
  have hRead : reader depthLimit (object members).tree =
      .ok (back.foldl (fun vars m => vars.insert m.1 m.2) ∅) := by
    rw [reader, hTree, depthLimit, Record.read_object, record,
      Record.fillMembers_cons rfl rfl hFill]
    rfl
  rw [List.foldl_map] at hRead
  exact ofText_text hRead

/-- Variables are read back value by value, in whatever order they are written. -/
theorem ofText_written (vars : Vars) : ∃ back : Vars,
    (∀ members : List (String × Value), members.Perm vars.toList →
      ofText reader (written members) = .ok back) ∧
    ∀ name : String, back[name]? = vars[name]?.map Value.reread := by
  refine ⟨_, fun members hPerm => ?_, getElem?_foldl_toList vars Value.reread⟩
  rw [read_written]
  exact congrArg Except.ok (foldl_insert_perm hPerm (nodup_names vars) Value.reread ∅)

/--
**Saved variables come back, but for some numbers.** Whatever templates set the
variables, the JSON that they are saved as is read without failing, and gives the same
in whatever order its members stand. The names are those that were saved. A truth
value, a text, null and a number that is kept come back as they are, an infinity comes
back as null, and every other number as a finite one of the same sign. So the
variables come back equal if all their values are kept.
-/
theorem saved_variables_come_back (templates : List String) :
    ∃ back : Vars, ofText reader (after templates).toJson.text = .ok back ∧
      (∀ members : List (String × Value), members.Perm (after templates).toList →
        ofText reader (written members) = .ok back) ∧
      (∀ name : String, name ∈ back ↔ name ∈ after templates) ∧
      (∀ (name : String) (v : Value), (after templates)[name]? = some v →
        ∃ w, back[name]? = some w ∧ v.ComesBackAs w) ∧
      ((∀ (name : String) (v : Value), (after templates)[name]? = some v → v.Kept) →
        back = after templates) := by
  obtain ⟨back, hRead, hValues⟩ := ofText_written (after templates)
  have hEach : ∀ (name : String) (v : Value), (after templates)[name]? = some v →
      back[name]? = some v.reread ∧ v.ComesBackAs v.reread := by
    intro name v hValue
    rw [hValues, hValue]
    exact ⟨rfl, Value.comesBackAs_reread (ne_notANumber_of_after templates hValue)⟩
  refine ⟨back, hRead _ (.refl _), hRead, fun name => ?_,
    fun name v hValue => ⟨_, hEach name v hValue⟩, ?_⟩
  · rw [Std.ExtTreeMap.mem_iff_isSome_getElem?, Std.ExtTreeMap.mem_iff_isSome_getElem?, hValues,
      Option.isSome_map]
  · intro hKept
    refine Std.ExtTreeMap.ext_getElem? fun name => ?_
    cases hValue : (after templates)[name]? with
    | none => rw [hValues, hValue, Option.map_none]
    | some v =>
      obtain ⟨hBack, hSame⟩ := hEach name v hValue
      rw [hBack, (hKept name v hValue).eq_of_comesBackAs hSame]

/-- An infinity comes back as null, and one integer above the limit comes back as another number. -/
theorem some_variables_come_back_changed :
    let vars := after ["\x7bset x = 1e400\x7d", "\x7bset n = 1801439850948199\x7d"]
    vars["x"]? = some (.number (.infinite false)) ∧
    vars["n"]? = some (.number (.ofInt 1801439850948199)) ∧
    ∃ back : Vars, ofText reader vars.toJson.text = .ok back ∧
      back["x"]? = some .null ∧
      back["n"]? = some (.number (.ofMagnitude? false (Magnitude.ofRatio? 7205759403792797 4))) ∧
      back ≠ vars := by
  intro vars
  have hInfinite : vars["x"]? = some (.number (.infinite false)) := by decide +kernel
  have hInteger : vars["n"]? = some (.number (.ofInt 1801439850948199)) := by decide +kernel
  have hReread : (Value.number (.ofInt 1801439850948199)).reread =
      .number (.ofMagnitude? false (Magnitude.ofRatio? 7205759403792797 4)) := by decide +kernel
  obtain ⟨back, hRead, hValues⟩ := ofText_written vars
  have hNull : back["x"]? = some .null := by
    rw [hValues, hInfinite]
    rfl
  refine ⟨hInfinite, hInteger, back, hRead _ (.refl _), hNull, ?_, ?_⟩
  · rw [hValues, hInteger, Option.map_some, hReread]
  · intro hSame
    rw [hSame, hInfinite] at hNull
    cases hNull

end Vars

end Gamebook
