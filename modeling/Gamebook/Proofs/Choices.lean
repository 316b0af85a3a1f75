import Gamebook.Proofs.Moves
import Gamebook.Session.View

/-!
# Gamebook — what is shown is what is chosen

The choices of a view are numbered behind the filter that leaves out those that
cannot be seen, and a move names a choice by that number. The available choices
are worked out anew for the view, for each choice's text, for the end of the
story and for every move; all of them mean the same list.

* `Choice.Open` — when a choice can be seen, told by its condition alone.
* `parse_eq_ok_iff` — a text is a condition exactly if an operator occurs in it.
* `available_eq_filter` — the available choices are the open ones, in order.
* `shown_is_chosen` — wherever a session has come to, the number at which a
  choice is shown is the number that follows it.
-/

namespace Gamebook

-- ---------------------------------------------------------------------------
-- Conditions with an operator
-- ---------------------------------------------------------------------------

namespace Operator

variable {symbol cs : List Char} {source : String}

/-- A text can be cut at a symbol exactly if the symbol occurs in it. -/
theorem isSome_cut?_iff (hSymbol : symbol ≠ []) :
    (cut? symbol cs).isSome = true ↔ symbol <:+: cs := by
  induction cs with
  | nil =>
    rw [cut?, List.infix_nil]
    constructor
    · intro hSome
      cases hSome
    · intro hNil
      exact absurd hNil hSymbol
  | cons c cs ih =>
    rw [cut?, List.infix_cons_iff, ← ih, ← List.isPrefixOf_iff_prefix]
    cases hPrefix : symbol.isPrefixOf (c :: cs) with
    | true => simp only [if_true, Option.isSome_some, true_or]
    | false => simp only [Bool.false_eq_true, if_false, Option.isSome_map, false_or]

theorem symbol_ne_nil (op : Operator) : op.symbol.toList ≠ [] := by
  cases op <;> decide

theorem mem_all (op : Operator) : op ∈ all := by
  cases op <;> decide

theorem isSome_find?_iff :
    (find? source).isSome = true ↔ ∃ op : Operator, op.symbol.toList <:+: source.toList := by
  rw [find?, List.find?_isSome]
  constructor
  · rintro ⟨op, -, hOccurs⟩
    exact ⟨op, (isSome_cut?_iff op.symbol_ne_nil).mp hOccurs⟩
  · rintro ⟨op, hInfix⟩
    exact ⟨op, op.mem_all, (isSome_cut?_iff op.symbol_ne_nil).mpr hInfix⟩

end Operator

theorem Condition.parse_eq_ok_iff {source : String} : (∃ c, parse source = .ok c) ↔
    ∃ op : Operator, op.symbol.toList <:+: source.toList := by
  rw [← Operator.isSome_find?_iff, parse]
  cases Operator.find? source with
  | none => simp only [reduceCtorEq, exists_false, Option.isSome_none, Bool.false_eq_true]
  | some op => exact ⟨fun _ => rfl, fun _ => ⟨_, rfl⟩⟩

-- ---------------------------------------------------------------------------
-- Open choices
-- ---------------------------------------------------------------------------

/-- A choice without a condition is open, and so is one with an empty condition or with a
condition that has an operator and holds. -/
def Choice.Open (choice : Choice) (vars : Vars) : Prop :=
  choice.condition = none ∨ choice.condition = some "" ∨
    ∃ source, choice.condition = some source ∧
      (∃ op : Operator, op.symbol.toList <:+: source.toList) ∧
      ∃ c, Condition.parse source = .ok c ∧ c.holds vars = true

namespace Session

variable {s : Session} {choice : Choice} {scene : Scene} {index : Nat}

/-- The choices that can be seen are the open ones. -/
theorem sees_iff : s.sees choice = true ↔ choice.Open s.vars := by
  unfold sees Choice.Open
  cases choice.condition with
  | none => exact ⟨fun _ => Or.inl rfl, fun _ => rfl⟩
  | some source =>
    simp only [reduceCtorEq, Option.some.injEq, exists_eq_left', false_or]
    rw [← Condition.parse_eq_ok_iff, Condition.visible]
    cases hEmpty : source.isEmpty with
    | true => exact ⟨fun _ => Or.inl (String.isEmpty_iff.mp hEmpty), fun _ => rfl⟩
    | false =>
      have hSource : source ≠ "" := by
        intro hEq
        rw [hEq] at hEmpty
        cases hEmpty
      simp only [hSource, false_or, Bool.false_eq_true, if_false]
      cases Condition.parse source with
      | error cause => simp [Except.map]
      | ok c => simp [Except.map]

end Session

instance Choice.decidableOpen (choice : Choice) (vars : Vars) : Decidable (choice.Open vars) :=
  decidable_of_iff _ (Session.sees_iff (s := { Session.blank with vars := vars }))

namespace Session

variable {s : Session} {choice : Choice} {scene : Scene} {index : Nat}

/-- The available choices are the open ones of the current scene, in their order and as often as
they stand there. -/
theorem available_eq_filter (hCurrent : s.scene? = some scene) :
    s.available = scene.choices.filter fun choice => decide (choice.Open s.vars) := by
  rw [available, hCurrent]
  refine List.filter_congr fun choice _ => ?_
  rw [Bool.eq_iff_iff, sees_iff, decide_eq_true_iff]

-- ---------------------------------------------------------------------------
-- Views
-- ---------------------------------------------------------------------------

/-- A view shows the available choices with their places. -/
theorem getElem?_view (s : Session) (index : Nat) :
    s.view.choices[index]? = s.available[index]?.map fun choice => ⟨index, choice.text⟩ := by
  show (ChoiceView.number s.available)[index]? = _
  rw [ChoiceView.number, List.getElem?_map, List.getElem?_zipIdx, Option.map_map, Nat.zero_add]
  rfl

theorem length_view (s : Session) : s.view.choices.length = s.choiceCount := by
  show (ChoiceView.number s.available).length = _
  rw [ChoiceView.number, List.length_map, List.length_zipIdx, choiceCount]

theorem choiceText?_eq_view (s : Session) (index : Nat) :
    s.choiceText? index = s.view.choices[index]?.map ChoiceView.text := by
  rw [getElem?_view, choiceText?, Option.map_map]
  rfl

theorem view_finished_iff : s.view.finished = true ↔ s.choiceCount = 0 := by
  rw [← length_view, List.length_eq_zero_iff]
  exact List.isEmpty_iff

-- ---------------------------------------------------------------------------
-- Choosing
-- ---------------------------------------------------------------------------

/-- Following a choice is entering the scene it leads to. -/
theorem choose_eq_enter (hChoice : s.available[index]? = some choice) :
    s.choose index = s.enter choice.next := by
  rw [choose, hChoice]

theorem choose_of_le (hHigh : s.choiceCount ≤ index) :
    s.choose index = (.error (.invalidChoice index s.choiceCount), s) := by
  rw [choose, List.getElem?_eq_none hHigh]
  rfl

/-- Entering a scene that exists moves the cursor there. -/
theorem cursor_enter {id : String} (hEnter : (s.enter id).1 = .ok ()) :
    (s.enter id).2.cursor = id := by
  rcases enter_cases s id with ⟨-, hRefused⟩ | ⟨scene, -, rfl, hArrived⟩
  · rw [hRefused] at hEnter
    cases hEnter
  · rw [hArrived]
    rfl

/--
**What is shown is what is chosen.** Wherever a session has come to after any
moves, the available choices are the open choices of the current scene, in their
order. The view shows their texts with the places 0, 1, 2 and so on, the text at
a place is the one shown there, and a finished view, a finished story and no
choice at all are the same. The choice shown at a place is followed by entering
the scene that this very choice leads to; behind the last place none is followed.
-/
theorem shown_is_chosen (moves : List Move) :
    let s := blank.play moves
    ((s.scene? = none ∧ s.available = []) ∨ ∃ scene, s.scene? = some scene ∧
      s.available = scene.choices.filter fun choice => decide (choice.Open s.vars)) ∧
    s.choiceCount = s.available.length ∧ s.view.choices.length = s.choiceCount ∧
    (∀ index : Nat, s.view.choices[index]? =
      s.available[index]?.map fun choice => ⟨index, choice.text⟩) ∧
    (∀ index : Nat, s.choiceText? index = s.view.choices[index]?.map ChoiceView.text) ∧
    (s.view.finished = true ↔ s.choiceCount = 0) ∧ (s.finished = true ↔ s.choiceCount = 0) ∧
    (∀ (index : Nat) (choice : Choice), s.available[index]? = some choice →
      s.choose index = s.enter choice.next ∧
      ((s.choose index).1 = .ok () → (s.choose index).2.cursor = choice.next)) ∧
    ∀ index : Nat, s.choiceCount ≤ index →
      s.choose index = (.error (.invalidChoice index s.choiceCount), s) := by
  intro s
  refine ⟨?_, rfl, length_view s, getElem?_view s, choiceText?_eq_view s, view_finished_iff,
    beq_iff_eq, ?_, fun _ => choose_of_le⟩
  · cases hCurrent : s.scene? with
    | none =>
      refine Or.inl ⟨rfl, ?_⟩
      rw [available, hCurrent]
    | some scene => exact Or.inr ⟨scene, rfl, available_eq_filter hCurrent⟩
  · intro index choice hChoice
    rw [choose_eq_enter hChoice]
    exact ⟨rfl, cursor_enter⟩

-- The hall stands open and the vault does not, so the attic is shown in its place.
example : (blank.play [.load (.ofScenes "house" [⟨"start", "\x7bset keys = 1\x7d",
    [⟨"hall", "hall", none⟩, ⟨"vault", "vault", some "keys > 1"⟩,
      ⟨"attic", "attic", some "keys == 1"⟩]⟩])]).view.choices =
    [⟨0, "hall"⟩, ⟨1, "attic"⟩] := by
  decide +kernel

end Session

end Gamebook
