import Gamebook.Text.Blank
import Gamebook.Text.Digits

/-!
# Gamebook — the player's selection

* `Selection.parse` — the choice that a line of input selects: the number that
  the line begins with, counted from one.
-/

namespace Gamebook

/-- Why a line selects nothing. -/
inductive SelectionError where
  | empty
  | outOfRange (max : Nat)
deriving DecidableEq

def SelectionError.message : SelectionError → String
  | empty => "请输入数字！"
  | outOfRange max => "请输入 1 到 " ++ toString max ++ " 之间的数字"

namespace Selection

/-- The place, from zero, of the choice that a line selects out of `count` choices. What
follows the digits does not matter; digits beyond 64 bits are no number at all. -/
def parse (line : String) (count : Nat) : Except SelectionError Nat :=
  let cs := Text.trim line.toList
  if cs.isEmpty then .error .empty
  else
    match Text.count? (Text.digits (Text.dropPlus cs)).1 with
    | none => .error (.outOfRange count)
    | some number =>
      if number = 0 || count < number then .error (.outOfRange count) else .ok (number - 1)

end Selection

end Gamebook
