import Std.Data.ExtTreeMap
import Gamebook.Value

/-!
# Gamebook — the variables of a play

* `Vars` — the defined variables and their values, in the order of their names.

Two states with the same values under the same names are equal.
-/

namespace Gamebook

/-- The defined variables and their values. -/
abbrev Vars := Std.ExtTreeMap String Value

end Gamebook
