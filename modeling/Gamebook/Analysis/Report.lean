/-!
# Gamebook — reports

* `Level` — how serious a finding is.
* `Finding` — one entry of a report: what was found, and where.
* `Report` — findings in order.
-/

namespace Gamebook

inductive Level where
  | info
  /-- Something that will fail or stay hidden in play. -/
  | warn
  | error
deriving DecidableEq

namespace Level

/-- The rank of a level; a more serious level has the higher one. -/
def rank : Level → Nat
  | info => 0
  | warn => 1
  | error => 2

def name : Level → String
  | info => "INFO"
  | warn => "WARN"
  | error => "ERROR"

end Level

/-- One entry of a report. -/
structure Finding where
  level : Level
  /-- The story it is about. -/
  script : String
  scene : Option String
  message : String
  detail : Option String
deriving DecidableEq

/-- A finding as text; the detail stands on a line of its own. -/
def Finding.text (f : Finding) : String :=
  "[" ++ f.level.name ++ "] " ++ f.script ++ ((f.scene.map (":" ++ ·)).getD "") ++ ": " ++
    f.message ++ ((f.detail.map ("\n  | " ++ ·)).getD "")

abbrev Report := List Finding

namespace Report

def count (r : Report) (level : Level) : Nat := (r.filter (·.level = level)).length

def hasErrors (r : Report) : Bool := 0 < r.count .error

def atLeast (r : Report) (level : Level) : Report := r.filter (level.rank ≤ ·.level.rank)

/-- The findings as text, one under the other. -/
def text (r : Report) : String := "\n".intercalate (r.map Finding.text)

end Report

end Gamebook
