/-!
# Gamebook — the outcome of a command

* `Outcome` — the exit status of a command and what it wrote.
-/

namespace Gamebook

/-- The exit status of a command and what it wrote. -/
structure Outcome where
  exit : Nat
  stdout : String
  stderr : String
deriving DecidableEq

end Gamebook
