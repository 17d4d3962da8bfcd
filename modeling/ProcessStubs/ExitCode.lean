/-!
# Exit codes

How a run went, as a number for the caller. The numbers other than zero and one are those that
system programs use for the same causes.
-/

namespace ProcessStubs

/-- How a run went. -/
inductive ExitCode where
  | success
  | failure
  | usageError
  | parseError
  | discoveryError
  | collisionError
  | writeError
  | configError
deriving Repr, DecidableEq

namespace ExitCode

/-- The number of an exit code. -/
def number : ExitCode → Nat
  | success => 0
  | failure => 1
  | usageError => 64
  | parseError => 65
  | discoveryError => 66
  | collisionError => 73
  | writeError => 74
  | configError => 78

/-- All exit codes. -/
def all : List ExitCode := [
  success, failure, usageError, parseError, discoveryError, collisionError, writeError, configError]

/-- The exit code of a number. -/
def ofNumber? (n : Nat) : Option ExitCode := all.find? (·.number == n)

/-- Every exit code is found by its number. -/
theorem ofNumber?_number (c : ExitCode) : ofNumber? c.number = some c := by cases c <;> rfl

end ExitCode

end ProcessStubs
