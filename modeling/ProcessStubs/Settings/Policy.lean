import ProcessStubs.Text.Blank
import ProcessStubs.Text.CaseMap

/-!
# Collision policies

What is done when two different stubs of one run go to the same module.
-/

namespace ProcessStubs

/-- What is done with a stub whose module has been written from a different stub: it is written with
a warning, rejected, or written silently. -/
inductive CollisionPolicy where
  | warn
  | error
  | overwrite
deriving Repr, DecidableEq

namespace CollisionPolicy

/-- The name of a policy. -/
def name : CollisionPolicy → String
  | warn => "warn"
  | error => "error"
  | overwrite => "overwrite"

/-- All policies. -/
def all : List CollisionPolicy := [warn, error, overwrite]

/-- The policy of a name, with blanks around it and in upper or lower case. -/
def ofName? (s : String) : Option CollisionPolicy :=
  all.find? fun p => Text.upperText (Text.strip s) == Text.upperText p.name

end CollisionPolicy

end ProcessStubs
