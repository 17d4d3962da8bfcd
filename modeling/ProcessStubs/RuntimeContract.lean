import ProcessStubs.Stub.Mapping

/-!
# The contract of runtimes

Generated services rely on two kinds of objects: a runtime that starts processes, and the processes
it has started. An object can play a role if it has all attributes of the role, whatever else it
has.
-/

namespace ProcessStubs

/-- The roles of objects that generated services rely on. -/
inductive RuntimeRole where
  | runtime
  | startedProcess
deriving Repr, DecidableEq

namespace RuntimeRole

/-- The attributes that a role needs. -/
def attributes : RuntimeRole → List String
  | runtime => [Stub.startMethod]
  | startedProcess => [Stub.instanceIdAttribute]

/-- Whether an object with the given attributes can play a role. -/
def isPlayedBy (role : RuntimeRole) (given : List String) : Bool :=
  role.attributes.all given.contains

end RuntimeRole

end ProcessStubs
