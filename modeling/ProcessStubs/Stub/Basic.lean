import ProcessStubs.Path

/-!
# Stubs

A stub is the declaration of one generated type: its name, its operations and the collaborators it
has injected. It says nothing about the text it becomes.
-/

namespace ProcessStubs

/-- A name imported from a module. -/
structure Import where
  moduleName : String
  name : String
deriving Repr, DecidableEq

/-- A type as it is written, with the imports it needs. -/
structure TypeUse where
  expression : String
  imports : List Import
deriving Repr, DecidableEq

/-- A parameter of an operation. -/
structure Parameter where
  name : String
  type : TypeUse
deriving Repr, DecidableEq

/-- An argument of an invocation: a constant text, or a parameter of the operation. -/
inductive Argument where
  | literal (value : String)
  | parameter (name : String)
deriving Repr, DecidableEq

/-- A call of a collaborator's method. The result of the operation is the attribute of the call's
result, if one is named, or else that result itself. -/
structure Invocation where
  collaborator : String
  method : String
  arguments : List Argument
  resultAttribute : Option String
deriving Repr, DecidableEq

/-- A method of a stub. -/
structure Operation where
  name : String
  parameters : List Parameter
  returns : Option TypeUse
  isAbstract : Bool
  invocation : Option Invocation
deriving Repr, DecidableEq

/-- Something a stub has injected, and the attribute it is kept in. -/
structure Collaborator where
  slot : String
  type : TypeUse
deriving Repr, DecidableEq

/-- The kinds of stubs: classes that start processes, and interfaces of beans. -/
inductive StubKind where
  | service
  | interface
deriving Repr, DecidableEq

/-- One generated type. `origin` is the process id or bean name it stands for, and `source` the
document it came from. -/
structure Stub where
  packageName : String
  typeName : String
  kind : StubKind
  operations : List Operation
  collaborators : List Collaborator
  origin : String
  source : Option Path
deriving Repr, DecidableEq

namespace Stub

/-- The name of the type with its package. -/
def qualifiedName (s : Stub) : String :=
  if s.packageName = "" then s.typeName else s.packageName ++ "." ++ s.typeName

/-- What decides which module a stub is written to. -/
def target (s : Stub) : String × String := (s.packageName, s.typeName)

/-- The path of a stub's module: one directory for each part of the package. -/
def relativePath (s : Stub) (suffix : String) : Path :=
  let directories := (Text.split '.' s.packageName).filter (· != "")
  (directories ++ [s.typeName ++ suffix]).foldl (fun p part => p / Path.ofString part)
    ⟨.relative, []⟩

/-- The stub as it would be if it had come from nowhere. -/
def withoutSource (s : Stub) : Stub := { s with source := none }

end Stub

end ProcessStubs
