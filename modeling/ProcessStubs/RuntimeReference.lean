import ProcessStubs.Text.Identifier
import ProcessStubs.Text.Split

/-!
# Packages and runtime references

A package is a sequence of usable names between periods. A runtime reference, written
`module:Name`, says which type the generated services have injected to start processes.
-/

namespace ProcessStubs

open Text

/-- Whether a text names a package: usable names between periods, at least one. -/
def isPackageName (s : String) : Bool := s != "" && (split '.' s).all isUsableName

/-- The type that generated services have injected, and the module it is imported from. -/
structure RuntimeReference where
  moduleName : String
  typeName : String
deriving Repr, DecidableEq

/-- Reads `module:Name`, cut at the first colon. The module is a package name and the type an
identifier. -/
def RuntimeReference.ofString? (s : String) : Option RuntimeReference :=
  let cs := s.toList
  match cs.dropWhile (· != ':') with
  | [] => none
  | _ :: rest =>
    let moduleName := String.ofList (cs.takeWhile (· != ':'))
    let typeName := String.ofList rest
    if isPackageName moduleName && isIdentifier typeName then some ⟨moduleName, typeName⟩ else none

end ProcessStubs
