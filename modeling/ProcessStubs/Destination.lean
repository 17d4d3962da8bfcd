import ProcessStubs.FileTree.Change
import ProcessStubs.FileTree.ReadText
import ProcessStubs.Stub.ModuleText
import ProcessStubs.Text.Identifier

/-!
# Destinations of modules

A stub that is valid is written to a destination: to nowhere for a preview, into memory, or below a
directory. A directory gets one directory for each part of the package, and each of them can be made
importable by a file `__init__.py`. A module that is there already with the same text is left as it
is.

Only the destination's own part of the store changes: a preview changes nothing, memory no file, and
a directory no memory.
-/

namespace ProcessStubs

open Text

/-- The end of the names of module files. -/
def moduleSuffix : String := ".py"

/-- The text of the files that make directories importable. -/
def packageMarkerText : String := "\"\"\"Generated by bpmngen.\"\"\"\n"

/-- The name of the files that make directories importable. -/
def packageMarkerName : String := "__init__.py"

/-- Where modules are written to. -/
inductive Destination where
  | preview
  | memory
  | directory (root : Path) (packageMarkers : Bool)
deriving Repr, DecidableEq

/-- What can be changed by writing: the modules in memory, each at its relative path, and the
files. -/
structure Store where
  modules : List (Path × String)
  files : FileTree

/-- What became of a module that was written. -/
inductive WriteStatus where
  | written
  | unchanged
  | previewed
deriving Repr, DecidableEq

/-- The name of a status. -/
def WriteStatus.name : WriteStatus → String
  | written => "written"
  | unchanged => "unchanged"
  | previewed => "previewed"

/-- A write: the stub, where its module went, and how many bytes were written. -/
structure Write where
  stub : Stub
  path : Path
  status : WriteStatus
  bytes : Nat
deriving Repr, DecidableEq

/-- The names in a stub that become names in its module. -/
inductive NameUse where
  | type
  | operation
deriving Repr, DecidableEq

/-- Why a stub cannot be written: one of its names cannot be used, or a file cannot be used or holds
no text. -/
inductive WriteProblem where
  | unusableName (use : NameUse) (name : String)
  | file (fault : TextFault)
deriving Repr, DecidableEq

/-- The wording of a problem. -/
def WriteProblem.message : WriteProblem → String
  | unusableName use name =>
    (match use with
      | .type => "type name "
      | .operation => "operation name ") ++ quoted name ++ " is not a valid Python identifier"
  | file fault => fault.message

/-- The mistake that nothing can be at the path of a module, if the problem is that. -/
def WriteProblem.mistake? : WriteProblem → Option FileFault
  | file (.unusable fault) => if fault.isMistake then some fault else none
  | _ => none

/-- How it is said that a stub cannot be written. -/
def Stub.writeFailure (s : Stub) (reason : String) : String :=
  "Cannot write '" ++ s.qualifiedName ++ "': " ++ reason

/-- The first name of a stub that cannot be used in its module: its own, or that of one of its
operations. -/
def Stub.unusableName? (s : Stub) : Option WriteProblem :=
  if !isUsableName s.typeName then some (.unusableName .type s.typeName)
  else
    (s.operations.find? fun o => !isUsableName o.name).map fun o =>
      .unusableName .operation o.name

/-- The text in memory at a path. -/
def Store.module? (s : Store) (p : Path) : Option String :=
  Assoc.get? p s.modules

/-- An action on files that may also find that a stub cannot be written. -/
abbrev WriteAction := ExceptT WriteProblem (StateM FileTree)

/-- Makes a directory importable, unless it is already. -/
def ensureMarker (directory : Path) : FileAction Unit := do
  let marker := directory.child packageMarkerName
  if (← FileAction.ask (·.exists? marker)) = false then
    FileAction.writeFile marker packageMarkerText.toUTF8

/-- Creates the directories on the way to a module, and makes those of the package importable if
`packageMarkers` holds. -/
def ensurePackage (root : Path) (packageMarkers : Bool) (module : Path) : FileAction Unit := do
  FileAction.ensureDirectories root
  let _ ← module.parent.components.foldlM (fun above part => do
    let directory := above / Path.ofString part
    FileAction.ensureDirectory directory
    if packageMarkers then ensureMarker directory
    return directory) root

/-- Writes a module below a directory, unless it holds the text already. -/
def storeModule (root : Path) (packageMarkers : Bool) (module : Path) (text : String) :
    WriteAction WriteStatus := do
  let path := root / module
  ExceptT.adapt (.file ∘ .unusable) (ensurePackage root packageMarkers module)
  let current ← ExceptT.mk fun t => ((t.text? path).mapError .file, t)
  if current = some text then return .unchanged
  ExceptT.adapt (.file ∘ .unusable) (FileAction.writeFile path text.toUTF8)
  return .written

namespace Destination

/-- Puts the text of a module where it belongs. -/
def put (d : Destination) (store : Store) (stub : Stub) (module : Path) (text : String) :
    Except WriteProblem Write × Store :=
  match d with
  | .preview => (.ok ⟨stub, module, .previewed, 0⟩, store)
  | .memory =>
    let status := if store.module? module = some text then .unchanged else .written
    (.ok ⟨stub, module, status, text.utf8ByteSize⟩,
      { store with modules := Assoc.put module text store.modules })
  | .directory root packageMarkers =>
    match (storeModule root packageMarkers module text).run store.files with
    | (.ok .unchanged, files) =>
      (.ok ⟨stub, root / module, .unchanged, 0⟩, { store with files := files })
    | (.ok status, files) =>
      (.ok ⟨stub, root / module, status, text.utf8ByteSize⟩, { store with files := files })
    | (.error problem, files) => (.error problem, { store with files := files })

/-- Writes a stub with the given text, if its names can be used. -/
def writeText (d : Destination) (store : Store) (stub : Stub) (text : String) :
    Except WriteProblem Write × Store :=
  match stub.unusableName? with
  | some problem => (.error problem, store)
  | none => d.put store stub (stub.relativePath moduleSuffix) text

/-- Writes a stub with the text of its module. -/
def write (d : Destination) (store : Store) (stub : Stub) : Except WriteProblem Write × Store :=
  d.writeText store stub stub.moduleText

end Destination

end ProcessStubs
