import ProcessStubs.Diagnostic
import ProcessStubs.Exclusion.Pattern
import ProcessStubs.FileTree.RealPath
import ProcessStubs.FileTree.Scan
import ProcessStubs.Data.Value

/-!
# Discovery of documents

Process documents are the files below a directory that are named as such. Directories are entered,
links to directories are not, and a link to a file is a file. Patterns exclude documents by where
they really are below the real directory; a document that really lies elsewhere is excluded by its
path as it was found. The documents come in the order of their paths.

A directory that does not exist has no documents. Where one cannot be scanned, or it is left open
whether there is a document of a name, no documents are found at all.
-/

namespace ProcessStubs

open Exclusion

/-- The ends of the names of process documents. -/
def documentSuffixes : List String := [".bpmn", ".bpmn20.xml"]

/-- Whether a path is named as a process document. -/
def Path.isDocumentName (p : Path) : Bool :=
  documentSuffixes.any fun suffix => p.name.endsWith suffix

/-- Why documents cannot be looked for: the root is a file, a directory cannot be scanned, a path
cannot be asked about, or an exclusion pattern cannot be used or is no text at all. -/
inductive DiscoveryFault where
  | notDirectory (root : Path)
  | notScanned (root : Path) (directory : String) (problem : FileProblem)
  | unusable (fault : FileFault)
  | badPattern (fault : PatternFault)
  | noPattern (given : Value)
deriving BEq, Repr

/-- How it is said that a directory cannot be scanned. -/
def scanFailure (root : Path) (reason : String) : String :=
  "Cannot scan '" ++ root.toString ++ "' for process definitions: " ++ reason

/-- What is said of a fault of the source directory. Other faults are none of its own. -/
def DiscoveryFault.scanFailure? : DiscoveryFault → Option String
  | notDirectory root => some (scanFailure root "not a directory")
  | notScanned root directory problem => some (scanFailure root (problem.message directory))
  | _ => none

/-- The documents that were found, and what looking for them has logged. -/
structure Discovery where
  files : List Path
  log : List LogEntry
deriving Repr, DecidableEq

/-- The patterns among the values given as such. Values that count as false are skipped. -/
def patternsOf (given : List Value) : Except DiscoveryFault (List Pattern) := do
  let patterns ← (given.filter Value.isTrue).mapM fun v =>
    match v with
    | .text line => (Pattern.ofLine line).mapError .badPattern
    | _ => .error (.noPattern v)
  return patterns.filterMap id

namespace FileTree

/-- Whether a path is a document: it is named as one and leads to a file. -/
def isDocument (t : FileTree) (p : Path) : Except FileFault Bool :=
  if p.isDocumentName then t.isFile p else .ok false

/-- Whether what is found below a root is a document. A directory is scanned in its turn, and is
none. -/
def visit (t : FileTree) (root : Path) (found : List String × FileEntry) :
    Except DiscoveryFault Bool :=
  if found.2.isDirectory then
    match t.scanProblem? root found.1 with
    | some problem => .error (.notScanned root (root.scanText found.1) problem)
    | none => .ok false
  else (t.isDocument (root.below found.1)).mapError .unusable

/-- The documents below the directory at a location, in order. `root` is the path that leads
there. -/
def documentsBelow (t : FileTree) (root : Path) (l : Location) :
    Except DiscoveryFault (List Path) := do
  let documents ← (t.below l).filterM (t.visit root)
  return ((documents.map fun (names, _) => root.below names).eraseDups).mergeSort Path.le

/-- What patterns are matched against: the names that lead from the real root to the real document,
or else the path itself without a slash at its start. -/
def matchText (t : FileTree) (root p : Path) : Except FileFault (List Char) := do
  let base ← t.realPath root
  let real ← t.realPath p
  if base.parts.isPrefixOf real.parts then
    return (Text.joinWith "/" (real.parts.drop base.parts.length)).toList
  else
    match p.toString.toList with
    | '/' :: rest => return rest
    | cs => return cs

/-- Whether patterns exclude a document. -/
def isExcludedFrom (t : FileTree) (root : Path) (patterns : List Pattern) (p : Path) :
    Except FileFault Bool := do
  return isExcluded patterns (← t.matchText root p)

/-- The documents below a directory that no pattern excludes. -/
def discover (t : FileTree) (root : Path) (excludes : List Value) :
    Except DiscoveryFault Discovery :=
  let missing : Discovery :=
    ⟨[], [⟨.warning, "Source directory " ++ root.toString ++
      " does not exist, skipping code generation."⟩]⟩
  match t.locate .target root with
  | .error f => if f.problem.leavesOpen then .error (.unusable f) else .ok missing
  | .ok (.free _) => .ok missing
  | .ok (.taken l .directory) => do
    let documents ← t.documentsBelow root l
    let patterns ← patternsOf excludes
    let excluded ← (documents.filterM (t.isExcludedFrom root patterns)).mapError .unusable
    return {
      files := documents.filter (· ∉ excluded)
      log := excluded.map fun p => ⟨.info, "Excluded by pattern: " ++ p.toString⟩ }
  | .ok (.taken _ .closed) => .error (.notScanned root (root.scanText []) .denied)
  | .ok (.taken _ _) => .error (.notDirectory root)

end FileTree

end ProcessStubs
