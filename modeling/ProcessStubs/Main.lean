import ProcessStubs.CommandLine.Session

/-!
# The program

The program reads the files that a call can work on into a tree, runs the session on it, writes what
the session has changed, and shows what the session has written to its two streams.
-/

namespace ProcessStubs.Main

open ProcessStubs.CommandLine

/-- The variable of the environment that gives the log level. -/
def logLevelVariable : String := "BPMNGEN_LOG_LEVEL"

/-- A location as a path of the system. -/
def pathText (l : Location) : String := "/" ++ Text.joinWith "/" l

/-- Where a path of the system really leads, if it leads anywhere. -/
def realText? (path : String) : IO (Option String) := do
  try
    let real ← IO.FS.realPath path
    return some real.toString
  catch _ => return none

/-- The names in a directory, or nothing if it is none. -/
def namesIn? (directory : String) : IO (Option (List String)) := do
  try
    let real ← IO.FS.realPath directory
    let entries ← real.readDir
    return some (entries.toList.map (·.fileName))
  catch _ => return none

/-- Whether a path of the system leads to a directory. -/
def leadsToDirectory (path : String) : IO Bool := do
  try return (← (← IO.FS.realPath path).isDir)
  catch _ => return false

/-- Takes what is at a real location into the tree. -/
def takeEntry (t : FileTree) (l : Location) : IO FileTree := do
  match ← namesIn? (pathText l) with
  | some _ => return t.put l .directory
  | none =>
    if ← leadsToDirectory (pathText l) then return t.put l .closed
    try return t.put l (.file (← IO.FS.readBinFile (pathText l)))
    catch
      | .permissionDenied .. => return t.put l .sealed
      | _ => return t

/-- Takes all that names lead through into the tree, from a real location. -/
partial def takeNames (t : FileTree) (here : Location) (names : List String) :
    IO (FileTree × Option Location) := do
  match names with
  | [] => return (t, some here)
  | ".." :: rest => takeNames t here.dropLast rest
  | name :: rest =>
    let next := here ++ [name]
    match ← realText? (pathText next) with
    | none => return (t, none)
    | some real =>
      if real = pathText next then takeNames (← takeEntry t next) next rest
      else
        let target := Path.ofString real
        let (t, found) ← takeNames (t.put next (.link ⟨target, .plain⟩)) [] target.parts
        match found with
        | some l => takeNames t l rest
        | none => return (t, none)

/-- Takes all that a path leads through into the tree. -/
def takePath (t : FileTree) (p : Path) : IO (FileTree × Option Location) :=
  takeNames t (if p.isAbsolute then [] else t.workingDirectory) p.parts

/-- Takes all that is below a real location into the tree. Links are taken, but what is below them
is not. -/
partial def takeBelow (t : FileTree) (l : Location) : IO FileTree := do
  let mut t := t
  for name in ((← namesIn? (pathText l)).getD []).mergeSort do
    let next := l ++ [name]
    let (t', _) ← takeNames t l [name]
    t := t'
    if t.entryAt? next = some .directory then t ← takeBelow t next
  return t

/-- The paths that arguments may name. -/
def namedPaths (arguments : List String) : List Path :=
  arguments.flatMap fun a =>
    [a, String.ofList ((a.toList.dropWhile (· != '=')).drop 1), String.ofList (a.toList.drop 2)].map
      Path.ofString

/-- The tree of the files that a call can work on. -/
def takeFiles (here : Path) (arguments : List String) : IO FileTree := do
  let mut t : FileTree := ⟨here.parts, []⟩
  let settingFiles := [here.child settingFileName, here.child projectFileName]
  for p in here :: settingFiles ++ namedPaths arguments do
    t := (← takePath t p).1
  for p in Session.directories t arguments do
    match ← takePath t p with
    | (t', some l) => t ← takeBelow t' l
    | (t', none) => t := t'
  return t

/-- Writes what differs between two trees. -/
def writeChanges (before after : FileTree) : IO Unit := do
  for (l, e) in after.entries do
    if before.entryAt? l ≠ some e then
      match e with
      | .directory => IO.FS.createDirAll (pathText l)
      | .file content => IO.FS.writeBinFile (pathText l) content
      | .sealed | .closed | .link _ => pure ()

end ProcessStubs.Main

open ProcessStubs CommandLine in
/-- Runs the program and gives its exit code. -/
def main (arguments : List String) : IO UInt32 := do
  let here := Path.ofString (← IO.currentDir).toString
  let files ← Main.takeFiles here arguments
  let surroundings : Surroundings :=
    ⟨← IO.getEnv Main.logLevelVariable, ← (← IO.getStdout).isTty⟩
  let session := Session.run surroundings files arguments
  Main.writeChanges files session.files
  (← IO.getStdout).putStr session.screen.out
  (← IO.getStderr).putStr session.screen.err
  match session.ending with
  | .exit code => return code.toUInt32
  | .crash _ => return 1
