import ProcessStubs.FileTree.Basic

/-!
# Changes of files

Directories are created and files are written by actions on the tree. What an action has changed
before it fails stays changed.

Main statements: an entry that is put somewhere is found there, and nothing else changes
(`entryAt?_put_self`, `entryAt?_put_of_ne`).
-/

namespace ProcessStubs

namespace FileTree

/-- The tree with `e` at the location `l`. -/
def put (t : FileTree) (l : Location) (e : FileEntry) : FileTree :=
  { t with entries := Assoc.put l e t.entries }

/-- An entry that was put somewhere is there. -/
theorem entryAt?_put_self (t : FileTree) {l : Location} (h : l ≠ []) (e : FileEntry) :
    (t.put l e).entryAt? l = some e := by
  simp [entryAt?, put, h]

/-- An entry that is put somewhere changes no other location. -/
theorem entryAt?_put_of_ne (t : FileTree) {l m : Location} (h : m ≠ l) (e : FileEntry) :
    (t.put l e).entryAt? m = t.entryAt? m := by
  simp [entryAt?, put, Assoc.get?_put_of_ne h]

end FileTree

/-- An action on a tree of files that may fail. -/
abbrev FileAction := ExceptT FileFault (StateM FileTree)

namespace FileAction

/-- What an action gives and the tree it leaves. -/
def runOn {α : Type} (a : FileAction α) (t : FileTree) : Except FileFault α × FileTree :=
  (ExceptT.run a).run t

/-- A question about the tree as an action. -/
def ask {α : Type} (question : FileTree → Except FileFault α) : FileAction α :=
  ExceptT.mk fun t => (question t, t)

/-- Creates a directory. Whatever is there already is a fault. -/
def createDirectory (p : Path) : FileAction Unit := do
  match ← ask (·.locate .itself p) with
  | .taken _ _ => throw ⟨.exists, p⟩
  | .free l => modify (·.put l .directory)

/-- Creates a directory unless there is one. -/
def ensureDirectory (p : Path) : FileAction Unit := do
  try createDirectory p
  catch f =>
    if f.problem ≠ .noEntry ∧ (← ask (·.isDirectory p)) = true then pure ()
    else throw f

/-- Creates a directory unless there is one, and the directories above it. -/
def ensureDirectories (p : Path) : FileAction Unit := do
  try ensureDirectory p
  catch f =>
    if h : p.parts = [] ∨ f.problem ≠ .noEntry then throw f
    else
      have : p.parent.parts.length < p.parts.length := by
        have := List.length_pos_iff.mpr (not_or.mp h).1
        simp only [Path.parent, List.length_dropLast]
        omega
      ensureDirectories p.parent
      ensureDirectory p
termination_by p.parts.length

/-- Writes a file, whether there is one or not. -/
def writeFile (p : Path) (content : ByteArray) : FileAction Unit := do
  match ← ask (·.locate .file p) with
  | .taken _ .directory | .taken _ .closed => throw ⟨.isDirectory, p⟩
  | .taken _ .sealed => throw ⟨.denied, p⟩
  | .taken _ (.link _) => throw ⟨.linkLoop, p⟩
  | .taken l (.file _) => modify (·.put l (.file content))
  | .free l => modify (·.put l (.file content))

end FileAction

end ProcessStubs
