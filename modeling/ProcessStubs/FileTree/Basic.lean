import ProcessStubs.Data.Assoc
import ProcessStubs.Path
import ProcessStubs.Text.Quoted

/-!
# Trees of files

A tree of files says what is at each location: a file with its bytes, a directory, or a link that
leads along another path. A path is walked name by name from the working directory or the root.
Each name but the last has to lead to a directory, links are followed, and two dots lead to the
directory above the one that was reached. A link that is written with a slash at its end leads to a
directory or nowhere.

Files and directories can be denied to the program as a whole. A sealed file can be asked about, but
neither read nor written. A closed directory can be asked about as well, but neither listed nor
entered nor changed; nothing can be found out about what it holds, and a tree has nothing below it.
Permissions for one of these without the others are not told apart, nor are several names of one
file, and a name is a text: bytes that are no text cannot be one.

Main definitions: `FileTree.walk` follows names, `FileTree.locate` a path, and `FileTree.lookup`
says what a path leads to, if it leads anywhere.
-/

namespace ProcessStubs

/-- Where something is: the names on the way from the root. -/
abbrev Location := List String

/-- What follows the names of a link as it is written: nothing, a slash, or a slash and a dot. -/
inductive LinkEnding where
  | plain
  | slash
  | dot
deriving Repr, DecidableEq

/-- What a link says: the path it leads along, and how it ends. -/
structure LinkTarget where
  path : Path
  ending : LinkEnding
deriving Repr, DecidableEq

/-- What is at a location: a file, a file that is denied to the program, a directory, a directory
that is denied to it, or a link. -/
inductive FileEntry where
  | file (content : ByteArray)
  | sealed
  | directory
  | closed
  | link (target : LinkTarget)

/-- Whether an entry is a file, denied or not. -/
def FileEntry.isFile : FileEntry → Bool
  | file _ | .sealed => true
  | _ => false

/-- Whether an entry is a directory, denied or not. -/
def FileEntry.isDirectory : FileEntry → Bool
  | directory | closed => true
  | _ => false

/-- There are two kinds of directories. -/
theorem FileEntry.isDirectory_iff {e : FileEntry} :
    e.isDirectory = true ↔ e = .directory ∨ e = .closed := by
  cases e <;> simp [isDirectory]

/-- What is neither a directory nor a closed one is none. -/
theorem FileEntry.isDirectory_eq_false_iff {e : FileEntry} :
    e.isDirectory = false ↔ e ≠ .directory ∧ e ≠ .closed := by
  cases e <;> simp [isDirectory]

/-- Reads what a link says. A slash after dots adds nothing to them. -/
def LinkTarget.ofString (written : String) : LinkTarget :=
  let pieces := Text.split '/' written
  let last := (pieces.filter (· ≠ "")).getLast?.getD "."
  let ending : LinkEnding :=
    if last = "." then .dot
    else if pieces.getLast? = some "" ∧ last ≠ ".." then .slash
    else .plain
  ⟨Path.ofString written, ending⟩

/-- The names that a walk along a link goes through: those of its path, and an empty name for a
slash at the end or a dot. -/
def LinkTarget.names (t : LinkTarget) : List String :=
  t.path.parts ++
    (match t.ending with
      | .plain => []
      | .slash => [""]
      | .dot => ["."])

/-- Entries are equal if they are of one kind and hold the same bytes or the same target. -/
instance : DecidableEq FileEntry
  | .file a, .file b =>
    match ByteArray.instDecidableEq a b with
    | isTrue h => isTrue (congrArg _ h)
    | isFalse h => isFalse (h ∘ FileEntry.file.inj)
  | .link a, .link b =>
    match decEq a b with
    | isTrue h => isTrue (congrArg _ h)
    | isFalse h => isFalse (h ∘ FileEntry.link.inj)
  | .sealed, .sealed | .directory, .directory | .closed, .closed => isTrue rfl
  | .file _, .sealed | .file _, .directory | .file _, .closed | .file _, .link _
  | .sealed, .file _ | .sealed, .directory | .sealed, .closed | .sealed, .link _
  | .directory, .file _ | .directory, .sealed | .directory, .closed | .directory, .link _
  | .closed, .file _ | .closed, .sealed | .closed, .directory | .closed, .link _
  | .link _, .file _ | .link _, .sealed | .link _, .directory | .link _, .closed => isFalse nofun

/-- Files and directories, and the directory that relative paths start at. The root is always a
directory. -/
structure FileTree where
  workingDirectory : Location
  entries : List (Location × FileEntry)

/-- Why a file cannot be used. That a path holds the character zero is no matter of files: nothing
can be there, and asking for it is a mistake. -/
inductive FileProblem where
  | noEntry
  | denied
  | exists
  | notDirectory
  | isDirectory
  | nameTooLong
  | linkLoop
  | zeroCharacter
deriving Repr, DecidableEq

/-- The number of a problem with files. -/
def FileProblem.code? : FileProblem → Option Nat
  | noEntry => some 2
  | denied => some 13
  | .exists => some 17
  | notDirectory => some 20
  | isDirectory => some 21
  | nameTooLong => some 36
  | linkLoop => some 40
  | zeroCharacter => none

/-- The wording of a problem. -/
def FileProblem.text : FileProblem → String
  | noEntry => "No such file or directory"
  | denied => "Permission denied"
  | .exists => "File exists"
  | notDirectory => "Not a directory"
  | isDirectory => "Is a directory"
  | nameTooLong => "File name too long"
  | linkLoop => "Too many levels of symbolic links"
  | zeroCharacter => "embedded null byte"

/-- The wording of a problem with what is written as a path. -/
def FileProblem.message (problem : FileProblem) (written : String) : String :=
  match problem.code? with
  | some code =>
    "[Errno " ++ toString code ++ "] " ++ problem.text ++ ": " ++ Text.quoted written
  | none => problem.text

/-- Whether a problem leaves it open what a path leads to. With any other one, the path leads
nowhere. -/
def FileProblem.leavesOpen : FileProblem → Bool
  | denied | nameTooLong => true
  | _ => false

/-- A problem with the file at a path. -/
structure FileFault where
  problem : FileProblem
  path : Path
deriving Repr, DecidableEq

/-- The wording of a fault. -/
def FileFault.message (f : FileFault) : String := f.problem.message f.path.toString

/-- Whether the fault is that nothing can be at the path. -/
def FileFault.isMistake (f : FileFault) : Bool := f.problem = .zeroCharacter

/-- The most bytes of a name. -/
def maxNameBytes : Nat := 255

/-- The most bytes of a path. -/
def maxPathBytes : Nat := 4095

/-- The most links that are followed on one way. -/
def maxLinks : Nat := 40

/-- What a walk goes to: the entry of the last name itself, what this entry leads to, or a file to
be written there. -/
inductive Aim where
  | itself
  | target
  | file
deriving Repr, DecidableEq

/-- Where a walk ends: at an entry, or at a name that is free in an existing directory. -/
inductive Place where
  | taken (location : Location) (entry : FileEntry)
  | free (location : Location)
deriving DecidableEq

namespace FileTree

/-- What is at a location. -/
def entryAt? (t : FileTree) (l : Location) : Option FileEntry :=
  if l = [] then some .directory else Assoc.get? l t.entries

/-- Follows names from the location `here`, along `links` links at most. The last name is followed
too if it is a link, unless the walk goes to the link itself. No file is written where a slash
follows. A slash after a closed directory is no name in it. -/
def walk (t : FileTree) (aim : Aim) (links : Nat) (here : Location) (names : List String) :
    Except FileProblem Place :=
  match names with
  | [] =>
    match t.entryAt? here with
    | some e => .ok (.taken here e)
    | none => .error .noEntry
  | name :: rest =>
    if name = "" ∧ rest = [] ∧ aim = .file then .error .isDirectory
    else
      match t.entryAt? here with
      | none => .error .noEntry
      | some .closed => if name = "" then walk t aim links here rest else .error .denied
      | some .directory =>
        if name = "" ∨ name = "." then walk t aim links here rest
        else if name = ".." then walk t aim links here.dropLast rest
        else if name.utf8ByteSize > maxNameBytes then .error .nameTooLong
        else
          match t.entryAt? (here ++ [name]) with
          | none =>
            if rest = [] then .ok (.free (here ++ [name]))
            else if rest = [""] ∧ aim = .file then .error .isDirectory
            else .error .noEntry
          | some (.link target) =>
            if rest = [] ∧ aim = .itself then .ok (.taken (here ++ [name]) (.link target))
            else
              match links with
              | 0 => .error .linkLoop
              | links + 1 =>
                let start := if target.path.isAbsolute then [] else here
                walk t aim links start (target.names ++ rest)
          | some _ => walk t aim links (here ++ [name]) rest
      | some _ => .error .notDirectory
termination_by (links, names.length)

/-- Where a path starts. -/
def origin (t : FileTree) (p : Path) : Location :=
  if p.isAbsolute then [] else t.workingDirectory

/-- Where a path leads. -/
def locate (t : FileTree) (aim : Aim) (p : Path) : Except FileFault Place :=
  if p.hasZero then .error ⟨.zeroCharacter, p⟩
  else if p.toString.utf8ByteSize > maxPathBytes then .error ⟨.nameTooLong, p⟩
  else
    match t.walk aim maxLinks (t.origin p) p.parts with
    | .ok place => .ok place
    | .error problem => .error ⟨problem, p⟩

/-- The entry a path leads to, if it leads to one. That this is left open is a fault; a way that is
blocked leads nowhere. -/
def lookup (t : FileTree) (p : Path) : Except FileFault (Option FileEntry) :=
  match t.locate .target p with
  | .ok (.taken _ e) => .ok (some e)
  | .ok (.free _) => .ok none
  | .error f => if f.problem.leavesOpen then .error f else .ok none

/-- Whether a path leads to anything. -/
def exists? (t : FileTree) (p : Path) : Except FileFault Bool := do
  return (← t.lookup p).isSome

/-- Whether a path leads to a file. -/
def isFile (t : FileTree) (p : Path) : Except FileFault Bool := do
  return (← t.lookup p).any FileEntry.isFile

/-- Whether a path leads to a directory. -/
def isDirectory (t : FileTree) (p : Path) : Except FileFault Bool := do
  return (← t.lookup p).any FileEntry.isDirectory

/-- The bytes of the file a path leads to. -/
def read (t : FileTree) (p : Path) : Except FileFault ByteArray := do
  match ← t.locate .target p with
  | .taken _ (.file content) => return content
  | .taken _ .sealed | .taken _ .closed => throw ⟨.denied, p⟩
  | .taken _ .directory => throw ⟨.isDirectory, p⟩
  | .taken _ (.link _) => throw ⟨.linkLoop, p⟩
  | .free _ => throw ⟨.noEntry, p⟩

end FileTree

end ProcessStubs
