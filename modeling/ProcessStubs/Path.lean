import ProcessStubs.Text.Split

/-!
# Paths

A path is where it starts and the names on the way. Reading a text drops empty names and single
dots; a name of two dots stays, since what it means depends on the files. Two slashes at the very
start, and no third one, are a start of their own.
-/

namespace ProcessStubs

/-- Where a path starts: at the working directory, at the root, or at the root written with two
slashes. -/
inductive Path.Anchor where
  | relative
  | root
  | doubleRoot
deriving Repr, DecidableEq

/-- A path of files and directories. -/
structure Path where
  anchor : Path.Anchor
  parts : List String
deriving Repr, DecidableEq

namespace Path

/-- How the start of a path is written. -/
def Anchor.text : Anchor → String
  | relative => ""
  | root => "/"
  | doubleRoot => "//"

/-- The names in a text between slashes. -/
def splitNames (s : String) : List String :=
  (Text.split '/' s).filter fun p => p != "" && p != "."

/-- Reads a path. -/
def ofString (s : String) : Path :=
  let anchor :=
    match s.toList with
    | '/' :: '/' :: '/' :: _ => .root
    | '/' :: '/' :: _ => .doubleRoot
    | '/' :: _ => .root
    | _ => .relative
  ⟨anchor, splitNames s⟩

/-- How a path is written; the working directory itself is a dot. -/
def toString (p : Path) : String :=
  if p.anchor = .relative ∧ p.parts = [] then "."
  else p.anchor.text ++ Text.joinWith "/" p.parts

instance : ToString Path := ⟨toString⟩

/-- The last name of a path, or the empty text. -/
def name (p : Path) : String := p.parts.getLast?.getD ""

/-- The path without its last name. -/
def parent (p : Path) : Path := { p with parts := p.parts.dropLast }

/-- Whether a path starts at a root. -/
def isAbsolute (p : Path) : Bool := p.anchor != .relative

/-- The path that leads along `p` and then along `q`; where `q` starts at a root, it is `q`. -/
def join (p q : Path) : Path :=
  if q.isAbsolute then q else { p with parts := p.parts ++ q.parts }

instance : Div Path := ⟨join⟩

/-- The path with names after its own. -/
def below (p : Path) (names : List String) : Path := { p with parts := p.parts ++ names }

/-- One name below a path. -/
def child (p : Path) (name : String) : Path := { p with parts := p.parts ++ [name] }

/-- Whether a path holds the character zero, which no name of a file can hold. -/
def hasZero (p : Path) : Bool := p.parts.any (·.contains '\x00')

/-- A path holds the character zero if one of its names does. -/
theorem hasZero_eq_false_iff {p : Path} :
    p.hasZero = false ↔ ∀ name ∈ p.parts, '\x00' ∉ name.toList := by
  simp [hasZero, String.contains_char_eq]

/-- Where a path starts, if it is a root, and the names on the way. -/
def components (p : Path) : List String :=
  if p.isAbsolute then p.anchor.text :: p.parts else p.parts

/-- Whether a path comes before another one or is equal to it: paths are ordered component by
component. -/
def le (p q : Path) : Bool := compare p.components q.components != .gt

end Path

end ProcessStubs
