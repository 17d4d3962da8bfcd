import ProcessStubs.FileTree.Basic

/-!
# Real paths

The real path of a path names the same file without links, single dots and double dots. Names that
lead nowhere are kept, and two dots take back the name before them. A link that leads back to itself
has no real path.
-/

namespace ProcessStubs

/-- The names with every two dots taken back. -/
def cancelDots (names : List String) : Location :=
  names.foldl (fun here name => if name = ".." then here.dropLast else here ++ [name]) []

/-- What resolving names gives: a location, or names that are left as they are since a link among
them leads back to itself. -/
inductive Resolution where
  | resolved (location : Location)
  | looping (names : List String)
deriving Repr, DecidableEq

namespace FileTree

/-- Resolves names from a location. `active` are the links that are being resolved, and `depth`
bounds how many more there can be. -/
def resolveNames (t : FileTree) (depth : Nat) (active : List Location) (here : Location)
    (names : List String) : Resolution :=
  match names with
  | [] => .resolved here
  | name :: rest =>
    if name = ".." then resolveNames t depth active here.dropLast rest
    else
      let next := here ++ [name]
      match t.entryAt? next with
      | some (.link target) =>
        if next ∈ active then .looping (next ++ rest)
        else
          match depth with
          | 0 => .looping (next ++ rest)
          | depth + 1 =>
            let start := if target.path.isAbsolute then [] else here
            match resolveNames t depth (next :: active) start target.path.parts with
            | .resolved l => resolveNames t (depth + 1) active l rest
            | .looping names => .looping (names ++ rest)
      | _ => resolveNames t depth active next rest
termination_by (depth, names.length)

/-- The real path of a path. A path that nothing can be at has none, even if two dots would take its
names back. -/
def realPath (t : FileTree) (p : Path) : Except FileFault Path :=
  if p.hasZero then .error ⟨.zeroCharacter, p⟩
  else
    let names :=
      match t.resolveNames t.entries.length [] (t.origin p) p.parts with
      | .resolved l => l
      | .looping names => cancelDots names
    let real : Path := ⟨.root, names⟩
    match t.locate .target real with
    | .error f => if f.problem = .linkLoop then .error f else .ok real
    | .ok _ => .ok real

end FileTree

end ProcessStubs
