import ProcessStubs.FileTree.Basic

/-!
# Scans of directories

What is below a directory is found by scanning it and the directories that it lists. Each directory
first tells what else it lists, in the order in which that is listed, and then its directories in
the order of their names, each with what is below it. Links to directories are listed, and nothing
is found below them.

A directory cannot be scanned if it is closed or if its path is too long. The path is written with a
dot at its start if the scans have started at the working directory.
-/

namespace ProcessStubs

/-- How the path of a directory is written that names lead to from a root. -/
def Path.scanText (root : Path) (names : List String) : String :=
  if root.anchor = .relative ∧ root.parts = [] then Text.joinWith "/" ("." :: names)
  else (root.below names).toString

namespace FileTree

/-- What the directory at a location lists. -/
def listing (t : FileTree) (l : Location) : List (String × FileEntry) :=
  t.entries.filterMap fun (place, e) =>
    match place.getLast? with
    | some name =>
      if place = l ++ [name] ∧ t.entryAt? place = some e then some (name, e) else none
    | none => none

/-- The most names that lead to an entry of the tree. -/
def height (t : FileTree) : Nat := (t.entries.map (·.1.length)).max?.getD 0

/-- What a directory lists is one of the entries, and there. -/
theorem of_mem_listing {t : FileTree} {l : Location} {x : String × FileEntry}
    (h : x ∈ t.listing l) :
    (l ++ [x.1], x.2) ∈ t.entries ∧ t.entryAt? (l ++ [x.1]) = some x.2 := by
  obtain ⟨⟨place, e⟩, listed, kept⟩ := List.mem_filterMap.mp h
  dsimp only at kept
  split at kept
  · split at kept
    · next there =>
        obtain ⟨rfl, found⟩ := there
        cases kept
        exact ⟨listed, found⟩
    · cases kept
  · cases kept

/-- A directory that lists something is not as deep as the tree. -/
theorem length_lt_height {t : FileTree} {l : Location} {x : String × FileEntry}
    (h : x ∈ t.listing l) : l.length < t.height := by
  have deep : (l ++ [x.1]).length ≤ t.height :=
    List.le_max?_getD_of_mem (List.mem_map_of_mem (of_mem_listing h).1)
  simpa [Nat.succ_le_iff] using deep

/-- What is below the directory at a location, with the names that lead there, in the order in which
it is found. -/
def below (t : FileTree) (l : Location) : List (List String × FileEntry) :=
  if t.entryAt? l = some .directory then
    let others := (t.listing l).filter fun x => !x.2.isDirectory
    let directories := ((t.listing l).filter fun x => x.2.isDirectory).mergeSort (·.1 ≤ ·.1)
    others.map (fun (name, e) => ([name], e)) ++
      directories.attach.flatMap fun ⟨(name, e), _⟩ =>
        ([name], e) :: (below t (l ++ [name])).map fun (names, e) => (name :: names, e)
  else []
termination_by t.height - l.length
decreasing_by
  next listed =>
    have := length_lt_height (List.mem_filter.mp (List.mem_mergeSort.mp listed)).1
    simp only [List.length_append, List.length_singleton]
    omega

/-- Why the directory cannot be scanned that names lead to from a root, if it cannot. -/
def scanProblem? (t : FileTree) (root : Path) (names : List String) : Option FileProblem :=
  if (root.scanText names).utf8ByteSize > maxPathBytes then some .nameTooLong
  else
    match t.locate .target (root.below names) with
    | .ok (.taken _ .directory) => none
    | .ok (.taken _ .closed) => some .denied
    | .ok (.taken _ _) => some .notDirectory
    | .ok (.free _) => some .noEntry
    | .error f => some f.problem

end FileTree

end ProcessStubs
