import ProcessStubs.Proofs.RealPath
import ProcessStubs.Proofs.Steps

/-!
# Where names lead

Where one name leads from a directory, and where a path leads that can be walked at all.

## Main results

* `FileTree.walk_free`, `FileTree.walk_end`: a name that is free, and one of an entry that is no
  link.
* `FileTree.locate_of_walk`: a path that can be walked.
* `FileTree.lookup_eq_error_iff`: a path that leaves open what it leads to.
-/

namespace ProcessStubs

/-- A name that is neither empty, a dot nor two dots, and short enough. -/
structure IsShortName (name : String) : Prop where
  entry : IsEntryName name
  short : name.utf8ByteSize ≤ maxNameBytes

instance (name : String) : Decidable (IsShortName name) :=
  decidable_of_iff (IsEntryName name ∧ name.utf8ByteSize ≤ maxNameBytes)
    ⟨fun h => ⟨h.1, h.2⟩, fun h => ⟨h.entry, h.short⟩⟩

/-- A path that can be walked: nothing about its text stands in the way. -/
structure Path.IsPossible (p : Path) : Prop where
  nonzero : p.hasZero = false
  short : p.toString.utf8ByteSize ≤ maxPathBytes

instance (p : Path) : Decidable p.IsPossible :=
  decidable_of_iff ((∀ name ∈ p.parts, '\x00' ∉ name.toList) ∧
    p.toString.utf8ByteSize ≤ maxPathBytes)
    ⟨fun h => ⟨Path.hasZero_eq_false_iff.mpr h.1, h.2⟩,
      fun h => ⟨Path.hasZero_eq_false_iff.mp h.nonzero, h.short⟩⟩

namespace FileTree

variable {t : FileTree} {aim : Aim} {links : Nat} {here : Location} {name : String}

/-- The step of a walk along a name of an entry. -/
theorem walk_cons_of_isShortName {rest : List String} (named : IsShortName name)
    (directory : t.entryAt? here = some .directory) :
    t.walk aim links here (name :: rest) =
      match t.entryAt? (here ++ [name]) with
      | none =>
        if rest = [] then .ok (.free (here ++ [name]))
        else if rest = [""] ∧ aim = .file then .error .isDirectory
        else .error .noEntry
      | some (.link target) =>
        if rest = [] ∧ aim = .itself then .ok (.taken (here ++ [name]) (.link target))
        else
          match links with
          | 0 => .error .linkLoop
          | links + 1 => t.walk aim links (linkStart here target) (target.names ++ rest)
      | some _ => t.walk aim links (here ++ [name]) rest := by
  obtain ⟨⟨⟨nonempty, undotted⟩, down⟩, short⟩ := named
  have long : ¬ name.utf8ByteSize > maxNameBytes := Nat.not_lt.mpr short
  rw [walk]
  simp only [nonempty, undotted, down, long, directory, false_and, or_self, if_false]
  rfl

/-- A name that is free in a directory. -/
theorem walk_free (named : IsShortName name) (directory : t.entryAt? here = some .directory)
    (free : t.entryAt? (here ++ [name]) = none) :
    t.walk aim links here [name] = .ok (.free (here ++ [name])) := by
  rw [walk_cons_of_isShortName named directory]
  simp only [free, if_true]

/-- A name of an entry that is no link. -/
theorem walk_end {rest : List String} {e : FileEntry} (named : IsShortName name)
    (directory : t.entryAt? here = some .directory) (found : t.entryAt? (here ++ [name]) = some e)
    (ends : IsEnd e) :
    t.walk aim links here (name :: rest) = t.walk aim links (here ++ [name]) rest := by
  rw [walk_cons_of_isShortName named directory]
  cases e with
  | link target => exact absurd rfl (ends target)
  | _ => simp only [found]

/-- A walk without names ends at what is there. -/
theorem walk_nil {e : FileEntry} (found : t.entryAt? here = some e) :
    t.walk aim links here [] = .ok (.taken here e) := by
  rw [walk, found]

/-- A path that can be walked leads where the walk does. -/
theorem locate_of_walk {p : Path} (possible : p.IsPossible) :
    t.locate aim p = (t.walk aim maxLinks (t.origin p) p.parts).mapError (⟨·, p⟩) := by
  have short : ¬ p.toString.utf8ByteSize > maxPathBytes := Nat.not_lt.mpr possible.short
  rw [locate, if_neg (by simp [possible.nonzero]), if_neg short]
  cases t.walk aim maxLinks (t.origin p) p.parts <;> rfl

/-- Looking up a path fails exactly where it is left open what the path leads to. -/
theorem lookup_eq_error_iff {p : Path} {f : FileFault} :
    t.lookup p = .error f ↔ t.locate .target p = .error f ∧ f.problem.leavesOpen = true := by
  rw [lookup]
  rcases t.locate .target p with f' | (⟨m, e⟩ | m)
  · cases leavesOpen : f'.problem.leavesOpen with
    | true =>
        simp only [leavesOpen, if_true, Except.error.injEq, iff_self_and]
        rintro rfl
        exact leavesOpen
    | false =>
        simp only [leavesOpen, Bool.false_eq_true, if_false, reduceCtorEq, Except.error.injEq,
          false_iff]
        rintro ⟨rfl, h⟩
        cases leavesOpen.symm.trans h
  · simp
  · simp

/-! ### Names below the root -/

section

variable (named : IsShortName name) (possible : (Path.mk .root [name]).IsPossible)

include named possible

/-- A name below the root that is free. -/
theorem locate_root_free (free : t.entryAt? [name] = none) :
    t.locate aim ⟨.root, [name]⟩ = .ok (.free [name]) := by
  have walked : t.walk aim maxLinks [] [name] = .ok (.free ([] ++ [name])) :=
    walk_free named rfl free
  rw [locate_of_walk possible]
  exact congrArg (Except.mapError _) walked

/-- What is below the root and no link. -/
theorem locate_root_taken {e : FileEntry} (found : t.entryAt? [name] = some e) (ends : IsEnd e) :
    t.locate aim ⟨.root, [name]⟩ = .ok (.taken [name] e) := by
  have walked : t.walk aim maxLinks [] [name] = .ok (.taken ([] ++ [name]) e) :=
    (walk_end named rfl found ends).trans (walk_nil found)
  rw [locate_of_walk possible]
  exact congrArg (Except.mapError _) walked

/-- A file below the root. -/
theorem locate_root_file {content : ByteArray} (found : t.entryAt? [name] = some (.file content)) :
    t.locate aim ⟨.root, [name]⟩ = .ok (.taken [name] (.file content)) :=
  locate_root_taken named possible found nofun

end

end FileTree

end ProcessStubs
