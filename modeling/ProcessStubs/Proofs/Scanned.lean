import ProcessStubs.FileTree.Scan
import ProcessStubs.Proofs.Places

/-!
# What scans find

Scans go into directories as they are found, and so they find what directories lead to: an entry of
the first directory, or one of a directory that was found. A closed directory is found, and nothing
below it.

## Main definitions

* `FileTree.Reached`: what directories lead to below a location.

## Main results

* `FileTree.Reached.cons`: what is reached from a directory is reached from the one above it.
* `FileTree.mem_below_iff_reached`: scans find exactly what is reached.
-/

namespace ProcessStubs

/-- The scans start with the path of the root as it is. -/
@[simp] theorem Path.scanText_nil (root : Path) : root.scanText [] = root.toString := by
  have same : root.below [] = root := by simp [below]
  rw [scanText, same]
  split
  · next here =>
      rw [toString, if_pos here]
      rfl
  · rfl

/-- Scans that start below the root write paths as they are. -/
theorem Path.scanText_of_root {root : Path} (h : root.anchor = .root) (names : List String) :
    root.scanText names = (root.below names).toString :=
  if_neg (by simp [h])

namespace FileTree

variable {t : FileTree} {l : Location} {name : String} {names rest : List String} {e : FileEntry}

/-- **What directories lead to** below a location: an entry of the directory there, or one of a
directory that is led to. Links to directories are entries, and nothing is led to through them. -/
inductive Reached (t : FileTree) (l : Location) : List String → FileEntry → Prop
  | child {name : String} {e : FileEntry} :
      t.entryAt? l = some .directory → t.entryAt? (l ++ [name]) = some e → Reached t l [name] e
  | deeper {names : List String} {name : String} {e : FileEntry} :
      Reached t l names .directory → t.entryAt? (l ++ (names ++ [name])) = some e →
      Reached t l (names ++ [name]) e

namespace Reached

/-- What is led to is there. -/
theorem entryAt?_eq (h : t.Reached l names e) : t.entryAt? (l ++ names) = some e := by
  cases h with
  | child _ found => exact found
  | deeper _ found => exact found

/-- Something is led to by a name at least. -/
theorem ne_nil (h : t.Reached l names e) : names ≠ [] := by
  cases h <;> simp

/-- What leads to something is a directory. -/
theorem directory (h : t.Reached l names e) : t.entryAt? l = some .directory := by
  induction h with
  | child directory _ => exact directory
  | deeper _ _ ih => exact ih

/-- **What is reached from a directory** is reached from the one above it. -/
theorem cons (above : t.entryAt? l = some .directory) (h : t.Reached (l ++ [name]) names e) :
    t.Reached l (name :: names) e := by
  induction h with
  | child directory found =>
      have first : t.Reached l [name] .directory := .child above directory
      exact first.deeper (List.append_assoc .. ▸ found)
  | deeper _ found ih => exact ih.deeper (by simpa using found)

/-- What is reached by more than one name is reached from the directory of the first one. -/
theorem of_cons (h : t.Reached l (name :: rest) e) (more : rest ≠ []) :
    t.Reached (l ++ [name]) rest e := by
  generalize whole : name :: rest = names at h
  induction h generalizing rest with
  | child =>
      cases whole
      exact absurd rfl more
  | @deeper names last e above found ih =>
      rcases List.cons_eq_append_iff.mp whole with ⟨rfl, -⟩ | ⟨names, rfl, rfl⟩
      · exact absurd rfl above.ne_nil
      have found : t.entryAt? (l ++ [name] ++ (names ++ [last])) = some e := by simpa using found
      by_cases first : names = []
      · subst first
        exact .child above.entryAt?_eq found
      · exact .deeper (ih first rfl) found

end Reached

/-! ### Scans -/

/-- **What a directory lists** is what is there. -/
theorem mem_listing_iff : (name, e) ∈ t.listing l ↔ t.entryAt? (l ++ [name]) = some e := by
  refine ⟨fun listed => (of_mem_listing listed).2, fun found => List.mem_filterMap.mpr ?_⟩
  have entry := (eq_or_mem_of_entryAt? found).resolve_left (by simp)
  exact ⟨_, entry, by simp [found]⟩

/-- What is found in a directory is what it lists, or what is found below a directory among that. -/
theorem mem_below_of_directory {x : List String × FileEntry}
    (here : t.entryAt? l = some .directory) :
    x ∈ t.below l ↔ ∃ name e, (name, e) ∈ t.listing l ∧
      (x = ([name], e) ∨ e.isDirectory = true ∧
        ∃ y ∈ t.below (l ++ [name]), x = (name :: y.1, y.2)) := by
  rw [below, if_pos here]
  constructor
  · intro h
    rcases List.mem_append.mp h with other | folder
    · obtain ⟨⟨name, e⟩, listed, rfl⟩ := List.mem_map.mp other
      exact ⟨name, e, List.mem_of_mem_filter listed, .inl rfl⟩
    · obtain ⟨⟨⟨name, e⟩, listed⟩, -, found⟩ := List.mem_flatMap.mp folder
      obtain ⟨listed, isDirectory⟩ := List.mem_filter.mp (List.mem_mergeSort.mp listed)
      rcases List.mem_cons.mp found with rfl | deeper
      · exact ⟨name, e, listed, .inl rfl⟩
      · obtain ⟨y, hy, rfl⟩ := List.mem_map.mp deeper
        exact ⟨name, e, listed, .inr ⟨isDirectory, y, hy, rfl⟩⟩
  · rintro ⟨name, e, listed, found⟩
    rw [List.mem_append]
    cases isDirectory : e.isDirectory with
    | false =>
        obtain rfl : x = ([name], e) := by simpa [isDirectory] using found
        have other := List.mem_filter (p := fun x => !x.2.isDirectory).mpr
          ⟨listed, by simp [isDirectory]⟩
        exact .inl (List.mem_map.mpr ⟨(name, e), other, rfl⟩)
    | true =>
        have folder : (name, e) ∈
            ((t.listing l).filter fun x => x.2.isDirectory).mergeSort (·.1 ≤ ·.1) := by
          rw [List.mem_mergeSort, List.mem_filter]
          exact ⟨listed, isDirectory⟩
        refine .inr (List.mem_flatMap.mpr ⟨⟨(name, e), folder⟩, List.mem_attach _ _, ?_⟩)
        rcases found with rfl | ⟨-, y, hy, rfl⟩
        · exact List.mem_cons_self
        · exact List.mem_cons_of_mem _ (List.mem_map_of_mem hy)

/-- Nothing is found in anything but a directory that is not closed. -/
theorem below_of_not_directory (other : t.entryAt? l ≠ some .directory) : t.below l = [] := by
  rw [below, if_neg other]

/-- **Scans find** exactly what is reached. -/
theorem mem_below_iff_reached : (names, e) ∈ t.below l ↔ t.Reached l names e := by
  induction names generalizing l with
  | nil =>
      refine ⟨fun found => ?_, fun h => absurd rfl h.ne_nil⟩
      by_cases here : t.entryAt? l = some .directory
      · obtain ⟨name, e', -, same | ⟨-, y, -, same⟩⟩ := (mem_below_of_directory here).mp found <;>
          cases same
      · rw [below_of_not_directory here] at found
        cases found
  | cons name rest ih =>
      by_cases here : t.entryAt? l = some .directory
      · rw [mem_below_of_directory here]
        constructor
        · rintro ⟨name, e', listed, same | ⟨-, ⟨names, e⟩, deeper, same⟩⟩
          · cases same
            exact .child here (mem_listing_iff.mp listed)
          · cases same
            exact (ih.mp deeper).cons here
        · intro h
          by_cases last : rest = []
          · subst last
            exact ⟨name, e, mem_listing_iff.mpr h.entryAt?_eq, .inl rfl⟩
          · have on := h.of_cons last
            exact ⟨name, .directory, mem_listing_iff.mpr on.directory,
              .inr ⟨rfl, _, ih.mpr on, rfl⟩⟩
      · rw [below_of_not_directory here]
        exact ⟨nofun, fun h => absurd h.directory here⟩

end FileTree

end ProcessStubs
