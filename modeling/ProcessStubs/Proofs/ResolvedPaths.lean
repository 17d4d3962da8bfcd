import ProcessStubs.Proofs.PathSize
import ProcessStubs.Settings.Draft

/-!
# Resolved paths

A path that starts at the root and meets neither two dots nor a link is resolved: it is its own real
path, whether there is anything at its end or not. Written and read again it is the same path, so
nothing is lost when such a path goes through a file.

## Main definitions

* `FileTree.IsResolved`: a path that is resolved.

## Main results

* `Path.ofString_toString`: a path from the root is read as it was written.
* `FileTree.IsResolved.realPath_eq`: a resolved path is its own real path.
* `FileTree.IsResolved.realPath_join`: it stays itself when it is taken from a directory.
* `Draft.baseOf_none`: the working directory is its own real path.
-/

namespace ProcessStubs

open Text

/-! ### Paths that are written -/

namespace Path

variable {p : Path}

/-- A path from the root is written with a slash before each name. -/
theorem toString_of_root (root : p.anchor = .root) : p.toString = "/" ++ joinWith "/" p.parts := by
  simp [toString, root, Anchor.text]

/-- The names of a path from the root are read as they were written. -/
theorem splitNames_toString (root : p.anchor = .root) (normal : p.IsNormal)
    (slash : ∀ name ∈ p.parts, '/' ∉ name.toList) : splitNames p.toString = p.parts := by
  have chars : p.toString.toList = '/' :: (joinWith "/" p.parts).toList := by
    rw [toString_of_root root, String.toList_append]
    rfl
  have pieces : split '/' p.toString = "" :: split '/' (joinWith "/" p.parts) := by
    rw [split, chars]
    rfl
  rw [splitNames, pieces]
  cases empty : p.parts with
  | nil => rfl
  | cons name rest =>
      rw [← empty]
      have names : split '/' (joinWith "/" p.parts) = p.parts :=
        Text.split_joinWith (by rw [empty]; exact List.cons_ne_nil _ _) slash
      rw [names, List.filter_cons_of_neg (by simp), List.filter_eq_self]
      intro part hpart
      simpa [IsNormalName] using normal part hpart

/-- **A path from the root is read as it was written**, if no name of it is empty, a dot, or holds a
slash. -/
theorem ofString_toString (root : p.anchor = .root) (normal : p.IsNormal)
    (slash : ∀ name ∈ p.parts, '/' ∉ name.toList) : ofString p.toString = p := by
  -- What follows the first slash is the end, or the first character of a name, which is no slash.
  have start : p.toString.toList = ['/'] ∨
      ∃ c rest, p.toString.toList = '/' :: c :: rest ∧ c ≠ '/' := by
    rw [toString_of_root root, String.toList_append]
    cases empty : p.parts with
    | nil => exact .inl rfl
    | cons name names =>
        have hname : name ∈ p.parts := by rw [empty]; exact List.mem_cons_self
        obtain ⟨c, rest, chars⟩ : ∃ c rest, name.toList = c :: rest :=
          List.exists_cons_of_ne_nil fun none =>
            (normal name hname).1 (String.toList_eq_nil_iff.mp none)
        have other : c ≠ '/' := by
          rintro rfl
          exact slash name hname (by rw [chars]; exact List.mem_cons_self)
        right
        cases names with
        | nil => exact ⟨c, rest, by simp [joinWith, chars], other⟩
        | cons next names =>
            exact ⟨c, rest ++ '/' :: (joinWith "/" (next :: names)).toList,
              by simp [joinWith, chars], other⟩
  have names := splitNames_toString root normal slash
  obtain ⟨anchor, parts⟩ := p
  obtain rfl : anchor = .root := root
  rw [ofString, names]
  rcases start with single | ⟨c, rest, more, other⟩
  · rw [single]
    rfl
  · rw [more]
    split <;> simp_all

end Path

/-! ### Paths that are resolved -/

namespace FileTree

variable {t : FileTree} {p : Path} {l here : Location} {names : List String}

/-- Names that lead straight on are resolved to themselves. -/
theorem Straight.resolveNames_eq (h : t.Straight (here ++ names)) (depth : Nat)
    (active : List Location) :
    t.resolveNames depth active here names = .resolved (here ++ names) := by
  induction names generalizing here with
  | nil => rw [resolveNames, List.append_nil]
  | cons name rest ih =>
      have down : name ≠ ".." := (h.named name (by simp)).2
      rw [List.append_cons] at h
      have on := ih h
      have ends := h.ends (here ++ [name]) (List.prefix_append _ _)
      rw [resolveNames, if_neg down, List.append_cons here name rest, ← on]
      cases found : t.entryAt? (here ++ [name]) with
      | none => simp only [found]
      | some e =>
          cases e with
          | link target => exact absurd rfl (ends _ found target)
          | _ => simp only [found]

/-- **A location without links** is its own real path. -/
theorem Straight.realPath_eq (h : t.Straight l) (nonzero : (Path.mk .root l).hasZero = false) :
    t.realPath ⟨.root, l⟩ = .ok ⟨.root, l⟩ := by
  have resolved : t.resolveNames t.entries.length [] (t.origin ⟨.root, l⟩) l = .resolved l :=
    (show t.Straight ([] ++ l) from h).resolveNames_eq _ _
  rw [realPath, if_neg (by simp [nonzero])]
  simp only [resolved]
  split
  · next f located => rw [if_neg (h.locate_ne_linkLoop located)]
  · rfl

/-- **A resolved path**: it starts at the root, its names can be those of files, and there is no
link on the way. -/
structure IsResolved (t : FileTree) (p : Path) : Prop where
  root : p.anchor = .root
  straight : t.Straight p.parts
  slash : ∀ name ∈ p.parts, '/' ∉ name.toList
  nonzero : p.hasZero = false

namespace IsResolved

/-- A resolved path is its own real path. -/
theorem realPath_eq (h : t.IsResolved p) : t.realPath p = .ok p := by
  obtain ⟨anchor, parts⟩ := p
  obtain rfl : anchor = .root := h.root
  exact h.straight.realPath_eq h.nonzero

/-- A resolved path is read as it was written. -/
theorem ofString_toString (h : t.IsResolved p) : Path.ofString p.toString = p :=
  Path.ofString_toString h.root (fun name hname => (h.straight.named name hname).1) h.slash

/-- **A resolved path that was written** is found from every directory. -/
theorem realPath_join (h : t.IsResolved p) (base : Path) :
    t.realPath (base / Path.ofString p.toString) = .ok p := by
  have absolute : base / p = p := if_pos (by simp [Path.isAbsolute, h.root])
  rw [h.ofString_toString, absolute, h.realPath_eq]

end IsResolved

end FileTree

/-- **The working directory** is its own real path. -/
theorem Draft.baseOf_none {t : FileTree} (proper : t.Proper)
    (nonzero : (Path.mk .root t.workingDirectory).hasZero = false) :
    baseOf t none = .ok ⟨.root, t.workingDirectory⟩ := by
  have straight : t.Straight t.workingDirectory := proper.straight_origin ⟨.relative, []⟩
  rw [baseOf, realPath, Option.getD_none, straight.realPath_eq nonzero]
  rfl

end ProcessStubs
