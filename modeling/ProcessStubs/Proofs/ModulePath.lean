import ProcessStubs.Destination
import ProcessStubs.RuntimeReference

/-!
# Paths of modules

A usable name holds no slash, so the file of a module is one name below the directory of its
package, and within one package different types have different files.

## Main results

* `not_mem_of_isUsableName`: a character that cannot stand in an identifier is in no usable name.
* `relativePath_of_isUsableName`: the file of a module is a child of the directory of its package.
* `relativePath_of_isPackageName`: the names on the way to a module.
* `relativePath_eq_iff_typeName_eq`: in one package, modules share a path exactly if their types
  share a name.
-/

namespace ProcessStubs

open Text

namespace Text

/-- A text without a separator is split into itself. -/
theorem split_of_not_mem {sep : Char} {s : String} (h : sep ∉ s.toList) : split sep s = [s] := by
  have whole : splitWhere (· == sep) s.toList = [s.toList] :=
    splitWhere_of_forall fun c hc => beq_eq_false_iff_ne.mpr fun heq => h (heq ▸ hc)
  rw [split, whole, List.map_singleton, String.ofList_toList]

/-- All characters of an identifier may stand inside of one. -/
theorem isIdentifierPart_of_mem {s : String} {c : Char} (h : isIdentifier s = true)
    (hc : c ∈ s.toList) : isIdentifierPart c = true := by
  rw [isIdentifier] at h
  cases hs : s.toList with
  | nil => simp [hs] at hc
  | cons d rest =>
      simp only [hs, Bool.and_eq_true, List.all_eq_true] at h
      rw [hs] at hc
      rcases List.mem_cons.mp hc with rfl | hc
      · simp [isIdentifierPart, h.1]
      · exact h.2 c hc

/-- A usable name is an identifier. -/
theorem isIdentifier_of_isUsableName {s : String} (h : isUsableName s = true) :
    isIdentifier s = true := by
  rw [isUsableName, Bool.and_eq_true] at h
  exact h.1

/-- A character that cannot stand in an identifier is in no usable name. -/
theorem not_mem_of_isUsableName {s : String} {c : Char} (h : isUsableName s = true)
    (hc : isIdentifierPart c = false) : c ∉ s.toList := by
  intro hmem
  have part := isIdentifierPart_of_mem (isIdentifier_of_isUsableName h) hmem
  rw [hc] at part
  cases part

/-- A slash cannot stand in an identifier. -/
theorem isIdentifierPart_slash : isIdentifierPart '/' = false := by decide +kernel

/-- A period cannot stand in an identifier. -/
theorem isIdentifierPart_period : isIdentifierPart '.' = false := by decide +kernel

/-- The character zero cannot stand in an identifier. -/
theorem isIdentifierPart_zero : isIdentifierPart '\x00' = false := by decide +kernel

/-- A usable name is not empty. -/
theorem ne_empty_of_isUsableName {s : String} (h : isUsableName s = true) : s ≠ "" := by
  rintro rfl
  cases h

end Text

/-- A text that is one name is read as a path of this name alone. -/
theorem Path.ofString_of_name {s : String} (slash : '/' ∉ s.toList) (empty : s ≠ "")
    (dot : s ≠ ".") : Path.ofString s = ⟨.relative, [s]⟩ := by
  have names : Path.splitNames s = [s] := by
    simp [Path.splitNames, split_of_not_mem slash, empty, dot]
  rw [Path.ofString]
  rw [names]
  cases hs : s.toList with
  | nil => rfl
  | cons c rest =>
      have hc : c ≠ '/' := fun heq => slash (by rw [hs, heq]; exact List.mem_cons_self)
      split
      · simp_all
      · simp_all
      · simp_all
      · rfl

/-- A usable name is read as a path of this name alone. -/
theorem Path.ofString_of_isUsableName {s : String} (h : isUsableName s = true) :
    Path.ofString s = ⟨.relative, [s]⟩ := by
  refine Path.ofString_of_name (not_mem_of_isUsableName h isIdentifierPart_slash)
    (ne_empty_of_isUsableName h) ?_
  rintro rfl
  exact not_mem_of_isUsableName h isIdentifierPart_period (by decide)

/-- The names of a package are usable. -/
theorem isUsableName_of_mem_package {packageName name : String}
    (h : isPackageName packageName = true) (hname : name ∈ Text.split '.' packageName) :
    isUsableName name = true := by
  rw [isPackageName, Bool.and_eq_true, List.all_eq_true] at h
  exact h.2 name hname

namespace Stub

/-- The directory of a package, below the place where modules are written. -/
def packageDirectory (packageName : String) : Path :=
  ((Text.split '.' packageName).filter (· != "")).foldl (fun p part => p / Path.ofString part)
    ⟨.relative, []⟩

/-- The name of the file of a usable type is one name of a path. -/
theorem ofString_fileName {typeName : String} (h : isUsableName typeName = true) :
    Path.ofString (typeName ++ moduleSuffix) = ⟨.relative, [typeName ++ moduleSuffix]⟩ := by
  have slash : '/' ∉ (typeName ++ moduleSuffix).toList := by
    simp [moduleSuffix, not_mem_of_isUsableName h isIdentifierPart_slash]
  have suffix : moduleSuffix.length = 3 := by decide
  have length : 3 ≤ (typeName ++ moduleSuffix).length := by
    rw [String.length_append, suffix]
    omega
  refine Path.ofString_of_name slash ?_ ?_
  · intro heq
    rw [heq] at length
    exact absurd length (by decide)
  · intro heq
    rw [heq] at length
    exact absurd length (by decide)

/-- **The file of a module** is one name below the directory of its package. -/
theorem relativePath_of_isUsableName {s : Stub} (h : isUsableName s.typeName = true) :
    s.relativePath moduleSuffix =
      (packageDirectory s.packageName).child (s.typeName ++ moduleSuffix) := by
  rw [relativePath, packageDirectory]
  rw [List.foldl_append, List.foldl_cons, List.foldl_nil, ofString_fileName h]
  rfl

/-- Usable names lead further down, one directory each. -/
theorem foldl_ofString_of_isUsableName {names : List String}
    (h : ∀ name ∈ names, isUsableName name = true) (p : Path) :
    names.foldl (fun p part => p / Path.ofString part) p =
      { p with parts := p.parts ++ names } := by
  induction names generalizing p with
  | nil => simp
  | cons name names ih =>
      obtain ⟨hname, hnames⟩ := List.forall_mem_cons.mp h
      have child : p / Path.ofString name = { p with parts := p.parts ++ [name] } := by
        rw [Path.ofString_of_isUsableName hname]
        rfl
      rw [List.foldl_cons, child, ih hnames]
      simp

/-- The directory of a package has the names of the package. -/
theorem packageDirectory_of_isPackageName {packageName : String}
    (h : isPackageName packageName = true) :
    packageDirectory packageName = ⟨.relative, Text.split '.' packageName⟩ := by
  have usable (name) (hname : name ∈ Text.split '.' packageName) : isUsableName name = true :=
    isUsableName_of_mem_package h hname
  have nonempty : (Text.split '.' packageName).filter (· != "") = Text.split '.' packageName :=
    List.filter_eq_self.mpr fun name hname => by
      simpa using ne_empty_of_isUsableName (usable name hname)
  rw [packageDirectory, nonempty, foldl_ofString_of_isUsableName usable]
  rfl

/-- The names on the way to a module are those of its package and that of its file. -/
theorem relativePath_of_isPackageName {s : Stub} (package : isPackageName s.packageName = true)
    (type : isUsableName s.typeName = true) :
    s.relativePath moduleSuffix =
      ⟨.relative, Text.split '.' s.packageName ++ [s.typeName ++ moduleSuffix]⟩ := by
  rw [relativePath_of_isUsableName type, packageDirectory_of_isPackageName package]
  rfl

/-- The path of a module does not hold the character zero. -/
theorem hasZero_relativePath {s : Stub} (package : isPackageName s.packageName = true)
    (type : isUsableName s.typeName = true) :
    (s.relativePath moduleSuffix).hasZero = false := by
  rw [relativePath_of_isPackageName package type, Path.hasZero_eq_false_iff]
  intro name hname
  rcases List.mem_append.mp hname with hname | hname
  · exact not_mem_of_isUsableName (isUsableName_of_mem_package package hname)
      isIdentifierPart_zero
  · rw [List.mem_singleton.mp hname]
    simp [moduleSuffix, not_mem_of_isUsableName type isIdentifierPart_zero]

/-- Neither do the directories on the way to a module. -/
theorem hasZero_of_mem_components {s : Stub} (package : isPackageName s.packageName = true)
    (type : isUsableName s.typeName = true) :
    ∀ part ∈ (s.relativePath moduleSuffix).parent.components,
      (Path.ofString part).hasZero = false := by
  intro part hpart
  rw [relativePath_of_isPackageName package type] at hpart
  have name : part ∈ Text.split '.' s.packageName := by
    simpa [Path.parent, Path.components, Path.isAbsolute] using hpart
  have usable := isUsableName_of_mem_package package name
  rw [Path.ofString_of_isUsableName usable, Path.hasZero_eq_false_iff]
  simpa using not_mem_of_isUsableName usable isIdentifierPart_zero

/-- **Modules of one package.** Usable types of one package have the same file exactly if they have
the same name. -/
theorem relativePath_eq_iff_typeName_eq {s t : Stub} (package : s.packageName = t.packageName)
    (hs : isUsableName s.typeName = true) (ht : isUsableName t.typeName = true) :
    s.relativePath moduleSuffix = t.relativePath moduleSuffix ↔ s.typeName = t.typeName := by
  rw [relativePath_of_isUsableName hs, relativePath_of_isUsableName ht, package]
  constructor
  · intro heq
    have parts := congrArg Path.parts heq
    simpa [Path.child] using parts
  · intro heq
    rw [heq]

/-- A stub that can be written has a usable type name. -/
theorem isUsableName_of_unusableName?_eq_none {s : Stub} (h : s.unusableName? = none) :
    isUsableName s.typeName = true := by
  cases usable : isUsableName s.typeName with
  | true => rfl
  | false => simp [unusableName?, usable] at h

end Stub

end ProcessStubs
