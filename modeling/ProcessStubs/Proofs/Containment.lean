import Mathlib.Data.List.Basic
import ProcessStubs.Proofs.Frozen
import ProcessStubs.Proofs.Preview
import ProcessStubs.Proofs.RealPath

/-!
# Modules stay in the directory of their package

Whatever a document calls its processes and beans, a stub that is written is a file of one name
directly in the directory of its package: a usable name leads neither up nor further down, and none
is dropped on the way. The names of a package are told apart by its dots, so that two stubs share a
file exactly if they share a target.

## Main definitions

* `IsPlainName`: the name of a file or a directory that leads one step down and no further.
* `Settings.Contains`: a path of a module directly in the directory of the package.

## Main results

* `Text.split_injective`: the pieces of a text and the separator make up the text.
* `Settings.contains_module`: where a usable stub of the package goes.
* `modules_stay_in_package`: the same for the stubs of all documents, and which stubs share a path.
-/

namespace ProcessStubs

open Text

namespace Text

/-- The pieces of a list with the separator between them are the list. -/
theorem intercalate_splitWhere {α : Type} [DecidableEq α] (sep : α) (l : List α) :
    [sep].intercalate (splitWhere (· == sep) l) = l := by
  induction l with
  | nil => rfl
  | cons a rest ih =>
      rcases pieces : splitWhere (· == sep) rest with _ | ⟨piece, others⟩
      · exact absurd pieces (splitWhere_ne_nil _ rest)
      rw [pieces] at ih
      by_cases h : a = sep
      · subst h
        simp only [splitWhere, beq_self_eq_true, if_true, pieces]
        calc [a].intercalate ([] :: piece :: others)
            = a :: [a].intercalate (piece :: others) := by simp [List.intercalate]
          _ = a :: rest := by rw [ih]
      · simp only [splitWhere, beq_iff_eq, h, if_false, pieces]
        calc [sep].intercalate ((a :: piece) :: others)
            = a :: [sep].intercalate (piece :: others) := by
              cases others <;> simp [List.intercalate]
          _ = a :: rest := by rw [ih]

/-- **Texts with the same pieces** are the same. -/
theorem split_injective (sep : Char) : Function.Injective (split sep) := by
  intro s t h
  have pieces : splitWhere (· == sep) s.toList = splitWhere (· == sep) t.toList :=
    List.map_injective_iff.mpr (fun _ _ => String.ofList_inj.mp) h
  refine String.toList_inj.mp ?_
  rw [← intercalate_splitWhere sep s.toList, pieces, intercalate_splitWhere]

end Text

/-- A name that leads one step down and no further. -/
structure IsPlainName (name : String) : Prop where
  entry : IsEntryName name
  slash : '/' ∉ name.toList

/-- A name that is no dots, since it holds another character, is that of an entry. -/
theorem isEntryName_of_mem {name : String} {c : Char} (h : c ∈ name.toList) (hc : c ≠ '.') :
    IsEntryName name := by
  refine ⟨⟨?_, ?_⟩, ?_⟩
  all_goals
    rintro rfl
    simp [hc] at h

/-- Usable names are plain. -/
theorem isPlainName_of_isUsableName {name : String} (h : isUsableName name = true) :
    IsPlainName name where
  entry := by
    have period := not_mem_of_isUsableName h isIdentifierPart_period
    rcases hname : name.toList with _ | ⟨c, rest⟩
    · exact absurd (String.toList_eq_nil_iff.mp hname) (ne_empty_of_isUsableName h)
    · have hc : c ∈ name.toList := hname ▸ List.mem_cons_self
      exact isEntryName_of_mem hc fun heq => period (heq ▸ hc)
  slash := not_mem_of_isUsableName h isIdentifierPart_slash

/-- The file of a usable type has a plain name. -/
theorem isPlainName_fileName {typeName : String} (h : isUsableName typeName = true) :
    IsPlainName (typeName ++ moduleSuffix) where
  entry := isEntryName_of_mem (show 'y' ∈ _ by simp [moduleSuffix]) (by decide)
  slash := by simp [moduleSuffix, not_mem_of_isUsableName h isIdentifierPart_slash]

/-- **Stubs share a file** exactly if they share a target. -/
theorem Stub.relativePath_eq_iff_target_eq {u v : Stub}
    (hu : isPackageName u.packageName = true) (hv : isPackageName v.packageName = true)
    (usable : u.unusableName? = none) (usable' : v.unusableName? = none) :
    u.relativePath moduleSuffix = v.relativePath moduleSuffix ↔ u.target = v.target := by
  have type := isUsableName_of_unusableName?_eq_none usable
  have type' := isUsableName_of_unusableName?_eq_none usable'
  rw [relativePath_of_isPackageName hu type, relativePath_of_isPackageName hv type']
  constructor
  · intro same
    obtain ⟨packages, files⟩ := List.append_inj' (congrArg Path.parts same) rfl
    have names : u.typeName = v.typeName := by simpa using files
    exact Prod.ext (split_injective '.' packages) names
  · intro same
    obtain ⟨package, name⟩ := Prod.mk.inj same
    rw [package, name]

/-- The directory of a package has the names of the package below the directory that modules are
written to. -/
theorem Settings.packagePath_of_isPackageName {s : Settings}
    (h : isPackageName s.packageName = true) :
    s.packagePath = { s.outputDirectory with
      parts := s.outputDirectory.parts ++ Text.split '.' s.packageName } :=
  Stub.foldl_ofString_of_isUsableName (fun _ hname => isUsableName_of_mem_package h hname) _

/-- **A path of a module** directly in the directory of the package. -/
structure Settings.Contains (s : Settings) (u : Stub) (p : Path) : Prop where
  /-- It is the file of the type in the directory of the package. -/
  path : p = s.packagePath / Path.ofString (u.typeName ++ moduleSuffix)
  /-- Below the directory that modules are written to are the names of the package and one more. -/
  below : p = { s.outputDirectory with
    parts := s.outputDirectory.parts ++
      (Text.split '.' s.packageName ++ [u.typeName ++ moduleSuffix]) }
  /-- Each of them leads one step down. -/
  plain : ∀ name ∈ Text.split '.' s.packageName ++ [u.typeName ++ moduleSuffix], IsPlainName name
  /-- So the file is directly in the directory of the package. -/
  direct : p.parent = s.packagePath

/-- **A usable stub of the package** goes to a path directly in the directory of the package. -/
theorem Settings.contains_module {s : Settings} (package : isPackageName s.packageName = true)
    {u : Stub} (member : u.packageName = s.packageName) (usable : u.unusableName? = none) :
    s.Contains u (s.outputDirectory / u.relativePath moduleSuffix) := by
  have type := Stub.isUsableName_of_unusableName?_eq_none usable
  have directory := packagePath_of_isPackageName package
  have path : s.outputDirectory / u.relativePath moduleSuffix = { s.outputDirectory with
      parts := s.outputDirectory.parts ++
        (Text.split '.' s.packageName ++ [u.typeName ++ moduleSuffix]) } := by
    rw [Stub.relativePath_of_isPackageName (member ▸ package) type, member]
    rfl
  refine ⟨?_, path, ?_, ?_⟩
  · rw [path, directory, Stub.ofString_fileName type, ← List.append_assoc]
    rfl
  · intro name hname
    rcases List.mem_append.mp hname with hname | hname
    · exact isPlainName_of_isUsableName (isUsableName_of_mem_package package hname)
    · rw [List.mem_singleton.mp hname]
      exact isPlainName_fileName type
  · rw [path, directory, Path.parent]
    simp only [← List.append_assoc, List.dropLast_concat]

/-- **Modules stay in the directory of their package**, whatever the documents are: each stub that
can be written goes to a path directly in it, and if it is written, this is the path it was written
to. Two stubs of any packages have the same path exactly if they have the same target. -/
theorem modules_stay_in_package :
    (∀ draft tree s, Draft.freeze draft tree = .ok s →
      ∀ document stubs, s.stubsOf document = .ok stubs → ∀ u ∈ stubs, u.unusableName? = none →
        s.Contains u (s.outputDirectory / u.relativePath moduleSuffix) ∧
        ∀ packageMarkers store w,
          ((Destination.directory s.outputDirectory packageMarkers).write store u).1 = .ok w →
          s.Contains u w.path) ∧
    ∀ u v : Stub, isPackageName u.packageName = true → isPackageName v.packageName = true →
      u.unusableName? = none → v.unusableName? = none →
      (u.relativePath moduleSuffix = v.relativePath moduleSuffix ↔ u.target = v.target) := by
  refine ⟨?_, fun u v => Stub.relativePath_eq_iff_target_eq⟩
  intro draft tree s frozen document stubs made u hu usable
  obtain ⟨package, -⟩ := Draft.freeze_ok frozen
  have contained := Settings.contains_module package
    (Settings.packageName_of_mem_stubsOf made hu) usable
  refine ⟨contained, ?_⟩
  intro packageMarkers store w written
  rcases (Destination.directory s.outputDirectory packageMarkers).write_cases store u with
    ⟨problem, unusable, -⟩ | ⟨-, w', done, -, path⟩ | ⟨-, f, failed⟩
  · cases usable.symm.trans unusable
  · cases written.symm.trans done
    exact path ▸ contained
  · cases written.symm.trans failed

/-- The service of a process whose id leads up stays in the directory of the package, and shares its
path with a stub of the same target. -/
theorem modules_stay_in_package_up :
    let document : ProcessDocument := ⟨[⟨"../up", some "Up", true, []⟩], [], none⟩
    let u := Stub.ofProcess "generated" ⟨"bpmngen.runtime", "RuntimeService"⟩ none "../up" "Up"
    Draft.empty.freeze ⟨[], []⟩ = .ok Settings.standard ∧
      Settings.standard.stubsOf document = .ok [u] ∧ u.unusableName? = none ∧
      isPackageName u.packageName = true ∧
      Settings.standard.Contains u
        (Settings.standard.outputDirectory / u.relativePath moduleSuffix) ∧
      (u.relativePath moduleSuffix = { u with origin := "up" }.relativePath moduleSuffix ↔
        u.target = { u with origin := "up" }.target) := by
  intro document u
  have made : Settings.standard.stubsOf document = .ok [u] := by
    have stubs : (Settings.standard.stubsOf document).toOption = some [u] := by decide +kernel
    cases h : Settings.standard.stubsOf document with
    | error fault => simp [h, Except.toOption] at stubs
    | ok l => simpa [h, Except.toOption] using stubs
  have usable : u.unusableName? = none := by decide +kernel
  have package : isPackageName u.packageName = true := by decide +kernel
  obtain ⟨stay, share⟩ := modules_stay_in_package
  exact ⟨Draft.freeze_empty, made, usable, package,
    (stay _ _ _ Draft.freeze_empty document _ made u List.mem_cons_self usable).1,
    share u { u with origin := "up" } package package usable usable⟩

end ProcessStubs
