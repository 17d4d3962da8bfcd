import ProcessStubs.Proofs.Containment
import ProcessStubs.Proofs.PathSize
import ProcessStubs.Proofs.Scanned
import ProcessStubs.Proofs.Settling

/-!
# A directory holds what memory does

Stubs are written to memory and below a directory, one after the other, each with the text of its
module or with another one. Below the directory, the module files are then those in memory, with the
bytes of the same texts; besides them there are only directories and markers, which never get in the
way of a module. So the same becomes of each stub in both, as long as no path is too long.

## Main definitions

* `WriteCall`, `Destination.writeAll`: calls of the writer, one after the other.
* `WriteCall.Regular`: what holds of a call so that it comes to the same in both.
* `FileTree.Orderly`: below a location there are directories of usable names and other files.
* `FileTree.Holds`: the module files below a location are those in memory.

## Main results

* `FileTree.Holds.writeText`: one call.
* `directory_refines_memory`: all calls.
-/

namespace ProcessStubs

open FileTree FileAction Text

/-- A call of the writer: a stub, and a text if it is not to be that of its module. -/
structure WriteCall where
  stub : Stub
  given : Option String

/-- The text that is written. -/
def WriteCall.text (c : WriteCall) : String := c.given.getD c.stub.moduleText

/-- What calls give one after the other, and what they leave. -/
def Destination.writeAll (d : Destination) (store : Store) :
    List WriteCall → List (Except WriteProblem Write) × Store
  | [] => ([], store)
  | c :: rest =>
    let (result, store) := d.writeText store c.stub c.text
    let (results, store) := d.writeAll store rest
    (result :: results, store)

/-- Memory takes every text. -/
theorem Destination.put_memory (store : Store) (u : Stub) (module : Path) (text : String) :
    ∃ w : Write, w.status =
        (if Assoc.get? module store.modules = some text then .unchanged else .written) ∧
      Destination.memory.put store u module text =
        (.ok w, { store with modules := Assoc.put module text store.modules }) :=
  ⟨_, rfl, rfl⟩

/-- One call gives one result. -/
theorem Destination.writeAll_singleton (d : Destination) (store : Store) (c : WriteCall) :
    (d.writeAll store [c]).1 = [(d.writeText store c.stub c.text).1] := rfl

/-- **A regular call**: its stub is in a package and its module is no marker, its text is without
carriage returns, and no name and no path on the way to its module is too long. -/
structure WriteCall.Regular (root : Path) (packageMarkers : Bool) (c : WriteCall) : Prop where
  package : isPackageName c.stub.packageName = true
  module : c.stub.typeName ++ moduleSuffix ≠ packageMarkerName
  text : '\r' ∉ c.text.toList
  short : ∀ name ∈ (c.stub.relativePath moduleSuffix).parts, name.utf8ByteSize ≤ maxNameBytes
  path : (root / c.stub.relativePath moduleSuffix).toString.utf8ByteSize ≤ maxPathBytes
  marker : packageMarkers = true →
    ((root / c.stub.relativePath moduleSuffix).parent.child packageMarkerName).toString.utf8ByteSize
      ≤ maxPathBytes

variable {root : Path} {packageMarkers : Bool} {c : WriteCall}

/-- **What a regular call takes below the root**: short names, and room for the paths of its module
and of the marker beside it. -/
theorem WriteCall.Regular.extents (regular : c.Regular root packageMarkers)
    (type : isUsableName c.stub.typeName = true) :
    (∀ name ∈ Text.split '.' c.stub.packageName ++ [c.stub.typeName ++ moduleSuffix],
      name.utf8ByteSize ≤ maxNameBytes) ∧
    root.extentWith (Text.split '.' c.stub.packageName ++ [c.stub.typeName ++ moduleSuffix]) ≤
      maxPathBytes + 1 ∧
    (packageMarkers = true → root.extentWith (Text.split '.' c.stub.packageName ++
      [packageMarkerName]) ≤ maxPathBytes + 1) := by
  have names := c.stub.relativePath_of_isPackageName regular.package type
  have path := regular.path
  have marker := regular.marker
  have short := regular.short
  rw [names] at path marker short
  refine ⟨short, ?_, fun m => ?_⟩
  · rw [← root.utf8ByteSize_below (by simp)]
    exact Nat.succ_le_succ path
  · have same : (root / ⟨.relative, Text.split '.' c.stub.packageName ++
        [c.stub.typeName ++ moduleSuffix]⟩ : Path).parent.child packageMarkerName =
        root.below (Text.split '.' c.stub.packageName ++ [packageMarkerName]) := by
      change Path.child (Path.parent { root with parts := root.parts ++ _ }) _ = _
      rw [Path.parent, ← List.append_assoc, List.dropLast_concat]
      simp [Path.child, Path.below]
    rw [← root.utf8ByteSize_below (by simp), ← same]
    exact Nat.succ_le_succ (marker m)

/-- The module of a regular call fits in the directory of its package. -/
theorem WriteCall.Regular.fits (regular : c.Regular root packageMarkers)
    (type : isUsableName c.stub.typeName = true) (clean : root.hasZero = false) :
    (root.below (Text.split '.' c.stub.packageName)).Fits (c.stub.typeName ++ moduleSuffix) := by
  obtain ⟨short, whole, -⟩ := regular.extents type
  have nonzero : (root / c.stub.relativePath moduleSuffix).hasZero = false :=
    hasZero_join clean (c.stub.hasZero_relativePath regular.package type)
  have file := short _ (List.mem_append_right _ List.mem_cons_self)
  refine Path.fits_of_room (isPlainName_fileName type).entry file ?_ ?_
  · rw [c.stub.relativePath_of_isPackageName regular.package type] at nonzero
    change Path.hasZero { root with parts := root.parts ++ _ } = _ at nonzero
    rwa [← List.append_assoc] at nonzero
  · simpa [Path.extentWith, Path.below] using whole

namespace FileTree

variable {t t' : FileTree} {l : Location}

/-! ### Order below a location -/

/-- **Below a location there is order**: directories of usable names, files whose names hold a
period, and nothing else; and whatever there is is in a directory. -/
structure Orderly (t : FileTree) (l : Location) : Prop where
  entry : ∀ q name e, t.entryAt? (l ++ q ++ [name]) = some e →
    e = .directory ∧ isUsableName name = true ∨ (∃ c, e = .file c) ∧ '.' ∈ name.toList
  above : ∀ q name e, t.entryAt? (l ++ q ++ [name]) = some e →
    t.entryAt? (l ++ q) = some .directory

namespace Orderly

variable {q : List String} {name : String} {e : FileEntry}

/-- What has a usable name is a directory. -/
theorem eq_directory (h : t.Orderly l) (usable : isUsableName name = true)
    (found : t.entryAt? (l ++ q ++ [name]) = some e) : e = .directory := by
  rcases h.entry q name e found with ⟨directory, -⟩ | ⟨-, period⟩
  · exact directory
  · exact absurd period (not_mem_of_isUsableName usable isIdentifierPart_period)

/-- What has a period in its name is a file. -/
theorem exists_file (h : t.Orderly l) (period : '.' ∈ name.toList)
    (found : t.entryAt? (l ++ q ++ [name]) = some e) : ∃ c, e = .file c := by
  rcases h.entry q name e found with ⟨-, usable⟩ | ⟨file, -⟩
  · exact absurd period (not_mem_of_isUsableName usable isIdentifierPart_period)
  · exact file

/-- There are no links. -/
theorem linkFreeBelow (h : t.Orderly l) (directory : t.entryAt? l = some .directory) :
    t.LinkFreeBelow l := by
  intro q e found
  rcases List.eq_nil_or_concat q with rfl | ⟨q, name, rfl⟩
  · rw [List.append_nil, directory] at found
    cases found
    exact nofun
  · rw [List.concat_eq_append, ← List.append_assoc] at found
    rcases h.entry q name e found with ⟨rfl, -⟩ | ⟨⟨c, rfl⟩, -⟩
    · exact nofun
    · exact nofun

/-- The same order is kept where something of its kind is put in a directory. -/
theorem put (h : t.Orderly l) (above : t.entryAt? (l ++ q) = some .directory)
    (kind : e = .directory ∧ isUsableName name = true ∨ (∃ c, e = .file c) ∧ '.' ∈ name.toList)
    (growth : Grows t (t.put (l ++ q ++ [name]) e)) : (t.put (l ++ q ++ [name]) e).Orderly l := by
  have new (q' name' e') (found : (t.put (l ++ q ++ [name]) e).entryAt? (l ++ q' ++ [name']) =
      some e') : q' = q ∧ name' = name ∧ e' = e ∨ t.entryAt? (l ++ q' ++ [name']) = some e' := by
    by_cases same : l ++ q' ++ [name'] = l ++ q ++ [name]
    · rw [same, entryAt?_put_self t (by simp) e] at found
      obtain ⟨places, names⟩ := List.append_inj' same rfl
      exact .inl ⟨List.append_cancel_left places, List.singleton_inj.mp names,
        (Option.some.inj found).symm⟩
    · rw [entryAt?_put_of_ne t same e] at found
      exact .inr found
  constructor
  · intro q' name' e' found
    rcases new q' name' e' found with ⟨-, rfl, rfl⟩ | old
    · exact kind
    · exact h.entry q' name' e' old
  · intro q' name' e' found
    rcases new q' name' e' found with ⟨rfl, -, -⟩ | old
    · exact growth.directory above
    · exact growth.directory (h.above q' name' e' old)

/-- What is built keeps the order. -/
theorem build (h : t.Orderly l) (step : Build l t t') : t'.Orderly l := by
  have growth := step.grows
  cases step with
  | directory above usable free => exact h.put above (.inl ⟨rfl, usable⟩) growth
  | marker above free =>
      exact h.put above (.inr ⟨⟨_, rfl⟩, by simp [packageMarkerName]⟩) growth

/-- What is built keeps the order, step by step. -/
theorem builds (h : t.Orderly l) (steps : Builds l t t') : t'.Orderly l := by
  induction steps with
  | refl => exact h
  | tail _ step ih => exact ih.build step

/-- Nothing is closed. -/
theorem entryAt?_ne_closed (h : t.Orderly l) (directory : t.entryAt? l = some .directory) :
    t.entryAt? (l ++ q) ≠ some .closed := by
  intro closed
  rcases List.eq_nil_or_concat q with rfl | ⟨q, name, rfl⟩
  · rw [List.append_nil, directory] at closed
    cases closed
  · rw [List.concat_eq_append, ← List.append_assoc] at closed
    rcases h.entry q name _ closed with ⟨other, -⟩ | ⟨⟨c, other⟩, -⟩ <;> cases other

/-- Directories lead to all there is. -/
theorem reached (h : t.Orderly l) (found : t.entryAt? (l ++ q ++ [name]) = some e) :
    t.Reached l (q ++ [name]) e := by
  induction q using List.reverseRecOn generalizing name e with
  | nil =>
      have above := h.above [] name e found
      rw [List.append_nil] at above found
      exact .child above found
  | append_singleton q last ih =>
      have above := h.above (q ++ [last]) name e found
      rw [← List.append_assoc] at above
      rw [List.append_assoc] at found
      exact .deeper (ih above) found

end Orderly

/-! ### Modules below a location -/

/-- **The module files below a location are those in memory**, with the bytes of the same texts. -/
structure Holds (t : FileTree) (l : Location) (modules : List (Path × String)) : Prop where
  orderly : t.Orderly l
  /-- Files other than markers are modules. -/
  file_iff : ∀ q name content, name ≠ packageMarkerName →
    (t.entryAt? (l ++ q ++ [name]) = some (.file content) ↔
      ∃ text, Assoc.get? ⟨.relative, q ++ [name]⟩ modules = some text ∧ content = text.toUTF8)
  /-- Modules are at relative paths, and none is a marker. -/
  path : ∀ p ∈ Assoc.keys modules, ∃ q name, p = ⟨.relative, q ++ [name]⟩ ∧ name ≠ packageMarkerName
  /-- Texts are without carriage returns. -/
  text : ∀ x ∈ modules, '\r' ∉ x.2.toList

namespace Holds

variable {modules : List (Path × String)}

/-- An empty location holds what an empty memory does. -/
theorem empty (h : ∀ q, q ≠ [] → t.entryAt? (l ++ q) = none) : t.Holds l [] := by
  have none (q name) : t.entryAt? (l ++ q ++ [name]) = none := by
    rw [List.append_assoc]
    exact h _ (by simp)
  refine ⟨⟨?_, ?_⟩, ?_, by simp, by simp⟩
  · intro q name e found
    cases (none q name).symm.trans found
  · intro q name e found
    cases (none q name).symm.trans found
  · intro q name content _
    rw [none]
    simp [Assoc.get?]

/-- What is built is no module. -/
theorem build (h : t.Holds l modules) (step : Build l t t') : t'.Holds l modules := by
  refine ⟨h.orderly.build step, ?_, h.path, h.text⟩
  intro q name content module
  rw [← h.file_iff q name content module]
  cases step with
  | @directory q' name' above usable free =>
      by_cases same : l ++ q ++ [name] = l ++ q' ++ [name']
      · rw [same, entryAt?_put_self t (by simp) FileEntry.directory, free]
        simp
      · rw [entryAt?_put_of_ne t same FileEntry.directory]
  | @marker q' above free =>
      have other : l ++ q ++ [name] ≠ l ++ q' ++ [packageMarkerName] := fun same =>
        module (List.singleton_inj.mp (List.append_inj' same rfl).2)
      rw [entryAt?_put_of_ne t other]

/-- What is built is no module, step by step. -/
theorem builds (h : t.Holds l modules) (steps : Builds l t t') : t'.Holds l modules := by
  induction steps with
  | refl => exact h
  | tail _ step ih => exact ih.build step

/-- **A module that is stored** below the location and in memory. -/
theorem store (h : t.Holds l modules) {q : List String} {name text : String}
    (above : t.entryAt? (l ++ q) = some .directory) (period : '.' ∈ name.toList)
    (module : name ≠ packageMarkerName) (feeds : '\r' ∉ text.toList)
    (growth : Grows t (t.put (l ++ q ++ [name]) (.file text.toUTF8))) :
    (t.put (l ++ q ++ [name]) (.file text.toUTF8)).Holds l
      (Assoc.put ⟨.relative, q ++ [name]⟩ text modules) := by
  refine ⟨h.orderly.put above (.inr ⟨⟨_, rfl⟩, period⟩) growth, ?_, ?_, ?_⟩
  · intro q' name' content module'
    by_cases same : q' ++ [name'] = q ++ [name]
    · have place : l ++ q' ++ [name'] = l ++ q ++ [name] := by
        rw [List.append_assoc, same, ← List.append_assoc]
      rw [place, same, entryAt?_put_self t (by simp) (.file text.toUTF8), Assoc.get?_put_self]
      simp [eq_comm]
    · have place : l ++ q' ++ [name'] ≠ l ++ q ++ [name] := by
        rw [List.append_assoc, List.append_assoc]
        exact fun heq => same (List.append_cancel_left heq)
      have key : (⟨.relative, q' ++ [name']⟩ : Path) ≠ ⟨.relative, q ++ [name]⟩ := fun heq =>
        same (congrArg Path.parts heq)
      rw [entryAt?_put_of_ne t place, Assoc.get?_put_of_ne key]
      exact h.file_iff q' name' content module'
  · intro p hp
    rcases Assoc.mem_keys_put.mp hp with rfl | hp
    · exact ⟨q, name, rfl, module⟩
    · exact h.path p hp
  · exact Assoc.forall_mem_put feeds h.text

/-- A module that memory holds already. -/
theorem put_same (h : t.Holds l modules) {p : Path} {text : String}
    (got : Assoc.get? p modules = some text) : t.Holds l (Assoc.put p text modules) := by
  have same (p' : Path) : Assoc.get? p' (Assoc.put p text modules) = Assoc.get? p' modules := by
    by_cases heq : p' = p
    · rw [heq, Assoc.get?_put_self, got]
    · exact Assoc.get?_put_of_ne heq text modules
  refine ⟨h.orderly, ?_, ?_, ?_⟩
  · intro q name content module
    rw [same]
    exact h.file_iff q name content module
  · intro p' hp'
    rcases Assoc.mem_keys_put.mp hp' with rfl | hp'
    · exact h.path p' (Assoc.mem_keys.mpr ⟨text, Assoc.mem_of_get? got⟩)
    · exact h.path p' hp'
  · exact Assoc.forall_mem_put (h.text _ (Assoc.mem_of_get? got)) h.text

end Holds

/-! ### One call -/

/-- **The directories of a package can be entered** where there is order and there is room for their
paths. -/
theorem Opens.exists_of_enterAll {names : List String} {p : Path} {q : List String}
    {packageMarkers : Bool} (h : t.Opens p (l ++ q)) (directory : t.entryAt? l = some .directory)
    (orderly : t.Orderly l) (usable : ∀ name ∈ names, isUsableName name = true)
    (short : ∀ name ∈ names, name.utf8ByteSize ≤ maxNameBytes)
    (room : p.extentWith names ≤ maxPathBytes + 1)
    (markers : packageMarkers = true →
      p.extentWith (names ++ [packageMarkerName]) ≤ maxPathBytes + 1) :
    ∃ x t', (names.foldlM (enterDirectory packageMarkers) p).run.run t = (.ok x, t') := by
  induction names generalizing p q t with
  | nil => exact ⟨p, t, rfl⟩
  | cons name rest ih =>
      obtain ⟨usable_first, usable_rest⟩ := List.forall_mem_cons.mp usable
      obtain ⟨short_first, short_rest⟩ := List.forall_mem_cons.mp short
      obtain ⟨here, below⟩ := p.extentWith_cons name rest
      have fits : p.Fits name := Path.fits_of_room (Opens.isEntryName_of_isUsableName usable_first)
        short_first (h.hasZero_child usable_first) (Nat.le_trans here room)
      have marker_fits (m : packageMarkers = true) : (p.child name).Fits packageMarkerName := by
        refine Path.fits_of_room ⟨⟨by decide, by decide⟩, by decide⟩ (by decide) ?_ ?_
        · have nonzero := h.hasZero_child usable_first
          rw [Path.hasZero_eq_false_iff] at nonzero ⊢
          exact List.forall_mem_append.mpr ⟨nonzero, by simp [packageMarkerName]⟩
        · have whole := markers m
          simp only [Path.extentWith, Path.child, extent_append, extent_cons, extent_nil] at whole ⊢
          omega
      have linkFree := (orderly.linkFreeBelow directory).below q
      have settles := (h.enterDirectory_settles usable_first linkFree packageMarkers).above
      obtain ⟨t₁, first⟩ := h.exists_of_enterDirectory usable_first linkFree fits
        (fun e found => orderly.eq_directory usable_first found) marker_fits
      obtain ⟨-, folder⟩ := h.child_of_enterDirectory usable_first linkFree first
      have steps := settles.builds
      rw [first] at steps
      have directory' := steps.grows.directory directory
      rw [List.append_assoc] at folder
      have opens := folder.opens ((orderly.builds steps).entryAt?_ne_closed directory')
      rw [List.foldlM_cons, run_bind_of_ok first]
      refine ih opens directory' (orderly.builds steps) usable_rest short_rest
        (by rwa [below]) fun m => ?_
      rw [(p.extentWith_cons name (rest ++ [packageMarkerName])).2]
      exact markers m

variable {modules : List (Path × String)}

/-- **The package of a regular call** is there after its directories were seen to, and its module
fits. -/
theorem Holds.exists_of_ensurePackage (h : t.Holds l modules) (opens : t.Opens root l)
    (regular : c.Regular root packageMarkers) (usable : c.stub.unusableName? = none) :
    ∃ t', (ensurePackage root packageMarkers (c.stub.relativePath moduleSuffix)).run.run t =
        (.ok (), t') ∧
      Grows t t' ∧ t'.Holds l modules ∧ t'.Opens root l ∧
      t'.Opens (root.below (Text.split '.' c.stub.packageName))
        (l ++ Text.split '.' c.stub.packageName) ∧
      (root.below (Text.split '.' c.stub.packageName)).Fits (c.stub.typeName ++ moduleSuffix) := by
  have type := Stub.isUsableName_of_unusableName?_eq_none usable
  have usable_names (name) (hname : name ∈ Text.split '.' c.stub.packageName) :=
    isUsableName_of_mem_package regular.package hname
  obtain ⟨short, whole, markers⟩ := regular.extents type
  have room : root.extentWith (Text.split '.' c.stub.packageName) ≤ maxPathBytes + 1 := by
    simp only [Path.extentWith, extent_append] at whole ⊢
    omega
  have linkFree := h.orderly.linkFreeBelow opens.directory
  have opens' : t.Opens root (l ++ []) := by rwa [List.append_nil]
  obtain ⟨x, t', entered⟩ := opens'.exists_of_enterAll opens.directory h.orderly usable_names
    (fun name hname => short name (List.mem_append_left _ hname)) room markers
  have folder : t.Folder root l := .inl opens
  have steps := (folder.enterAll_settles usable_names linkFree packageMarkers).builds
  rw [entered] at steps
  obtain ⟨rfl, below⟩ := folder.folder_of_enterAll usable_names linkFree entered
  have there := below.opens
    ((h.orderly.builds steps).entryAt?_ne_closed (steps.grows.directory opens.directory))
  refine ⟨t', ?_, steps.grows, h.builds steps, opens.grows steps.grows, there,
    regular.fits type opens.hasZero_eq_false⟩
  rw [ensurePackage_eq regular.package type,
    run_bind_of_ok (ensureDirectories_of_opens opens), run_bind_of_ok entered]
  rfl

/-- **A text that is stored** below the location and in memory: it is there already in both, or in
neither. -/
theorem Holds.storeText (h : t.Holds l modules) {p : Path} {q : List String} {file text : String}
    (opens : t.Opens p (l ++ q)) (fits : p.Fits file) (period : '.' ∈ file.toList)
    (module : file ≠ packageMarkerName) (feeds : '\r' ∉ text.toList) :
    ∃ t', (ProcessStubs.storeText (p.child file) text).run.run t =
        (.ok (if Assoc.get? ⟨.relative, q ++ [file]⟩ modules = some text then .unchanged
          else .written), t') ∧
      t'.Holds l (Assoc.put ⟨.relative, q ++ [file]⟩ text modules) ∧ Grows t t' := by
  cases found : t.entryAt? (l ++ q ++ [file]) with
  | none =>
      have fresh : Assoc.get? ⟨.relative, q ++ [file]⟩ modules ≠ some text := by
        intro got
        have there := (h.file_iff q file text.toUTF8 module).mpr ⟨text, got, rfl⟩
        cases found.symm.trans there
      have growth := grows_put (e := .file text.toUTF8) (List.concat_ne_nil file (l ++ q))
        fun old there => nomatch found.symm.trans there
      have stored := storeText_of_other (opens.text?_free fits found)
        (Option.some_ne_none text).symm
        (opens.writeFile_free fits found text.toUTF8)
      rw [if_neg fresh]
      exact ⟨_, stored, h.store opens.directory period module feeds growth, growth⟩
  | some e =>
      obtain ⟨content, rfl⟩ := h.orderly.exists_file period found
      obtain ⟨current, got, rfl⟩ := (h.file_iff q file content module).mp found
      have read : t.text? (p.child file) = .ok (some current) := by
        rw [opens.text?_file fits found, textOfBytes_toUTF8 (h.text _ (Assoc.mem_of_get? got))]
        rfl
      by_cases same : current = text
      · subst same
        rw [got, if_pos rfl]
        exact ⟨t, storeText_of_same read, h.put_same got, .refl t⟩
      · have growth := grows_put (e := .file text.toUTF8) (List.concat_ne_nil file (l ++ q))
          fun old there => by
            cases found.symm.trans there
            exact .text (holdsText_toUTF8 current) (holdsText_toUTF8 text)
        have other : some current ≠ some text := fun heq => same (Option.some.inj heq)
        have stored := storeText_of_other read other
          (opens.writeFile_file fits found text.toUTF8)
        rw [got, if_neg other]
        exact ⟨_, stored, h.store opens.directory period module feeds growth, growth⟩

/-- **One call** comes to the same below the directory and in memory. -/
theorem Holds.writeText (h : t.Holds l modules) (opens : t.Opens root l)
    (regular : c.Regular root packageMarkers) (files : FileTree) (others : List (Path × String)) :
    ∃ result result' t' modules',
      (Destination.directory root packageMarkers).writeText ⟨others, t⟩ c.stub c.text =
        (result, ⟨others, t'⟩) ∧
      Destination.memory.writeText ⟨modules, files⟩ c.stub c.text = (result', ⟨modules', files⟩) ∧
      result.map Write.status = result'.map Write.status ∧
      Grows t t' ∧ t'.Opens root l ∧ t'.Holds l modules' := by
  cases usable : c.stub.unusableName? with
  | some problem =>
      exact ⟨.error problem, .error problem, t, modules, by rw [Destination.writeText, usable],
        by rw [Destination.writeText, usable], rfl, .refl t, opens, h⟩
  | none =>
      have type := Stub.isUsableName_of_unusableName?_eq_none usable
      have names := c.stub.relativePath_of_isPackageName regular.package type
      obtain ⟨t₁, ensured, growth₁, held, opens₁, there, fits⟩ :=
        h.exists_of_ensurePackage opens regular usable
      obtain ⟨t₂, stored, held₂, growth⟩ := held.storeText there fits
        (by simp [moduleSuffix]) regular.module regular.text
      have path : root / c.stub.relativePath moduleSuffix =
          (root.below (Text.split '.' c.stub.packageName)).child
            (c.stub.typeName ++ moduleSuffix) := by
        rw [names]
        change Path.mk root.anchor (root.parts ++ (_ ++ _)) = _
        rw [← List.append_assoc]
        rfl
      have whole : (storeModule root packageMarkers (c.stub.relativePath moduleSuffix)
          c.text).run.run t =
            (ProcessStubs.storeText (root / c.stub.relativePath moduleSuffix)
              c.text).run.run t₁ := by
        rw [storeModule_eq, run_bind_of_ok (run_adapt ensured)]
      rw [← path] at stored
      obtain ⟨w, -, -, status, put⟩ :=
        Destination.put_of_ok ⟨others, t⟩ (whole.trans stored) c.stub
      obtain ⟨w', status', put'⟩ :=
        Destination.put_memory ⟨modules, files⟩ c.stub (c.stub.relativePath moduleSuffix) c.text
      rw [names] at put' status'
      refine ⟨.ok w, .ok w', t₂, _, ?_, ?_, congrArg Except.ok (status.trans status'.symm),
        growth₁.trans growth, opens₁.grows growth, held₂⟩
      · rw [Destination.writeText, usable]
        exact put
      · rw [Destination.writeText, usable, names]
        exact put'

end FileTree

/-! ### All calls -/

variable {root : Path} {packageMarkers : Bool} {t : FileTree} {l : Location}
  {modules : List (Path × String)} {calls : List WriteCall}

/-- **Calls in order** come to the same below the directory and in memory. -/
theorem FileTree.Holds.writeAll (h : t.Holds l modules) (opens : t.Opens root l)
    (regular : ∀ c ∈ calls, c.Regular root packageMarkers) (files : FileTree)
    (others : List (Path × String)) :
    ∃ results results' t' modules',
      (Destination.directory root packageMarkers).writeAll ⟨others, t⟩ calls =
        (results, ⟨others, t'⟩) ∧
      Destination.memory.writeAll ⟨modules, files⟩ calls = (results', ⟨modules', files⟩) ∧
      results.map (·.map Write.status) = results'.map (·.map Write.status) ∧
      t'.Opens root l ∧ t'.Holds l modules' := by
  induction calls generalizing t modules with
  | nil => exact ⟨[], [], t, modules, rfl, rfl, rfl, opens, h⟩
  | cons c rest ih =>
      obtain ⟨regular, others_regular⟩ := List.forall_mem_cons.mp regular
      obtain ⟨result, result', t₁, modules₁, below, memory, same, -, opens₁, held₁⟩ :=
        h.writeText opens regular files others
      obtain ⟨results, results', t₂, modules₂, below₂, memory₂, same₂, opens₂, held₂⟩ :=
        ih held₁ opens₁ others_regular
      refine ⟨result :: results, result' :: results', t₂, modules₂, ?_, ?_, ?_, opens₂, held₂⟩
      · rw [Destination.writeAll, below]
        simp only [below₂]
      · rw [Destination.writeAll, memory]
        simp only [memory₂]
      · rw [List.map_cons, List.map_cons, same, same₂]

/-- **The files below a directory mirror memory**: those other than markers are the modules in
memory, each at its relative path and with the bytes of its text. -/
structure MirrorsMemory (files : FileTree) (l : Location) (modules : List (Path × String)) :
    Prop where
  file_iff : ∀ names content, names.getLast? ≠ some packageMarkerName →
    ((names, .file content) ∈ files.below l ↔
      ∃ text, Assoc.get? ⟨.relative, names⟩ modules = some text ∧ content = text.toUTF8)
  path : ∀ p ∈ Assoc.keys modules, p.anchor = .relative ∧ p.parts.getLast? ≠ some packageMarkerName

/-- Where the module files are those in memory, the files mirror it. -/
theorem FileTree.Holds.mirrorsMemory (h : t.Holds l modules) : MirrorsMemory t l modules where
  file_iff names content module := by
    rw [mem_below_iff_reached]
    rcases List.eq_nil_or_concat names with rfl | ⟨q, name, rfl⟩
    · constructor
      · intro reached
        exact absurd rfl reached.ne_nil
      · rintro ⟨text, got, -⟩
        obtain ⟨q, name, heq, -⟩ := h.path _ (Assoc.mem_keys.mpr ⟨text, Assoc.mem_of_get? got⟩)
        simp at heq
    · rw [List.concat_eq_append] at module ⊢
      have other : name ≠ packageMarkerName := by simpa using module
      rw [← h.file_iff q name content other]
      refine ⟨fun reached => ?_, h.orderly.reached⟩
      rw [List.append_assoc]
      exact reached.entryAt?_eq
  path p hp := by
    obtain ⟨q, name, rfl, module⟩ := h.path p hp
    exact ⟨rfl, by simpa using module⟩

/-- **A directory refines memory.** Whatever regular calls are made one after the other, from an
empty directory and an empty memory: the same calls fail in both, for the same reason, the others
have the same status, and after any number of them the files below the directory mirror memory. -/
theorem directory_refines_memory (opens : t.Opens root l)
    (empty : ∀ q, q ≠ [] → t.entryAt? (l ++ q) = none) (packageMarkers : Bool)
    (regular : ∀ c ∈ calls, c.Regular root packageMarkers) :
    let below := (Destination.directory root packageMarkers).writeAll ⟨[], t⟩
    let memory := Destination.memory.writeAll ⟨[], t⟩
    (below calls).1.map (·.map Write.status) = (memory calls).1.map (·.map Write.status) ∧
      ∀ before, before <+: calls →
        (below before).2.files.Opens root l ∧
        MirrorsMemory (below before).2.files l (memory before).2.modules := by
  intro below memory
  constructor
  · obtain ⟨results, results', t', modules', hbelow, hmemory, same, -⟩ :=
      (Holds.empty empty).writeAll opens regular t []
    simp only [below, memory, hbelow, hmemory, same]
  · intro before first
    obtain ⟨results, results', t', modules', hbelow, hmemory, -, opens', held⟩ :=
      (Holds.empty empty).writeAll opens (fun c hc => regular c (first.subset hc)) t []
    simp only [below, memory, hbelow, hmemory]
    exact ⟨opens', held.mirrorsMemory⟩

/-- A tree with nothing but an empty directory. -/
def FileTree.withDirectory (name : String) : FileTree := ⟨[], [([name], .directory)]⟩

/-- There is nothing below the directory. -/
theorem FileTree.entryAt?_withDirectory (name : String) (q : List String) (h : q ≠ []) :
    (withDirectory name).entryAt? ([name] ++ q) = none := by
  simp [withDirectory, entryAt?, Assoc.get?, h]

/-- The directory is there. -/
theorem FileTree.opens_withDirectory : (withDirectory "out").Opens ⟨.root, ["out"]⟩ ["out"] :=
  (Opens.root _).child ⟨by decide, by decide⟩ (by decide)

/-- A module is written, written over, and left as it is. -/
theorem directory_refines_memory_thrice :
    let u : Stub := ⟨"p", "T", .interface, [], [], "", none⟩
    let calls : List WriteCall := [⟨u, some "a"⟩, ⟨u, some "b"⟩, ⟨u, some "b"⟩]
    let t := withDirectory "out"
    let below := (Destination.directory ⟨.root, ["out"]⟩ true).writeAll ⟨[], t⟩
    let memory := Destination.memory.writeAll ⟨[], t⟩
    t.Opens ⟨.root, ["out"]⟩ ["out"] ∧ (∀ q, q ≠ [] → t.entryAt? (["out"] ++ q) = none) ∧
      (∀ c ∈ calls, c.Regular ⟨.root, ["out"]⟩ true) ∧
      (below calls).1.map (·.map Write.status) = (memory calls).1.map (·.map Write.status) ∧
      ∀ before, before <+: calls →
        (below before).2.files.Opens ⟨.root, ["out"]⟩ ["out"] ∧
        MirrorsMemory (below before).2.files ["out"] (memory before).2.modules := by
  intro u calls t below memory
  have regular : ∀ c ∈ calls, c.Regular ⟨.root, ["out"]⟩ true := by
    have package : isPackageName u.packageName = true := by decide +kernel
    have module : u.typeName ++ moduleSuffix ≠ packageMarkerName := by decide
    have names : u.relativePath moduleSuffix = ⟨.relative, ["p", "T.py"]⟩ := by decide +kernel
    have first (text : String) (feeds : '\r' ∉ text.toList) :
        (WriteCall.mk u (some text)).Regular ⟨.root, ["out"]⟩ true := by
      refine ⟨package, module, feeds, ?_, ?_, fun _ => ?_⟩
      all_goals
        dsimp only
        rw [names]
        decide
    simp only [calls, List.forall_mem_cons]
    exact ⟨first "a" (by decide), first "b" (by decide), first "b" (by decide), by simp⟩
  have empty := entryAt?_withDirectory "out"
  exact ⟨opens_withDirectory, empty, regular,
    directory_refines_memory opens_withDirectory empty true regular⟩

/-- A stub in a package of sixteen names of 255 bytes. -/
def Stub.deep : Stub :=
  ⟨joinWith "." (List.replicate 16 (String.ofList (List.replicate 255 'a'))), "T", .interface, [],
    [], "", none⟩

/-- The names of the package. -/
theorem Stub.split_deep :
    Text.split '.' deep.packageName =
      List.replicate 16 (String.ofList (List.replicate 255 'a')) := by
  refine split_joinWith (List.cons_ne_nil _ _) ?_
  intro name hname
  rw [List.eq_of_mem_replicate hname, String.toList_ofList]
  intro period
  exact absurd (List.eq_of_mem_replicate period) (by decide)

/-- They are those of a package. -/
theorem Stub.isPackageName_deep : isPackageName deep.packageName = true := by
  have start : isIdentifierStart 'a' = true := by decide +kernel
  have chars : String.ofList (List.replicate 255 'a') =
      String.ofList ('a' :: List.replicate 254 'a') := by rw [← List.replicate_succ]
  have identifier : isIdentifier (String.ofList ('a' :: List.replicate 254 'a')) = true := by
    rw [isIdentifier, String.toList_ofList]
    dsimp only
    rw [start, Bool.true_and, List.all_eq_true]
    intro c hc
    rw [List.eq_of_mem_replicate hc, isIdentifierPart, start, Bool.true_or]
  have keyword : isKeyword (String.ofList (List.replicate 255 'a')) = false := by decide +kernel
  have name : isUsableName (String.ofList (List.replicate 255 'a')) = true := by
    rw [isUsableName, keyword, chars, identifier]
    rfl
  rw [isPackageName, Bool.and_eq_true, List.all_eq_true, split_deep]
  refine ⟨?_, fun part hpart => List.eq_of_mem_replicate hpart ▸ name⟩
  rw [bne_iff_ne]
  intro empty
  have length : (Text.split '.' deep.packageName).length = 16 := by
    rw [split_deep, List.length_replicate]
  rw [empty] at length
  exact absurd length (by decide)

/-- A package whose directories were entered has a path that is not too long. -/
theorem isPossible_of_storeModule {u : Stub} (package : isPackageName u.packageName = true)
    (usable : u.unusableName? = none) (opens : t.Opens root l) (linkFree : t.LinkFreeBelow l)
    {text : String} {status : WriteStatus} {t' : FileTree}
    (stored : (storeModule root packageMarkers (u.relativePath moduleSuffix) text).run.run t =
      (.ok status, t')) : (root.below (Text.split '.' u.packageName)).IsPossible := by
  have type := Stub.isUsableName_of_unusableName?_eq_none usable
  rw [storeModule_eq] at stored
  obtain ⟨_, t₁, ensured, -⟩ := exists_of_run_bind_ok stored
  have ensured := run_of_run_adapt_ok ensured
  rw [ensurePackage_eq package type, run_bind_of_ok (ensureDirectories_of_opens opens)] at ensured
  obtain ⟨x, t₂, entered, -⟩ := exists_of_run_bind_ok ensured
  obtain ⟨rfl, there⟩ := Folder.folder_of_enterAll (.inl opens)
    (fun _ => isUsableName_of_mem_package package) linkFree entered
  exact there.isPossible

/-- All names of the stub are short. -/
theorem Stub.short_deep (name : String) (hname : name ∈ (deep.relativePath moduleSuffix).parts) :
    name.utf8ByteSize ≤ maxNameBytes := by
  rw [deep.relativePath_of_isPackageName isPackageName_deep (by decide +kernel), split_deep]
    at hname
  rcases List.mem_append.mp hname with hname | hname
  · rw [List.eq_of_mem_replicate hname]
    decide +kernel
  · rw [List.mem_singleton.mp hname]
    decide

/-- The path of its package is too long. -/
theorem Stub.not_isPossible_deep :
    ¬ (Path.below ⟨.root, ["out"]⟩ (Text.split '.' deep.packageName)).IsPossible := by
  intro possible
  have some_name : Text.split '.' deep.packageName ≠ [] := by
    rw [split_deep]
    exact List.cons_ne_nil _ _
  have size := Path.utf8ByteSize_below ⟨.root, ["out"]⟩ some_name
  have long : Path.extentWith ⟨.root, ["out"]⟩
      (List.replicate 16 (String.ofList (List.replicate 255 'a'))) = 4101 := by decide +kernel
  have short := possible.short
  have bound : maxPathBytes = 4095 := rfl
  rw [split_deep] at short size
  omega

/-- So the stub is not written below the directory. -/
theorem Stub.writeText_deep_ne_ok (w : Write) :
    ((Destination.directory ⟨.root, ["out"]⟩ true).writeText ⟨[], withDirectory "out"⟩ deep
      "").1 ≠ .ok w := by
  intro done
  obtain ⟨-, status, files, stored⟩ := Destination.exists_of_writeText_ok done
  have orderly := (Holds.empty (entryAt?_withDirectory "out")).orderly
  exact not_isPossible_deep (isPossible_of_storeModule isPackageName_deep (by decide +kernel)
    opens_withDirectory (orderly.linkFreeBelow opens_withDirectory.directory) stored)

/-- **Short names are not enough.** Each name of a stub's package and its module is short, but its
path is too long: it is written to memory, and below an empty directory it is not. -/
theorem not_directory_refines_memory_deep :
    let t := withDirectory "out"
    let call : WriteCall := ⟨.deep, some ""⟩
    (isPackageName call.stub.packageName = true ∧
      call.stub.typeName ++ moduleSuffix ≠ packageMarkerName ∧ '\r' ∉ call.text.toList ∧
      ∀ name ∈ (call.stub.relativePath moduleSuffix).parts, name.utf8ByteSize ≤ maxNameBytes) ∧
    t.Opens ⟨.root, ["out"]⟩ ["out"] ∧ (∀ q, q ≠ [] → t.entryAt? (["out"] ++ q) = none) ∧
    ((Destination.directory ⟨.root, ["out"]⟩ true).writeAll ⟨[], t⟩ [call]).1.map
        (·.map Write.status) ≠
      (Destination.memory.writeAll ⟨[], t⟩ [call]).1.map (·.map Write.status) := by
  intro t call
  refine ⟨⟨Stub.isPackageName_deep, by decide, by decide, Stub.short_deep⟩, opens_withDirectory,
    entryAt?_withDirectory "out", fun same => ?_⟩
  have usable : call.stub.unusableName? = none := by decide +kernel
  have written : ((Destination.directory ⟨.root, ["out"]⟩ true).writeText ⟨[], t⟩ .deep
      "").1.map Write.status = .ok .written := by
    rw [Destination.writeAll_singleton, Destination.writeAll_singleton] at same
    refine (List.head_eq_of_cons_eq same).trans ?_
    rw [Destination.writeText, usable]
    rfl
  cases done : ((Destination.directory ⟨.root, ["out"]⟩ true).writeText ⟨[], t⟩ .deep "").1 with
  | error problem =>
      rw [done] at written
      cases written
  | ok w => exact Stub.writeText_deep_ne_ok w done

end ProcessStubs
