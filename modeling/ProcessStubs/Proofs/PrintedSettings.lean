import ProcessStubs.Proofs.Layers
import ProcessStubs.Proofs.PrintedTables
import ProcessStubs.Proofs.Thawed
import ProcessStubs.Proofs.WrittenFiles

/-!
# Settings that are printed are loaded again

Frozen settings whose patterns are texts are printed as a table of simple values. Written to the
setting file of a directory and loaded there, they make the draft that they are thawed to: each
field is of the right type, paths that are resolved are found again from any directory, and no field
is complained of. What is asked for by overrides alone, and what tells where settings came from, are
not printed.

## Main definitions

* `FileTree.settingFile`: the setting file of the working directory.
* `Settings.loadedFrom`: settings as they are loaded from a file.
* `Settings.printedSource`: the setting file that settings are printed to.

## Main results

* `Settings.exists_toToml`: settings are printed, and read back as their fields.
* `Settings.layered_thaw`: the draft that is loaded is the thawed one.
* `Settings.freeze_thaw_loadedFrom`: thawed settings are frozen to themselves.
* `Settings.loadMerged_toToml`: settings that are printed are loaded and frozen again.
-/

namespace ProcessStubs

open Draft

/-- The policy of the name of a policy. -/
theorem CollisionPolicy.ofName?_name (p : CollisionPolicy) : ofName? p.name = some p := by
  cases p <;> decide +kernel

/-- **The setting file of the working directory.** -/
def FileTree.settingFile (t : FileTree) : Path :=
  Path.child ⟨.root, t.workingDirectory⟩ settingFileName

namespace Settings

/-- **Settings as they are loaded from a file**: they do not ask for a preview, come from the file,
and have no diagnostics. -/
def loadedFrom (c : Settings) (file : Path) : Settings :=
  { c with dryRun := false, configFiles := [file], diagnostics := [] }

/-- **The setting file that settings are printed to.** -/
def printedSource (c : Settings) (file directory : Path) : SettingSource :=
  ⟨file, directory, ⟨c.fields, [], []⟩⟩

variable {c : Settings} {t t₀ t₁ : FileTree} {d : Draft} {file directory base here : Path}
  {patterns : List String}

/-! ### The fields -/

/-- The keys of the fields are distinct. -/
theorem keys_fields_nodup (c : Settings) : (Assoc.keys c.fields).Nodup := by
  simp [fields, Assoc.keys]

/-- The fields are simple values if the patterns are texts. -/
theorem isSimple_of_mem_fields (texts : c.excludePatterns = patterns.map .text) :
    ∀ field ∈ c.fields, Toml.IsSimple field.2 := by
  simp only [fields, texts, List.forall_mem_cons]
  exact ⟨.text _, .text _, .text _, .text _, .texts _, .text _, .boolean _,
    List.forall_mem_nil _⟩

/-- **Settings are printed**, and read back as their fields, if the patterns are texts. -/
theorem exists_toToml (texts : c.excludePatterns = patterns.map .text) :
    ∃ text, c.toToml = .ok text ∧ Toml.readToml text = .ok c.fields ∧ '\r' ∉ text.toList :=
  Toml.readToml_printToml (isSimple_of_mem_fields texts) c.keys_fields_nodup

/-- The texts of a list of texts. -/
theorem texts?_map_text (patterns : List String) :
    Value.texts? (.list (patterns.map .text)) = some patterns := by
  rw [Value.texts?]
  induction patterns with
  | nil => rfl
  | cons s rest ih =>
      rw [List.map_cons, List.mapM_cons, ih]
      rfl

/-- No field is complained of. -/
theorem fieldWarnings_fields (texts : c.excludePatterns = patterns.map .text) (file : Path) :
    fieldWarnings file c.fields = [] := by
  simp [fieldWarnings, fields, texts, fieldComplaint?, fieldType?, FieldType.holds, Value.text?,
    Value.boolean?, texts?_map_text]

/-- The path of a resolved text. -/
theorem pathIn_of_isResolved {p : Path} (resolved : t.IsResolved p) (directory : Path) :
    pathIn t directory (.text p.toString) = some p := by
  refine pathIn_eq_some_iff.mpr ⟨p.toString, rfl, ?_⟩
  rw [Draft.realPath, resolved.realPath_join]
  rfl

/-- The policy in the name of one. -/
theorem policyIn_name (p : CollisionPolicy) : policyIn (.text p.name) = some p :=
  (Option.bind_some ..).trans (CollisionPolicy.ofName?_name p)

/-- The file is a table, and the policy in it is one. -/
theorem printedSource_sound (c : Settings) (file directory : Path) :
    (c.printedSource file directory).Sound where
  distinct := c.keys_fields_nodup
  policy := by
    intro v hv
    obtain rfl : v = .text c.collisionPolicy.name := by simpa [printedSource, fields] using hv
    rw [policyIn_name]
    rfl

/-- Resolved paths in the file have real paths. -/
theorem resolvable_printedSource (source : t.IsResolved c.sourceDirectory)
    (output : t.IsResolved c.outputDirectory) (here file directory : Path) :
    Resolvable t here (some (c.printedSource file directory)) [] := by
  refine ⟨?_, ?_⟩
  · rintro _ ⟨⟩ ⟨key, v⟩ hx known -
    simp only [printedSource, fields, List.mem_cons, Prod.mk.injEq, List.not_mem_nil, or_false]
      at hx
    rcases eq_of_fieldType?_path known with rfl | rfl
    · obtain rfl : v = .text c.sourceDirectory.toString := by simpa using hx
      rw [pathIn_of_isResolved source]
      rfl
    · obtain rfl : v = .text c.outputDirectory.toString := by simpa using hx
      rw [pathIn_of_isResolved output]
      rfl
  · intro key v _ given
    cases given

/-! ### Loading -/

/-- **The draft that is loaded** is the one that the settings are thawed to, but for what is not
printed. -/
theorem layered_thaw (texts : c.excludePatterns = patterns.map .text)
    (source : t.IsResolved c.sourceDirectory) (output : t.IsResolved c.outputDirectory)
    (base here file directory : Path) :
    Layered t base here (some (c.printedSource file directory)) []
      (c.loadedFrom file).thaw where
  sourceDirectory := by
    have said : (c.printedSource file directory).said? "source_dir" (pathIn t directory) =
        some c.sourceDirectory := pathIn_of_isResolved source directory
    exact congrArg (fun x => some (layered none x _)) said.symm
  outputDirectory := by
    have said : (c.printedSource file directory).said? "output_dir" (pathIn t directory) =
        some c.outputDirectory := pathIn_of_isResolved output directory
    exact congrArg (fun x => some (layered none x _)) said.symm
  packageName := rfl
  runtimeService := rfl
  excludePatterns := by
    have said : (c.printedSource file directory).said? "exclude_patterns" Value.texts? =
        some patterns := by
      change Value.texts? (.list c.excludePatterns) = some patterns
      rw [texts, texts?_map_text]
    simp [said, thaw, loadedFrom, texts, Overrides.given?, Assoc.get?]
  collisionPolicy := by
    have said : (c.printedSource file directory).said? "collision_policy" policyIn =
        some c.collisionPolicy := by
      have found :
          Assoc.get? "collision_policy" c.fields = some (.text c.collisionPolicy.name) := rfl
      rw [SettingSource.said?, printedSource, found, Option.bind_some, policyIn_name]
    simp only [Option.bind_some, said]
    rfl
  packageMarkers := rfl
  dryRun := rfl
  configFiles := rfl
  diagnostics := (fieldWarnings_fields texts file).symm

/-- **Thawed settings are frozen to themselves**, also without what is not printed. -/
theorem freeze_thaw_loadedFrom (frozen : d.freeze t₀ = .ok c) (file : Path) (t : FileTree) :
    (c.loadedFrom file).thaw.freeze t = .ok (c.loadedFrom file) := by
  have alike := alike_thaw frozen rfl
  obtain ⟨-, -, hashable, kept⟩ := freeze_eq_ok_iff.mp frozen
  have same : c.thaw.settings t₀ = c := alike.settings.trans kept.symm
  have settings : (c.loadedFrom file).thaw.settings t = c.loadedFrom file :=
    show (c.thaw.settings t₀).loadedFrom file = c.loadedFrom file by rw [same]
  obtain ⟨package, runtime⟩ := freeze_ok frozen
  rw [freeze_eq_ok_iff, settings]
  exact ⟨package, runtime, alike.hashable.trans hashable, rfl⟩

/-- The path of the setting file has only normal names. -/
theorem settingFile_isNormal (proper : t.Proper) : t.settingFile.IsNormal := by
  intro name hname
  rcases List.mem_append.mp hname with hname | hname
  · exact (proper.working_named name hname).1
  · rw [List.mem_singleton.mp hname]
    exact (isShortName_of_settings (.inl rfl)).1.entry.1

/-- The file is no project file. -/
theorem name_settingFile (t : FileTree) : t.settingFile.name ≠ projectFileName := by
  simp [FileTree.settingFile, Path.child, Path.name, settingFileName, projectFileName]

/-- **The file that was written is found** in the working directory, and what it says is loaded. -/
theorem exists_origin_of_written {text : String} (proper : t.Proper)
    (read : Toml.readToml text = .ok c.fields) (returned : '\r' ∉ text.toList)
    (written : t₁.Written t t.settingFile text.toUTF8) :
    ∃ directory, Origin t none none ⟨.root, t.workingDirectory⟩ ⟨.root, t.workingDirectory⟩
      (some (c.printedSource t.settingFile directory)) := by
  obtain ⟨l, located⟩ := written.located
  have zero : (Path.mk .root t.workingDirectory).hasZero = false := by
    have possible := FileAction.hasZero_parent written.hasZero_eq
    rwa [FileTree.settingFile, Path.child, Path.parent, List.dropLast_concat] at possible
  have base := baseOf_none proper zero
  have found : findSettingFile t ⟨.root, t.workingDirectory⟩ = .ok (some t.settingFile, []) := by
    have asked := isSettingFile_eq written.isFile_eq
    rw [FileTree.settingFile] at asked ⊢
    rw [findSettingFile, asked]
    rfl
  have loaded : loadSettingFields t t.settingFile = .ok ⟨c.fields, [], []⟩ := by
    have readText := (readText_of_read written.read_eq).trans (textOfBytes_toUTF8 returned)
    have fields : loadFields t t.settingFile = .ok ⟨c.fields, [], []⟩ := by
      simp only [loadFields, readText, read]
    rw [loadSettingFields, fields, ok_bind, if_neg (name_settingFile t)]
    rfl
  have real : Draft.realPath t t.settingFile = .ok ⟨.root, l⟩ := by
    rw [Draft.realPath, FileTree.realPath_of_locate proper (settingFile_isNormal proper) located]
    rfl
  exact ⟨_, base, base, .file (.inr ⟨rfl, [], found⟩) loaded real⟩

/-- **Settings that are printed are loaded again.** Settings that a draft was frozen to, whose
patterns are any texts, are printed; and wherever the text is written to the setting file of the
working directory of a tree in which both directories of the settings are resolved, loading the
settings there succeeds, and freezes to the same settings, but for a preview, which no file asks
for, and for the file that they come from. There are no diagnostics. -/
theorem loadMerged_toToml (frozen : d.freeze t₀ = .ok c)
    (texts : c.excludePatterns = patterns.map .text) :
    ∃ text, c.toToml = .ok text ∧
      ∀ t₁ t, t₁.Proper → t₁.IsResolved c.sourceDirectory → t₁.IsResolved c.outputDirectory →
        (FileAction.writeFile t₁.settingFile text.toUTF8).runOn t₁ = (.ok (), t) →
        (loadMerged t none [] none).2 = none ∧
        (loadMerged t none [] none).1.freeze t = .ok (c.loadedFrom t₁.settingFile) := by
  obtain ⟨text, printed, read, returned⟩ := exists_toToml texts
  refine ⟨text, printed, ?_⟩
  intro t₁ t proper source output written
  have written := FileAction.written_of_writeFile written
  have proper := written.proper proper
  have source := written.resolved _ source
  have output := written.resolved _ output
  have same : t.settingFile = t₁.settingFile := by
    rw [FileTree.settingFile, FileTree.settingFile, written.working]
  rw [← same] at written ⊢
  obtain ⟨directory, origin⟩ := exists_origin_of_written proper read returned written
  have sound : ∀ s ∈ some (c.printedSource t.settingFile directory), s.Sound := by
    rintro _ ⟨⟩
    exact printedSource_sound c t.settingFile directory
  have typed : Overrides.WellTyped [] := by
    intro key type v _ given
    cases given
  obtain ⟨loads, layered⟩ := loadMerged_eq origin sound typed
  have resolvable := resolvable_printedSource source output ⟨.root, t.workingDirectory⟩
    t.settingFile directory
  have thawed := (layered resolvable).unique (layered_thaw texts source output _ _ _ _)
  refine ⟨loads.mpr resolvable, ?_⟩
  calc (loadMerged t none [] none).1.freeze t
    _ = (c.loadedFrom t.settingFile).thaw.freeze t := congrArg (fun d => d.freeze t) thawed
    _ = .ok (c.loadedFrom t.settingFile) := freeze_thaw_loadedFrom frozen t.settingFile t

/-- In a tree where there is nothing, names lead to resolved paths. -/
theorem isResolved_empty {name : String} (entry : IsEntryName name) (slash : '/' ∉ name.toList)
    (nonzero : (Path.mk .root [name]).hasZero = false) :
    FileTree.IsResolved ⟨[], []⟩ ⟨.root, [name]⟩ where
  root := rfl
  straight :=
    { named := by simpa using entry
      ends := by
        rintro m - e found
        obtain ⟨-, rfl⟩ := (FileTree.eq_or_mem_of_entryAt? found).resolve_right List.not_mem_nil
        simp [FileTree.IsEnd] }
  slash := by simpa using slash
  nonzero := nonzero

/-- A draft with patterns of quotes, backslashes and control characters. -/
def quotedPatterns : Draft :=
  { Draft.between ⟨.root, ["s"]⟩ ⟨.root, ["o"]⟩ with
    excludePatterns := ["\"\\'", "\n\t\x01"].map .text }

/-- Its settings are loaded again from the setting file at the root of a tree where there is nothing
else. -/
theorem loadMerged_toToml_quotedPatterns :
    ∃ c text t, quotedPatterns.freeze ⟨[], []⟩ = .ok c ∧ c.toToml = .ok text ∧
      (FileAction.writeFile (FileTree.settingFile ⟨[], []⟩) text.toUTF8).runOn ⟨[], []⟩ =
        (.ok (), t) ∧
      (loadMerged t none [] none).2 = none ∧
      (loadMerged t none [] none).1.freeze t =
        .ok (c.loadedFrom (FileTree.settingFile ⟨[], []⟩)) := by
  obtain ⟨package, runtime⟩ := freeze_ok freeze_empty
  have frozen : quotedPatterns.freeze ⟨[], []⟩ = .ok (quotedPatterns.settings ⟨[], []⟩) :=
    freeze_eq_ok_iff.mpr ⟨package, runtime, rfl, rfl⟩
  obtain ⟨text, printed, loads⟩ := loadMerged_toToml frozen
    (show _ = ["\"\\'", "\n\t\x01"].map Value.text by rfl)
  obtain ⟨named, possible⟩ := isShortName_of_settings (.inl rfl)
  have written := (FileTree.Opens.root ⟨[], []⟩).writeFile_free ⟨named, possible⟩ rfl text.toUTF8
  obtain ⟨loaded, freezes⟩ := loads ⟨[], []⟩ _ (FileTree.proper_of_root nofun nofun)
    (isResolved_empty (by simp [IsEntryName, IsNormalName]) (by decide) (by simp [Path.hasZero]))
    (isResolved_empty (by simp [IsEntryName, IsNormalName]) (by decide) (by simp [Path.hasZero]))
    written
  exact ⟨_, text, _, frozen, printed, written, loaded, freezes⟩

end Settings

end ProcessStubs
