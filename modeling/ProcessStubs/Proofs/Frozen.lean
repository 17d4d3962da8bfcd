import ProcessStubs.Proofs.Steps
import ProcessStubs.Settings.Draft

/-!
# What freezing a draft ensures

Freezing checks the package and the runtime of a draft, so that frozen settings give the stubs of
every document, all of them in the package of the settings.

## Main results

* `freeze_eq_ok_iff`: which drafts can be frozen, and to which settings.
* `freeze_ok`: the package of frozen settings is one, and their runtime can be read.
* `Settings.stubsOf_eq`: frozen settings give the stubs of every document.
-/

namespace ProcessStubs

/-- The settings that an empty draft is frozen to at the root. -/
def Settings.standard : Settings where
  sourceDirectory := ⟨.root, []⟩ / defaultSource
  outputDirectory := ⟨.root, []⟩ / defaultOutput
  packageName := defaultPackage
  runtimeService := defaultRuntime
  excludePatterns := []
  collisionPolicy := .warn
  packageMarkers := true
  dryRun := false
  configFiles := []
  diagnostics := []

/-- An empty draft can be frozen. -/
theorem Draft.freeze_empty : Draft.empty.freeze ⟨[], []⟩ = .ok Settings.standard := by rfl

/-- The runtime of the standard settings. -/
theorem Settings.runtimeOf_standard :
    runtimeOf standard.runtimeService = .ok ⟨"bpmngen.runtime", "RuntimeService"⟩ := by rfl

variable {draft : Draft} {tree : FileTree} {s : Settings}

/-- The settings that a draft is frozen to, if it can be. -/
def Draft.settings (draft : Draft) (tree : FileTree) : Settings where
  sourceDirectory := draft.sourceDirectory.getD
    (⟨.root, tree.workingDirectory⟩ / Settings.defaultSource)
  outputDirectory := draft.outputDirectory.getD
    (⟨.root, tree.workingDirectory⟩ / Settings.defaultOutput)
  packageName := draft.packageName.getD Settings.defaultPackage
  runtimeService := (draft.runtimeService.filter (· ≠ "")).getD Settings.defaultRuntime
  excludePatterns := distinctEntries draft.excludePatterns
  collisionPolicy := draft.collisionPolicy.getD .warn
  packageMarkers := draft.packageMarkers.getD true
  dryRun := draft.dryRun.getD false
  configFiles := draft.configFiles
  diagnostics := draft.diagnostics

/-- **What can be frozen**: a draft with the name of a package, a runtime that can be read, and
patterns that can be entries of a set. -/
theorem Draft.freeze_eq_ok_iff :
    draft.freeze tree = .ok s ↔
      isPackageName (draft.settings tree).packageName = true ∧
      (∃ runtime, runtimeOf (draft.settings tree).runtimeService = .ok runtime) ∧
      draft.excludePatterns.all Value.isHashable = true ∧ s = draft.settings tree := by
  rw [freeze]
  dsimp only [settings]
  cases package : isPackageName (draft.packageName.getD Settings.defaultPackage) with
  | false => simp [throw, throwThe, MonadExceptOf.throw, bind, Except.bind]
  | true =>
      cases runtimeOf ((draft.runtimeService.filter (· ≠ "")).getD Settings.defaultRuntime) with
      | error fault => simp [bind, Except.bind]
      | ok runtime =>
          cases hashable : draft.excludePatterns.all Value.isHashable with
          | false => simp [throw, throwThe, MonadExceptOf.throw, bind, Except.bind]
          | true => simp [bind, Except.bind, pure, Except.pure, eq_comm]

/-- **Frozen settings** have the name of a package and a runtime that can be read. -/
theorem Draft.freeze_ok (h : draft.freeze tree = .ok s) :
    isPackageName s.packageName = true ∧ ∃ runtime, runtimeOf s.runtimeService = .ok runtime := by
  obtain ⟨package, runtime, -, rfl⟩ := freeze_eq_ok_iff.mp h
  exact ⟨package, runtime⟩

/-- A draft that says where documents are looked for, and the lines of patterns that leave out some
of them. -/
def Draft.excluding (root : Path) (lines : List String) : Draft :=
  { Draft.empty with sourceDirectory := some root, excludePatterns := lines.map Value.text }

/-- Such a draft can be frozen, whatever the lines are. -/
theorem Draft.freeze_excluding (root : Path) (lines : List String) (t : FileTree) :
    (excluding root lines).freeze t = .ok ((excluding root lines).settings t) := by
  obtain ⟨package, runtime⟩ := freeze_ok freeze_empty
  refine freeze_eq_ok_iff.mpr ⟨package, runtime, ?_, rfl⟩
  simp [excluding, Value.isHashable]

/-- A draft that says where modules are written to. -/
def Draft.writingTo (root : Path) : Draft := { Draft.empty with outputDirectory := some root }

/-- Such a draft can be frozen, wherever that is. -/
theorem Draft.freeze_writingTo (root : Path) (t : FileTree) :
    (writingTo root).freeze t = .ok ((writingTo root).settings t) := by
  obtain ⟨package, runtime⟩ := freeze_ok freeze_empty
  exact freeze_eq_ok_iff.mpr ⟨package, runtime, rfl, rfl⟩

/-- A draft that says where documents are looked for and where modules are written to. -/
def Draft.between (source root : Path) : Draft :=
  { Draft.writingTo root with sourceDirectory := some source }

/-- Such a draft can be frozen, wherever these are. -/
theorem Draft.freeze_between (source root : Path) (t : FileTree) :
    (between source root).freeze t = .ok ((between source root).settings t) := by
  obtain ⟨package, runtime⟩ := freeze_ok freeze_empty
  exact freeze_eq_ok_iff.mpr ⟨package, runtime, rfl, rfl⟩

/-- A draft that says what becomes of collisions. -/
def Draft.meeting (policy : CollisionPolicy) : Draft :=
  { Draft.empty with collisionPolicy := some policy }

/-- Such a draft can be frozen, whatever becomes of them. -/
theorem Draft.freeze_meeting (policy : CollisionPolicy) (t : FileTree) :
    (meeting policy).freeze t = .ok ((meeting policy).settings t) := by
  obtain ⟨package, runtime⟩ := freeze_ok freeze_empty
  exact freeze_eq_ok_iff.mpr ⟨package, runtime, rfl, rfl⟩

/-- **Frozen settings give the stubs** of every document, those of its processes for the runtime
of the settings. -/
theorem Settings.stubsOf_eq {runtime : RuntimeReference}
    (h : runtimeOf s.runtimeService = .ok runtime) (document : ProcessDocument) :
    s.stubsOf document = .ok (Stub.ofDocument s.packageName runtime document) := by
  rw [stubsOf]
  cases empty : document.executable.isEmpty with
  | true =>
      rw [List.isEmpty_iff] at empty
      simp [Stub.ofDocument, empty]
  | false =>
      rw [h]
      rfl

/-- The stubs of a document are all in one package. -/
theorem Stub.packageName_of_mem_ofDocument {package : String} {runtime : RuntimeReference}
    {document : ProcessDocument} {u : Stub} (h : u ∈ Stub.ofDocument package runtime document) :
    u.packageName = package := by
  obtain ⟨p, -, hu⟩ := List.mem_flatMap.mp h
  rcases List.mem_cons.mp hu with rfl | hu
  · rfl
  · obtain ⟨call, -, rfl⟩ := List.mem_map.mp hu
    rfl

/-- The stubs that settings give are in the package of the settings. -/
theorem Settings.packageName_of_mem_stubsOf {document : ProcessDocument} {stubs : List Stub}
    (h : s.stubsOf document = .ok stubs) {u : Stub} (hu : u ∈ stubs) :
    u.packageName = s.packageName := by
  rw [stubsOf] at h
  split at h
  · cases h
    cases hu
  · obtain ⟨runtime, -, h⟩ := bind_eq_ok_iff.mp h
    cases h
    exact Stub.packageName_of_mem_ofDocument hu

end ProcessStubs
