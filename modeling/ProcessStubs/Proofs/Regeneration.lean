import ProcessStubs.Proofs.Endings
import ProcessStubs.Proofs.Rediscovery
import ProcessStubs.Proofs.Rerun
import ProcessStubs.Proofs.RunFrame

/-!
# Generating once more

Whatever the modules of a run are written over or beside, even inside the directory that documents
are looked for in, the same documents are found once more and read the same. So generating once more
repeats the first run.

## Main results

* `generate_again`: generating once more.
-/

namespace ProcessStubs

open FileTree FileAction Run

variable {s : Settings} {store : Store} {r : Run}

/-- **Generating once more**, with settings that were frozen, is stable. Where no link is, no name
of a document holds a carriage return, and directories that the first run creates below the source
directory have paths that can be walked and scanned, there is a report again, and it repeats the
first one. -/
theorem generate_again {draft : Draft} {tree : FileTree} (frozen : draft.freeze tree = .ok s)
    (real : s.dryRun = false) (normal : s.sourceDirectory.IsNormal) (proper : store.files.Proper)
    (grounded : store.files.Grounded) (linkFree : store.files.LinkFree)
    (generated : (generate s store).1 = .ok r)
    (named : ∀ x ∈ r.report.files, '\r' ∉ x.path.name.toList)
    (room : ∀ l, store.files.Opens s.sourceDirectory l →
      HasRoom s.sourceDirectory l store.files r.store.files) :
    ∃ r', (generate s r.store).1 = .ok r' ∧ r.Repeats s.outputDirectory store.files r' := by
  have valid := (Draft.freeze_ok frozen).1
  have destination : s.destination = .directory s.outputDirectory s.packageMarkers := by
    simp [Settings.destination, real]
  obtain ⟨found, discovered, done⟩ := generate_eq_ok_iff.mp generated
  rw [destination] at done
  -- What is found, and what is read from it, is the same after whatever is written.
  obtain ⟨again, read⟩ : r.store.files.discover s.sourceDirectory s.excludePatterns = .ok found ∧
      ∀ t, Gains store.files t → ∀ p ∈ found.files,
        ProcessDocument.ofFile t p = ProcessDocument.ofFile store.files p := by
    rcases exists_locate_of_discover discovered with none | ⟨l, opens⟩
    · rw [none] at done ⊢
      cases done
      exact ⟨discovered, fun _ _ _ hp => absurd hp List.not_mem_nil⟩
    · have gains := Run.gains_ofDocuments valid done linkFree
      exact ⟨gains.discover_eq grounded linkFree opens proper normal (room l opens) discovered,
        fun t gains p hp => gains.ofFile_eq grounded linkFree opens discovered hp⟩
  have names : ∀ p ∈ found.files, '\r' ∉ p.name.toList := by
    rw [← Run.paths_ofDocuments done]
    exact List.forall_mem_map.mpr named
  obtain ⟨r', done', repeats⟩ := Run.exists_repeats valid linkFree read names done
  exact ⟨r', generate_eq_ok_iff.mpr ⟨found, again, destination ▸ done'⟩, repeats⟩

/-! ### Modules beside the document -/

section

variable (document : String)

/-- Everything has a name of its own. -/
theorem proper_withPackage : (withPackage document).Proper :=
  proper_of_root (by simp [IsEntryName, IsNormalName]) (by simp)

/-- Everything is in a directory. -/
theorem grounded_withPackage : (withPackage document).Grounded := by
  refine .of_entries fun x hx => ?_
  simp only [withPackage, List.mem_cons, List.not_mem_nil, or_false] at hx
  rcases hx with rfl | rfl | rfl | rfl | rfl
  · exact ⟨[], "a.bpmn", rfl, by decide, rfl⟩
  · exact ⟨[], "out", rfl, by decide, rfl⟩
  · exact ⟨["out"], "generated", rfl, by decide, rfl⟩
  · exact ⟨["out", "generated"], "__init__.py", rfl, by decide, rfl⟩
  · exact ⟨["out", "generated"], "AProcessService.py", rfl, by decide, rfl⟩

end

/-- The path of the document can be walked. -/
theorem possible_solePath : Path.IsPossible solePath := by decide

/-- The document is found at the root, and the only one. -/
theorem discover_withPackage (document : String) :
    (withPackage document).discover ⟨.root, []⟩ [] = .ok ⟨[solePath], []⟩ := by
  have proper := proper_withPackage document
  have grounded := grounded_withPackage document
  have found : (withPackage document).entryAt? ["a.bpmn"] = some (.file document.toUTF8) := rfl
  change _ = Except.ok (Discovery.mk [Path.below ⟨.root, []⟩ ["a.bpmn"]] [])
  have located {names : List String} {e : FileEntry}
      (possible : (Path.below ⟨.root, []⟩ names).IsPossible)
      (found : (withPackage document).entryAt? names = some e) :
      (withPackage document).locate .target (Path.below ⟨.root, []⟩ names) =
        .ok (.taken names e) :=
    (Opens.root _).locate_below grounded (linkFree_withPackage document) possible found
  refine discover_only proper Path.isNormal_root (.root _)
    (grounded.reached_iff.mpr ⟨by simp, found⟩) (located possible_solePath found)
    (by decide +kernel) fun names e reached => ?_
  obtain ⟨nonempty, there⟩ := grounded.reached_iff.mp reached
  have listed := (eq_or_mem_of_entryAt? there).resolve_left (by simp [nonempty])
  simp only [withPackage, List.nil_append, List.mem_cons, Prod.mk.injEq, List.not_mem_nil,
    or_false] at listed
  rcases listed with ⟨rfl, -⟩ | ⟨rfl, -⟩ | ⟨rfl, -⟩ | ⟨rfl, rfl⟩ | ⟨rfl, rfl⟩
  · exact .inl rfl
  · have opens := @located ["out"] .directory (by decide) rfl
    exact .inr ⟨fun _ => Opens.scanProblem?_eq_none opens (by decide +kernel), by decide +kernel⟩
  · have opens := @located ["out", "generated"] .directory (by decide) rfl
    exact .inr ⟨fun _ => Opens.scanProblem?_eq_none opens (by decide +kernel), by decide +kernel⟩
  · exact .inr ⟨(absurd · Bool.false_ne_true), by decide +kernel⟩
  · exact .inr ⟨(absurd · Bool.false_ne_true), by decide +kernel⟩

/-- Generating writes the service over its module, and no directory is new. -/
theorem exists_generate_withPackage :
    let store : Store := ⟨[], withPackage soleProcess⟩
    let s := (Draft.between ⟨.root, []⟩ soleRoot).settings store.files
    ∃ r, (generate s store).1 = .ok r ∧ r.report.writes ≠ [] ∧
      (∀ x ∈ r.report.files, x.path = solePath) ∧
      ∀ l, HasRoom s.sourceDirectory l store.files r.store.files := by
  intro store s
  have frozen : (Draft.between ⟨.root, []⟩ soleRoot).freeze store.files = .ok s :=
    Draft.freeze_between _ _ _
  obtain ⟨-, runtime, hr⟩ := Draft.freeze_ok frozen
  obtain ⟨w, written⟩ := exists_write_soleService soleProcess runtime
  obtain ⟨r, added, report, -, left⟩ := addDocument_soleProcess (s := s)
    (r := .start s.diagnostics store) (d := .directory soleRoot true) rfl hr
    (read_withPackage soleProcess) rfl written
  have files : r.report.files = [⟨solePath, .read [soleService runtime solePath] [w]⟩] :=
    congrArg Report.files report
  have writes : r.report.writes = [w] := by
    rw [Report.writes, files]
    rfl
  refine ⟨r.note .info (summary r.report), generate_eq_ok_iff.mpr
    ⟨_, discover_withPackage soleProcess, ofDocuments_singleton added⟩,
    writes ▸ List.cons_ne_nil w [], ?_, ?_⟩
  · change ∀ x ∈ r.report.files, x.path = solePath
    rw [files]
    exact List.forall_mem_singleton.mpr rfl
  · -- A module is the only thing that is new.
    intro l names free directory
    change r.store.files.entryAt? _ = _ at directory
    rw [left] at directory
    by_cases here : l ++ names = ["out", "generated", "AProcessService.py"]
    · rw [here, entryAt?_put_self _ (by simp)] at directory
      cases directory
    · rw [entryAt?_put_of_ne _ here] at directory
      cases free.symm.trans directory

/-- Generating once more repeats the run that has written the service over its module, in the
directory that documents are looked for in. -/
theorem generate_again_service :
    let draft := Draft.between ⟨.root, []⟩ soleRoot
    let store : Store := ⟨[], withPackage soleProcess⟩
    let s := draft.settings store.files
    draft.freeze store.files = .ok s ∧ s.dryRun = false ∧ s.sourceDirectory.IsNormal ∧
      store.files.Proper ∧ store.files.Grounded ∧ store.files.LinkFree ∧
      ∃ r r', (generate s store).1 = .ok r ∧ r.report.writes ≠ [] ∧
        (∀ x ∈ r.report.files, '\r' ∉ x.path.name.toList) ∧
        (∀ l, store.files.Opens s.sourceDirectory l →
          HasRoom s.sourceDirectory l store.files r.store.files) ∧
        (generate s r.store).1 = .ok r' ∧ r.Repeats s.outputDirectory store.files r' := by
  intro draft store s
  have frozen : draft.freeze store.files = .ok s := Draft.freeze_between _ _ _
  have proper := proper_withPackage soleProcess
  have grounded := grounded_withPackage soleProcess
  have linkFree := linkFree_withPackage soleProcess
  obtain ⟨r, generated, writes, sole, room⟩ := exists_generate_withPackage
  have named : ∀ x ∈ r.report.files, '\r' ∉ x.path.name.toList := by
    intro x hx
    rw [sole x hx]
    decide
  obtain ⟨r', again, repeats⟩ := generate_again frozen rfl Path.isNormal_root proper grounded
    linkFree generated named fun l _ => room l
  exact ⟨frozen, rfl, Path.isNormal_root, proper, grounded, linkFree, r, r', generated, writes,
    named, fun l _ => room l, again, repeats⟩

/-! ### A root that is made half way -/

/-- A stub of a new module that cannot be written leaves an error. -/
theorem Run.emitAll_singleton_of_failed (policy : CollisionPolicy) {d : Destination} {u : Stub}
    (new : Assoc.get? u.target r.latest = none) {problem : WriteProblem} {left : Store}
    (failed : d.write r.store u = (.error problem, left)) (own : problem.mistake? = none) :
    ∃ log, emitAll policy d r [u] =
      ([.failed problem], { r with
        report := r.report.recordError (u.writeFailure problem.message) .writeError u.source
        store := left
        log := log }) := by
  have emitted : r.emit policy d u = r.write d u := by
    rw [emit, standing, new]
  rw [emitAll, emitted, Run.write, failed]
  simp only [own]
  exact ⟨_, rfl⟩

/-- **The run over the document**, if its service cannot be written. -/
theorem Run.ofDocuments_soleProcess_of_failed {d : Destination}
    (package : s.packageName = Settings.defaultPackage) {runtime : RuntimeReference}
    (hr : runtimeOf s.runtimeService = .ok runtime) {p : Path}
    (held : store.files.read p = .ok soleProcess.toUTF8) {problem : WriteProblem} {left : Store}
    (failed : d.write store (soleService runtime p) = (.error problem, left))
    (own : problem.mistake? = none) :
    ∃ r, ofDocuments s d store [p] = .ok r ∧ r.store = left ∧
      r.report.files = [⟨p, .read [soleService runtime p] []⟩] ∧
      r.report.diagnostics = s.diagnostics ++
        [⟨.error, (soleService runtime p).writeFailure problem.message, some p⟩] := by
  obtain ⟨log, added⟩ := addDocument_of_stubs (r := .start s.diagnostics store) (d := d)
    (ofFile_soleProcess held) (stubsOf_soleProcess package hr p)
  obtain ⟨log', emitted⟩ := emitAll_singleton_of_failed s.collisionPolicy
    (r := { Run.start s.diagnostics store with log := log }) rfl failed own
  rw [finishDocument, emitted] at added
  exact ⟨_, ofDocuments_singleton added, rfl, rfl, rfl⟩

/-- A name that is too long for a directory. -/
def longName : String := String.ofList (List.replicate 300 'x')

/-- A directory that cannot be made, because the name of the one above it is too long. -/
def longRoot : Path := ⟨.root, ["a", longName, "c"]⟩

/-- A tree with the document alone. -/
def onlySoleProcess : FileTree := ⟨[], [(["a.bpmn"], .file soleProcess.toUTF8)]⟩

/-- What is left of the directory: the one at its beginning. -/
def withBeginning : FileTree := onlySoleProcess.put ["a"] .directory

/-- The beginning can be made. -/
theorem fits_beginning : Path.Fits ⟨.root, []⟩ "a" :=
  ⟨by decide, by decide⟩

/-- The directory at the beginning is there. -/
theorem opens_withBeginning : withBeginning.Opens ⟨.root, ["a"]⟩ ["a"] :=
  (Opens.root _).child fits_beginning (entryAt?_put_self _ (by simp) _)

/-- The long name is one, and too long. -/
theorem longName_long : IsEntryName longName ∧ longName.utf8ByteSize = 300 :=
  ⟨⟨⟨by decide +kernel, by decide +kernel⟩, by decide +kernel⟩, by decide +kernel⟩

/-- How long the paths with the long name are. -/
theorem utf8ByteSize_longRoot : longRoot.toString.utf8ByteSize = 305 ∧
    longRoot.parent.toString.utf8ByteSize = 303 := by
  have size := Path.utf8ByteSize_toString (p := longRoot) (List.cons_ne_nil _ _)
  have size' := Path.utf8ByteSize_toString (p := longRoot.parent) (List.cons_ne_nil _ _)
  have anchor : longRoot.anchor.text.utf8ByteSize = 1 := by decide
  have anchor' : longRoot.parent.anchor.text.utf8ByteSize = 1 := by decide
  have names : "a".utf8ByteSize = 1 ∧ "c".utf8ByteSize = 1 := by decide
  have parts : extent longRoot.parts = 305 := by
    rw [longRoot, extent_cons, extent_cons, extent_cons, extent_nil, longName_long.2, names.1,
      names.2]
  have parts' : extent longRoot.parent.parts = 303 := by
    change extent ["a", longName] = 303
    rw [extent_cons, extent_cons, extent_nil, longName_long.2, names.1]
  omega

/-- Paths with the long name can be walked. -/
theorem isPossible_longRoot : longRoot.IsPossible ∧ longRoot.parent.IsPossible := by
  have nonzero : '\x00' ∉ longName.toList := by
    intro zero
    have chars : longName.toList = List.replicate 300 'x' := String.toList_ofList
    rw [chars, List.mem_replicate] at zero
    exact absurd zero.2 (by decide)
  have possible : longRoot.IsPossible := by
    refine ⟨Path.hasZero_eq_false_iff.mpr ?_, by rw [utf8ByteSize_longRoot.1]; decide⟩
    refine List.forall_mem_cons.mpr ⟨by decide, List.forall_mem_cons.mpr ⟨nonzero, ?_⟩⟩
    exact List.forall_mem_singleton.mpr (by decide)
  exact ⟨possible, possible.parent⟩

/-- With the beginning made, the long name is in the way. -/
theorem walks_longName {aim : Aim} {links : Nat} (rest : List String) :
    withBeginning.Walks aim links ["a"] (longName :: rest) (.error .nameTooLong) :=
  .long opens_withBeginning.directory longName_long.1 (by rw [longName_long.2]; decide)

/-- **The directory is made half way**: what is in the way is the one above it. -/
theorem ensureDirectories_longRoot :
    (ensureDirectories longRoot).run.run onlySoleProcess =
      (.error ⟨.nameTooLong, longRoot.parent⟩, withBeginning) := by
  have missing {aim : Aim} {links : Nat} (rest : List String) (more : rest ≠ [])
      (folder : aim ≠ .file) :
      onlySoleProcess.Walks aim links [] ("a" :: rest) (.error .noEntry) :=
    .missing rfl fits_beginning.named rfl more fun both => folder both.2
  have whole := ensureDirectory_of_unreached (Opens.root onlySoleProcess) (by simp)
    isPossible_longRoot.1 fun _ _ => missing [longName, "c"] (by simp)
  have above := ensureDirectory_of_unreached (Opens.root onlySoleProcess) (by simp)
    isPossible_longRoot.2 fun _ _ => missing [longName] (by simp)
  have first : (ensureDirectory ⟨.root, ["a"]⟩).run.run onlySoleProcess = (.ok (), withBeginning) :=
    (Opens.root _).ensureDirectory_free fits_beginning rfl
  have refused := ensureDirectory_of_unreached opens_withBeginning (by simp)
    isPossible_longRoot.2 fun _ _ _ => walks_longName []
  have parent : (ensureDirectories longRoot.parent).run.run onlySoleProcess =
      (.error ⟨.nameTooLong, longRoot.parent⟩, withBeginning) := by
    refine (ensureDirectories_of_missing above (by simp [Path.below])).trans ?_
    refine (run_bind_of_ok (ensureDirectories_of_ok first)).trans ?_
    exact refused
  refine (ensureDirectories_of_missing whole (by simp [Path.below])).trans ?_
  exact run_bind_of_error parent

/-- **The directory is refused again**: what is in the way is itself. -/
theorem ensureDirectories_longRoot_again :
    (ensureDirectories longRoot).run.run withBeginning =
      (.error ⟨.nameTooLong, longRoot⟩, withBeginning) :=
  ensureDirectories_of_blocked (ensureDirectory_of_unreached opens_withBeginning (by simp)
    isPossible_longRoot.1 fun _ _ _ => walks_longName ["c"]) (.inr (by simp))

/-- Everything has a name of its own, and is in a directory. -/
theorem proper_onlySoleProcess :
    onlySoleProcess.Proper ∧ onlySoleProcess.Grounded ∧ onlySoleProcess.LinkFree := by
  have named : IsShortName "a.bpmn" := by decide
  refine ⟨⟨?_, ?_, nofun, ?_⟩, .of_entries ?_, ?_⟩
  · simp [onlySoleProcess, named.entry]
  · simp [onlySoleProcess]
  · intro l hl
    rw [List.prefix_nil.mp hl]
    rfl
  · exact List.forall_mem_singleton.mpr ⟨[], "a.bpmn", rfl, named, rfl⟩
  · intro l e found
    rcases eq_or_mem_of_entryAt? found with ⟨-, rfl⟩ | there
    · exact nofun
    · cases List.mem_singleton.mp there
      exact nofun

/-- The document is found below the root, however that is spelled. -/
theorem discover_onlySoleProcess {root : Path} (opens : onlySoleProcess.Opens root [])
    (possible : (root.below ["a.bpmn"]).IsPossible) (normal : root.IsNormal) :
    onlySoleProcess.discover root [] = .ok ⟨[root.below ["a.bpmn"]], []⟩ := by
  obtain ⟨proper, grounded, linkFree⟩ := proper_onlySoleProcess
  have found : onlySoleProcess.entryAt? ["a.bpmn"] = some (.file soleProcess.toUTF8) := rfl
  have named : (root.below ["a.bpmn"]).isDocumentName = true := by
    have name : (root.below ["a.bpmn"]).name = "a.bpmn" := by simp [Path.name, Path.below]
    rw [Path.isDocumentName, name]
    decide +kernel
  refine discover_only proper normal opens (grounded.reached_iff.mpr ⟨by simp, found⟩)
    (opens.locate_below grounded linkFree possible found) named fun names e reached => .inl ?_
  obtain ⟨nonempty, there⟩ := grounded.reached_iff.mp reached
  have listed := (eq_or_mem_of_entryAt? there).resolve_left (by simp [nonempty])
  exact congrArg Prod.fst (List.mem_singleton.mp listed)

/-- With the beginning made, the document is still found and read: the beginning is new, and no
document. -/
theorem discover_withBeginning :
    withBeginning.discover ⟨.root, []⟩ [] = .ok ⟨[solePath], []⟩ ∧
      withBeginning.read solePath = .ok soleProcess.toUTF8 := by
  obtain ⟨proper, grounded, linkFree⟩ := proper_onlySoleProcess
  have opens := Opens.root onlySoleProcess
  have gains : Gains onlySoleProcess withBeginning :=
    .single (.directory (l := []) rfl fits_beginning.named rfl)
  have room : HasRoom ⟨.root, []⟩ [] onlySoleProcess withBeginning := by
    intro names free directory
    by_cases here : names = ["a"]
    · rw [here]
      exact ⟨fits_beginning.possible, by decide +kernel⟩
    · rw [withBeginning, List.nil_append, entryAt?_put_of_ne _ here] at directory
      cases free.symm.trans directory
  exact ⟨gains.discover_eq grounded linkFree opens proper Path.isNormal_root room
      (discover_onlySoleProcess opens possible_solePath Path.isNormal_root),
    (Opens.root _).read_below (gains.grounded grounded) (gains.linkFree linkFree)
      possible_solePath rfl⟩

/-- **Generating for the document**, if its root is refused. -/
theorem generate_of_refused {root : Path} {packageMarkers : Bool} {p : Path} {left : FileTree}
    {fault : FileFault} (destination : s.destination = .directory root packageMarkers)
    (package : s.packageName = Settings.defaultPackage) {runtime : RuntimeReference}
    (hr : runtimeOf s.runtimeService = .ok runtime)
    (discovered : store.files.discover s.sourceDirectory s.excludePatterns = .ok ⟨[p], []⟩)
    (held : store.files.read p = .ok soleProcess.toUTF8)
    (refused : (ensureDirectories root).run.run store.files = (.error fault, left))
    (own : (WriteProblem.file (.unusable fault)).mistake? = none) :
    ∃ r, (generate s store).1 = .ok r ∧ r.store = { store with files := left } ∧
      r.report.diagnostics = s.diagnostics ++ [⟨.error, (soleService runtime p).writeFailure
        (WriteProblem.file (.unusable fault)).message, some p⟩] := by
  have failed : s.destination.write store (soleService runtime p) =
      (.error (.file (.unusable fault)), { store with files := left }) := by
    rw [destination]
    exact Destination.write_of_makeWay_error
      ⟨isPackageName_soleService runtime p, (isUsableName_soleService runtime p).2⟩
      (unusableName?_soleService runtime p) (run_bind_of_error refused)
  obtain ⟨r, done, same, -, told⟩ := ofDocuments_soleProcess_of_failed package hr held failed own
  exact ⟨r, generate_eq_ok_iff.mpr ⟨_, discovered, done⟩, same, told⟩

/-- **How it is said that the directory cannot be made** changes when it was made half way. -/
theorem generate_again_longRoot :
    let store : Store := ⟨[], onlySoleProcess⟩
    let s := (Draft.between ⟨.root, []⟩ longRoot).settings store.files
    ∃ r r', (generate s store).1 = .ok r ∧ (generate s r.store).1 = .ok r' ∧
      r'.report.diagnostics ≠ r.report.diagnostics := by
  intro store s
  have frozen : (Draft.between ⟨.root, []⟩ longRoot).freeze store.files = .ok s :=
    Draft.freeze_between _ _ _
  obtain ⟨-, runtime, hr⟩ := Draft.freeze_ok frozen
  obtain ⟨-, grounded, linkFree⟩ := proper_onlySoleProcess
  have held : onlySoleProcess.read solePath = .ok soleProcess.toUTF8 :=
    (Opens.root _).read_below grounded linkFree possible_solePath rfl
  have discovered : store.files.discover s.sourceDirectory s.excludePatterns =
      .ok ⟨[solePath], []⟩ :=
    discover_onlySoleProcess (Opens.root _) possible_solePath Path.isNormal_root
  obtain ⟨discovered', held'⟩ := discover_withBeginning
  obtain ⟨r, generated, left, told⟩ :=
    generate_of_refused rfl rfl hr discovered held ensureDirectories_longRoot rfl
  obtain ⟨r', generated', -, told'⟩ : ∃ r', (generate s ⟨[], withBeginning⟩).1 = .ok r' ∧ _ :=
    generate_of_refused rfl rfl hr discovered' held' ensureDirectories_longRoot_again rfl
  refine ⟨r, r', generated, left ▸ generated', ?_⟩
  rw [told, told']
  intro same
  have last := List.singleton_inj.mp (List.append_cancel_left same)
  have messages := (String.append_right_inj _).mp (congrArg Diagnostic.message last)
  have paths : longRoot.toString = longRoot.parent.toString :=
    Text.quoted_injective ((String.append_right_inj _).mp messages)
  have sizes := congrArg String.utf8ByteSize paths
  rw [utf8ByteSize_longRoot.1, utf8ByteSize_longRoot.2] at sizes
  cases sizes

/-! ### A root that cannot be reached from the source directory -/

/-- **The run over the document**, whatever becomes of its service. -/
theorem Run.ofDocuments_soleProcess {d : Destination} (reachable : d.Possible)
    (package : s.packageName = Settings.defaultPackage) {runtime : RuntimeReference}
    (hr : runtimeOf s.runtimeService = .ok runtime) {p : Path}
    (held : store.files.read p = .ok soleProcess.toUTF8) :
    ∃ r, ofDocuments s d store [p] = .ok r ∧
      r.store = (d.write store (soleService runtime p)).2 := by
  rcases written : d.write store (soleService runtime p) with ⟨problem | w, left⟩
  · have own := Destination.isOwn_of_write reachable (isPackageName_soleService runtime p)
      (congrArg Prod.fst written)
    obtain ⟨r, done, same, -⟩ := ofDocuments_soleProcess_of_failed package hr held written own
    exact ⟨r, done, same⟩
  · obtain ⟨r, added, -, -, same⟩ := addDocument_soleProcess
      (r := .start s.diagnostics store) package hr held rfl written
    exact ⟨_, ofDocuments_singleton added, same⟩

/-- The root, spelled in as many ways up as fit. -/
def longSource : Path := ⟨.root, List.replicate 1300 ".."⟩

/-- A name that is as long as names can be. -/
def wideName : String := String.ofList (List.replicate maxNameBytes 'x')

/-- A root of that name. -/
def wideRoot : Path := ⟨.root, [wideName]⟩

/-- The wide name is one, as long as names can be. -/
theorem wideName_short : IsShortName wideName ∧ wideName.utf8ByteSize = 255 := by
  have size : wideName.utf8ByteSize = 255 := by decide +kernel
  exact ⟨⟨⟨⟨by decide +kernel, by decide +kernel⟩, by decide +kernel⟩, Nat.le_of_eq size⟩, size⟩

/-- The wide name holds no character zero. -/
theorem wideName_nonzero : '\x00' ∉ wideName.toList := by
  rw [wideName, String.toList_ofList, List.mem_replicate]
  rintro ⟨-, zero⟩
  cases zero

/-- How long the paths below the source directory are. -/
theorem utf8ByteSize_below_longSource (name : String) :
    (longSource.below [name]).toString.utf8ByteSize = 3901 + name.utf8ByteSize := by
  have ups (k : Nat) : extent (List.replicate k "..") = 3 * k := by
    have size : "..".utf8ByteSize = 2 := by decide
    induction k with
    | zero => rfl
    | succ k ih => rw [List.replicate_succ, extent_cons, ih, size]; omega
  have size := Path.utf8ByteSize_below longSource (List.cons_ne_nil name [])
  have anchor : longSource.anchor.text.utf8ByteSize = 1 := by decide
  have parts : extent (longSource.parts ++ [name]) = 3900 + (name.utf8ByteSize + 1) := by
    rw [extent_append, longSource, ups, extent_cons, extent_nil]
  rw [Path.extentWith, anchor, parts] at size
  omega

/-- Paths below the source directory hold no character zero, if their names do not. -/
theorem hasZero_below_longSource {name : String} (nonzero : '\x00' ∉ name.toList) :
    (longSource.below [name]).hasZero = false := by
  refine Path.hasZero_eq_false_iff.mpr fun part hpart => ?_
  rcases List.mem_append.mp hpart with hpart | hpart
  · rw [List.eq_of_mem_replicate hpart]
    decide
  · rwa [List.mem_singleton.mp hpart]

/-- A short name below the source directory can be walked to. -/
theorem isPossible_below_longSource {name : String} (nonzero : '\x00' ∉ name.toList)
    (short : name.utf8ByteSize ≤ 194) : (longSource.below [name]).IsPossible where
  nonzero := hasZero_below_longSource nonzero
  short := by
    rw [utf8ByteSize_below_longSource, maxPathBytes]
    omega

/-- The source directory is the root. -/
theorem opens_longSource : onlySoleProcess.Opens longSource [] := by
  have up (k : Nat) : onlySoleProcess.Walks .target maxLinks [] (List.replicate k "..")
      (.ok (.taken [] .directory)) := by
    induction k with
    | zero => exact .done rfl
    | succ k ih => exact .up rfl ih
  have possible : longSource.IsPossible := by
    have below : (longSource.below ["a"]).IsPossible :=
      isPossible_below_longSource (by decide) (by decide)
    simpa [Path.parent, Path.below] using below.parent
  exact FileTree.locate_of_walks possible (up 1300)

/-- A root of the wide name can be made. -/
theorem fits_wideName : Path.Fits ⟨.root, []⟩ wideName where
  named := wideName_short.1
  possible := by
    have size (name : String) : (Path.mk .root [name]).toString.utf8ByteSize =
        name.utf8ByteSize + 1 := by
      have size := Path.utf8ByteSize_toString (p := ⟨.root, [name]⟩) (List.cons_ne_nil _ _)
      have anchor : (Path.Anchor.text .root).utf8ByteSize = 1 := by decide
      rw [anchor, extent_cons, extent_nil] at size
      omega
    refine ⟨Path.hasZero_eq_false_iff.mpr (List.forall_mem_singleton.mpr wideName_nonzero), ?_⟩
    refine Nat.le_trans (Nat.le_of_eq (size wideName)) ?_
    rw [wideName_short.2]
    decide

/-- The tree with such a root. -/
def withWideRoot : FileTree := onlySoleProcess.put [wideName] .directory

/-- The root is there. -/
theorem opens_wideRoot : withWideRoot.Opens wideRoot [wideName] :=
  (Opens.root _).child fits_wideName (entryAt?_put_self _ (List.cons_ne_nil _ _) _)

/-- The root is made. -/
theorem ensureDirectories_wideRoot :
    (ensureDirectories wideRoot).run.run onlySoleProcess = (.ok (), withWideRoot) := by
  have free : onlySoleProcess.entryAt? [wideName] = none := by
    have other : wideName ≠ "a.bpmn" := by
      intro same
      have size := wideName_short.2
      rw [same] at size
      exact absurd size (by decide)
    simp [onlySoleProcess, entryAt?, Assoc.get?, other.symm]
  exact ensureDirectories_of_ok ((Opens.root _).ensureDirectory_free fits_wideName free)

/-- The root is there after the service is written below it, whatever becomes of that. -/
theorem entryAt?_wideRoot_of_write (runtime : RuntimeReference) (p : Path) :
    ((Destination.directory wideRoot true).write ⟨[], onlySoleProcess⟩
      (soleService runtime p)).2.files.entryAt? [wideName] = some .directory := by
  have placeable : (soleService runtime p).Placeable :=
    ⟨isPackageName_soleService runtime p, (isUsableName_soleService runtime p).2⟩
  have linkFree : withWideRoot.LinkFree := by
    have kept := (gains_ensureDirectories onlySoleProcess wideRoot).linkFree
      proper_onlySoleProcess.2.2
    rwa [ensureDirectories_wideRoot] at kept
  exact (Destination.grows_of_founded placeable (unusableName?_soleService runtime p)
    ensureDirectories_wideRoot (.inl opens_wideRoot) linkFree).directory opens_wideRoot.directory

/-- **Generating once more finds no documents** where the first run has created a directory whose
path from the source directory is too long. -/
theorem generate_again_longSource :
    let store : Store := ⟨[], onlySoleProcess⟩
    let s := (Draft.between longSource wideRoot).settings store.files
    ∃ r, (generate s store).1 = .ok r ∧ ∀ r', (generate s r.store).1 ≠ .ok r' := by
  intro store s
  have frozen : (Draft.between longSource wideRoot).freeze store.files = .ok s :=
    Draft.freeze_between _ _ _
  obtain ⟨-, runtime, hr⟩ := Draft.freeze_ok frozen
  obtain ⟨-, grounded, linkFree⟩ := proper_onlySoleProcess
  have normal : longSource.IsNormal := fun name hname => by
    rw [List.eq_of_mem_replicate hname]
    exact ⟨by decide, by decide⟩
  have possible : (longSource.below ["a.bpmn"]).IsPossible :=
    isPossible_below_longSource (by decide) (by decide)
  have discovered := discover_onlySoleProcess opens_longSource possible normal
  have held : onlySoleProcess.read (longSource.below ["a.bpmn"]) = .ok soleProcess.toUTF8 :=
    opens_longSource.read_below grounded linkFree possible rfl
  have reachable : (Destination.directory wideRoot true).Possible := fits_wideName.possible.nonzero
  obtain ⟨r, done, left⟩ : ∃ r, ofDocuments s (.directory wideRoot true) store
      [longSource.below ["a.bpmn"]] = .ok r ∧ r.store = ((Destination.directory wideRoot true).write
        store (soleService runtime (longSource.below ["a.bpmn"]))).2 :=
    ofDocuments_soleProcess reachable rfl hr held
  refine ⟨r, generate_eq_ok_iff.mpr ⟨_, discovered, done⟩, fun r' again => ?_⟩
  obtain ⟨found, discovered', -⟩ := generate_eq_ok_iff.mp again
  have package := isPackageName_soleService runtime (longSource.below ["a.bpmn"])
  have gains : Gains store.files r.store.files := by
    rw [left]
    exact Destination.gains_write wideRoot true package linkFree
  have made : r.store.files.entryAt? [wideName] = some .directory :=
    left ▸ entryAt?_wideRoot_of_write runtime _
  have long : maxPathBytes < (longSource.scanText [wideName]).utf8ByteSize := by
    rw [Path.scanText_of_root rfl, utf8ByteSize_below_longSource, wideName_short.2]
    decide
  exact not_discover_of_scanProblem? (opens_longSource.grows gains.grows)
    ((gains.grounded grounded).reached_iff.mpr ⟨List.cons_ne_nil _ _, made⟩) rfl (if_pos long) _ _
    discovered'

/-- **Generating once more may say something else, or find no documents**: how it is said that a
root cannot be made changes when it was made half way, and a root may be too far from the source
directory to be scanned once it is there. -/
theorem not_generate_again :
    let store : Store := ⟨[], onlySoleProcess⟩
    let s := (Draft.between ⟨.root, []⟩ longRoot).settings store.files
    let s' := (Draft.between longSource wideRoot).settings store.files
    (Draft.between ⟨.root, []⟩ longRoot).freeze store.files = .ok s ∧
      (Draft.between longSource wideRoot).freeze store.files = .ok s' ∧
      s.dryRun = false ∧ s'.dryRun = false ∧ s.excludePatterns = [] ∧ s'.excludePatterns = [] ∧
      store.files.LinkFree ∧ (∀ x ∈ store.files.entries, ∀ name ∈ x.1, '\r' ∉ name.toList) ∧
      (∃ r r', (generate s store).1 = .ok r ∧ (generate s r.store).1 = .ok r' ∧
        r'.report.diagnostics ≠ r.report.diagnostics) ∧
      ∃ r, (generate s' store).1 = .ok r ∧ ∀ r', (generate s' r.store).1 ≠ .ok r' := by
  intro store s s'
  refine ⟨Draft.freeze_between _ _ _, Draft.freeze_between _ _ _, rfl, rfl, rfl, rfl,
    proper_onlySoleProcess.2.2, ?_, generate_again_longRoot, generate_again_longSource⟩
  exact List.forall_mem_singleton.mpr (List.forall_mem_singleton.mpr (by decide))

end ProcessStubs
