import ProcessStubs.Proofs.Endings
import ProcessStubs.Proofs.MemoryImage
import ProcessStubs.Proofs.ModuleBytes

/-!
# A preview foretells the run

A preview goes in lockstep with the run to memory, and with the run below a directory as long as no
file is in the way of a stub and no document reads differently when its turn comes. The last
condition is needed: a link with the name of a document can lead to where a module goes, and then
the run finds the module there and not what the preview has read.

## Main results

* `Run.preview_foretells`: a preview, and runs to memory and below a directory.
* `Run.not_preview_foretells_overwritten`: a document that the run itself writes over.
-/

namespace ProcessStubs

open FileTree Text

namespace Run

/-- **A preview foretells the run.** It changes nothing, and to memory and below a directory the
same documents are read, the same stubs are written to the places of the same paths, and the same
diagnostics and exit code are reported. Below a directory, this takes that no document reads
differently when its turn comes, and that no file is in the way of a stub. -/
theorem preview_foretells (s : Settings) (store : Store) (paths : List Path) :
    (∀ r, ofDocuments s .preview store paths = .ok r → r.store = store) ∧
    Alike (fun r r' => r.report.Agrees id r'.report)
      (ofDocuments s .preview store paths) (ofDocuments s .memory store paths) ∧
    ∀ root packageMarkers,
      (∀ before p after b, paths = before ++ p :: after →
        before.foldlM (addDocument s (.directory root packageMarkers))
          (.start s.diagnostics store) = .ok b →
        Foreseen s (.directory root packageMarkers) store.files b p) →
      Alike (fun r r' => r.report.Agrees (root / ·) r'.report)
        (ofDocuments s .preview store paths)
        (ofDocuments s (.directory root packageMarkers) store paths) := by
  have memory := preview_lockstep_memory s store paths
  refine ⟨?_, memory.mono fun _ _ h => h.1.report.agrees, ?_⟩
  · intro r h
    rw [h] at memory
    obtain ⟨_, -, -, left, -⟩ := memory.exists_of_ok_left
    exact left
  · intro root packageMarkers foreseen
    exact (preview_lockstep foreseen).mono fun _ _ h => h.1.report.agrees

/-! ### A document of one process -/

/-- The text of the document. -/
def soleProcess : String :=
  "<definitions xmlns=\"http://www.omg.org/spec/BPMN/20100524/MODEL\">" ++
    "<process id=\"A\" isExecutable=\"true\"/></definitions>"

/-- The document is read. -/
theorem ofBytes_soleProcess (source : Path) :
    ProcessDocument.ofBytes (some source) soleProcess.toUTF8 =
      .ok ⟨[⟨"A", none, true, []⟩], [], some source⟩ := by
  have read : (ProcessDocument.ofBytes none soleProcess.toUTF8).toOption =
      some ⟨[⟨"A", none, true, []⟩], [], none⟩ := by decide +kernel
  exact ProcessDocument.ofBytes_of_toOption read source

/-- The document is read wherever a file holds it. -/
theorem ofFile_soleProcess {t : FileTree} {p : Path} (held : t.read p = .ok soleProcess.toUTF8) :
    ProcessDocument.ofFile t p = .ok ⟨[⟨"A", none, true, []⟩], [], some p⟩ := by
  rw [ProcessDocument.ofFile, held]
  exact ofBytes_soleProcess p

/-- It gives the service. -/
theorem stubsOf_soleProcess {s : Settings} (package : s.packageName = Settings.defaultPackage)
    {runtime : RuntimeReference} (hr : runtimeOf s.runtimeService = .ok runtime) (source : Path) :
    s.stubsOf ⟨[⟨"A", none, true, []⟩], [], some source⟩ = .ok [soleService runtime source] := by
  rw [Settings.stubsOf_eq hr, package]
  rfl

/-- The names of the service can be used. -/
theorem unusableName?_soleService (runtime : RuntimeReference) (source : Path) :
    (soleService runtime source).unusableName? = none :=
  Stub.unusableName?_ofProcess_letter _ runtime (some source) "A"

/-- The type of the service has a usable name. -/
theorem isUsableName_soleService (runtime : RuntimeReference) (source : Path) :
    (soleService runtime source).typeName = "AProcessService" ∧
      isUsableName (soleService runtime source).typeName = true :=
  ⟨Stub.serviceTypeName_letter,
    Stub.isUsableName_of_unusableName?_eq_none (unusableName?_soleService runtime source)⟩

/-- The service is in a package. -/
theorem isPackageName_soleService (runtime : RuntimeReference) (source : Path) :
    isPackageName (soleService runtime source).packageName = true :=
  (Draft.freeze_ok Draft.freeze_empty).1

/-- The module of the service goes to a path of two names. -/
theorem relativePath_soleService (runtime : RuntimeReference) (source : Path) :
    (soleService runtime source).relativePath moduleSuffix =
      ⟨.relative, ["generated", "AProcessService.py"]⟩ := by
  obtain ⟨name, type⟩ := isUsableName_soleService runtime source
  have package : Text.split '.' Settings.defaultPackage = ["generated"] := by decide +kernel
  rw [Stub.relativePath_of_isPackageName (isPackageName_soleService runtime source) type, name,
    show (soleService runtime source).packageName = Settings.defaultPackage from rfl, package]
  decide

/-- Writing the service is a regular call. -/
theorem regular_soleService {s : Settings} (package : s.packageName = Settings.defaultPackage)
    {runtime : RuntimeReference} (hr : runtimeOf s.runtimeService = .ok runtime) (source : Path)
    (h : '\r' ∉ source.name.toList) :
    (WriteCall.mk (soleService runtime source) none).Regular ⟨.root, ["out"]⟩ true := by
  have made := stubsOf_soleProcess package hr source
  have names := relativePath_soleService runtime source
  refine ⟨isPackageName_soleService runtime source, ?_, ?_, ?_, ?_, fun _ => ?_⟩
  · dsimp only
    rw [(isUsableName_soleService runtime source).1]
    decide
  · exact Settings.not_mem_moduleText made (by simpa using h) List.mem_cons_self
      (unusableName?_soleService runtime source)
  all_goals
    dsimp only
    rw [names]
    decide

/-! ### The run over the document -/

variable {s : Settings} {d : Destination} {policy : CollisionPolicy} {r : Run} {u : Stub}

/-- A stub whose module is new is written. -/
theorem emitAll_singleton_of_new (policy : CollisionPolicy)
    (new : Assoc.get? u.target r.latest = none) {w : Write} {store : Store}
    (written : d.write r.store u = (.ok w, store)) :
    ∃ log, emitAll policy d r [u] =
      ([.written w], { r with
        latest := Assoc.put u.target u r.latest
        store := store
        log := log }) := by
  have emitted : r.emit policy d u = r.write d u := by
    rw [emit, standing, new]
  rw [emitAll, emitted, Run.write, written]
  exact ⟨_, rfl⟩

/-- A stub that was written before is skipped. -/
theorem emitAll_singleton_of_repeated {v : Stub}
    (previous : Assoc.get? u.target r.latest = some v)
    (same : v.withoutSource = u.withoutSource) : emitAll policy d r [u] = ([.skipped], r) := by
  have emitted : r.emit policy d u = (.skipped, r) := by
    rw [emit, standing, previous]
    simp only [same, if_true]
  rw [emitAll, emitted]
  rfl

/-- A usable stub is written where the files below a directory are those in memory. -/
theorem exists_write_of_holds (store : Store) {root : Path} {packageMarkers : Bool} {l : Location}
    {modules : List (Path × String)} (held : store.files.Holds l modules)
    (opens : store.files.Opens root l)
    (regular : (WriteCall.mk u none).Regular root packageMarkers)
    (usable : u.unusableName? = none) :
    ∃ w files, (Destination.directory root packageMarkers).write store u =
        (.ok w, { store with files := files }) ∧ w.stub = u ∧ Grows store.files files ∧
      files.Holds l (Assoc.put (u.relativePath moduleSuffix) u.moduleText modules) ∧
      files.Opens root l := by
  obtain ⟨result, result', files, modules', below, memory, same, growth, opens', held'⟩ :=
    held.writeText opens regular store.files store.modules
  obtain ⟨w', -, put⟩ := Destination.put_memory ⟨modules, store.files⟩ u
    (u.relativePath moduleSuffix) u.moduleText
  have done : Destination.memory.writeText ⟨modules, store.files⟩ u u.moduleText =
      (.ok w', ⟨Assoc.put (u.relativePath moduleSuffix) u.moduleText modules, store.files⟩) := by
    rw [Destination.writeText, usable]
    exact put
  obtain ⟨rfl, stores⟩ := Prod.mk.inj (done.symm.trans memory)
  obtain ⟨rfl, -⟩ := Store.mk.inj stores
  cases result with
  | error problem => cases same
  | ok w =>
      refine ⟨w, files, below, ?_, growth, held', opens'⟩
      rcases (Destination.directory root packageMarkers).write_cases store u with
        ⟨problem, unusable, -⟩ | ⟨-, w'', done, stub, -⟩ | ⟨-, f, failed⟩
      · cases usable.symm.trans unusable
      · cases (congrArg Prod.fst below).symm.trans done
        exact stub
      · cases (congrArg Prod.fst below).symm.trans failed

/-- A run over two documents says what they came to. -/
theorem ofDocuments_pair {store : Store} {p p' : Path} {r r' : Run}
    (first : addDocument s d (.start s.diagnostics store) p = .ok r)
    (second : addDocument s d r p' = .ok r') :
    ofDocuments s d store [p, p'] = .ok (r'.note .info (summary r'.report)) := by
  refine ofDocuments_of_foldlM ?_
  rw [List.foldlM_cons, first, ok_bind, List.foldlM_cons, second]
  rfl

/-- Where modules are written to. -/
def soleRoot : Path := ⟨.root, ["out"]⟩

/-- The settings that write modules there. -/
def soleSettings (t : FileTree) : Settings := (Draft.writingTo soleRoot).settings t

/-- A tree with the document, a directory for modules, and what else there is. -/
def withSoleProcess (others : List (Location × FileEntry)) : FileTree :=
  ⟨[], (["a.bpmn"], .file soleProcess.toUTF8) :: (["out"], .directory) :: others⟩

/-- The document is there. -/
theorem read_withSoleProcess (others : List (Location × FileEntry)) :
    (withSoleProcess others).read solePath = .ok soleProcess.toUTF8 :=
  read_solePath rfl

/-- The directory is there. -/
theorem opens_withSoleProcess (others : List (Location × FileEntry)) :
    (withSoleProcess others).Opens soleRoot ["out"] :=
  (Opens.root _).child ⟨by decide, by decide⟩ rfl

/-- Without anything else, the directory holds no modules. -/
theorem holds_withSoleProcess : (withSoleProcess []).Holds ["out"] [] :=
  .empty fun q h => by simp [withSoleProcess, entryAt?, Assoc.get?, h]

/-- **The document's turn**, if its service is new and can be written. -/
theorem addDocument_soleProcess (package : s.packageName = Settings.defaultPackage)
    {runtime : RuntimeReference} (hr : runtimeOf s.runtimeService = .ok runtime) {p : Path}
    (held : r.store.files.read p = .ok soleProcess.toUTF8) (new : r.latest = []) {w : Write}
    {store : Store} (written : d.write r.store (soleService runtime p) = (.ok w, store)) :
    ∃ r', addDocument s d r p = .ok r' ∧
      r'.report = r.report.addFile ⟨p, .read [soleService runtime p] [w]⟩ ∧
      r'.latest = [((soleService runtime p).target, soleService runtime p)] ∧ r'.store = store := by
  obtain ⟨log, added⟩ := addDocument_of_stubs (d := d) (ofFile_soleProcess held)
    (stubsOf_soleProcess package hr p)
  obtain ⟨log', emitted⟩ := emitAll_singleton_of_new s.collisionPolicy
    (r := { r with log := log }) (by rw [new]; rfl) written
  rw [finishDocument, emitted, new] at added
  exact ⟨_, added, rfl, rfl, rfl⟩

/-- The run over the document alone is foreseen: its service is written below the empty
directory. -/
theorem preview_foretells_service :
    let s := soleSettings (withSoleProcess [])
    let store : Store := ⟨[], withSoleProcess []⟩
    let d : Destination := .directory soleRoot true
    (Draft.writingTo soleRoot).freeze store.files = .ok s ∧ s.destination = d ∧
      (∀ before p after b, [solePath] = before ++ p :: after →
        before.foldlM (addDocument s d) (.start s.diagnostics store) = .ok b →
        Foreseen s d store.files b p) ∧
      Alike (fun r r' => r.report.Agrees (soleRoot / ·) r'.report)
        (ofDocuments s .preview store [solePath]) (ofDocuments s d store [solePath]) := by
  intro s store d
  have frozen := Draft.freeze_writingTo soleRoot (withSoleProcess [])
  have foreseen : ∀ before p after b, [solePath] = before ++ p :: after →
      before.foldlM (addDocument s d) (.start s.diagnostics store) = .ok b →
      Foreseen s d store.files b p := by
    intro before p after b split walked
    obtain ⟨rfl, rfl, rfl⟩ : before = [] ∧ p = solePath ∧ after = [] := by
      cases before with
      | nil => simpa [eq_comm] using split
      | cons x rest => simp at split
    cases walked
    refine ⟨rfl, ?_⟩
    intro document stubs opened made e he
    obtain ⟨-, runtime, hr⟩ := Draft.freeze_ok frozen
    cases (ofFile_soleProcess (read_withSoleProcess [])).symm.trans opened
    cases (stubsOf_soleProcess rfl hr _).symm.trans made
    obtain ⟨w, files, written, -⟩ := exists_write_of_holds store holds_withSoleProcess
      (opens_withSoleProcess []) (regular_soleService (s := s) rfl hr solePath (by decide))
      (unusableName?_soleService runtime _)
    obtain ⟨log, emitted⟩ := emitAll_singleton_of_new s.collisionPolicy
      (r := .start s.diagnostics store) rfl written
    rw [emitted] at he
    rw [List.mem_singleton.mp he]
    exact id
  exact ⟨frozen, rfl, foreseen, (preview_foretells s store [solePath]).2.2 _ _ foreseen⟩

/-! ### A document that is written over -/

/-- Where the module of the service goes below the root. -/
def moduleNames : List String := ["out", "generated", "AProcessService.py"]

/-- A tree with the document in a directory and a link beside it that leads to where the module of
its service goes. Modules go to another directory, which holds what else there is. -/
def withLink (others : List (Location × FileEntry)) : FileTree :=
  ⟨[], (["bpmn"], .directory) :: (["bpmn", "a.bpmn"], .file soleProcess.toUTF8) ::
    (["bpmn", "b.bpmn"], .link ⟨⟨.relative, ".." :: moduleNames⟩, .plain⟩) ::
    (["out"], .directory) :: others⟩

/-- The tree with the document once more, where the module of the service goes. -/
def withTwin : FileTree :=
  withLink [(["out", "generated"], .directory), (moduleNames, .file soleProcess.toUTF8)]

/-- The directory that documents are looked for in. -/
def sourcePath : Path := ⟨.root, ["bpmn"]⟩

/-- Where the document is. -/
def firstPath : Path := ⟨.root, ["bpmn", "a.bpmn"]⟩

/-- Where the link is. -/
def linkPath : Path := ⟨.root, ["bpmn", "b.bpmn"]⟩

/-- The directory of modules holds the second document as a module. -/
theorem holds_withTwin :
    withTwin.Holds ["out"] [(⟨.relative, ["generated", "AProcessService.py"]⟩, soleProcess)] := by
  have empty : (withLink []).Holds ["out"] [] :=
    .empty fun q h => by simp [withLink, entryAt?, Assoc.get?, h]
  have package : isUsableName "generated" = true := by decide +kernel
  have step : Build ["out"] (withLink []) (withLink [(["out", "generated"], .directory)]) :=
    .directory_here rfl package rfl
  have growth : Grows (withLink [(["out", "generated"], .directory)]) withTwin :=
    grows_put (l := moduleNames) (by simp [moduleNames]) fun old found => by cases found
  exact (empty.build step).store (q := ["generated"]) rfl (by decide) (by decide)
    (by decide +kernel) growth

/-- Both directories can be entered, and both paths lead to the document. -/
theorem withTwin_locate :
    withTwin.Opens sourcePath ["bpmn"] ∧ withTwin.Opens soleRoot ["out"] ∧
      withTwin.locate .target firstPath =
        .ok (.taken ["bpmn", "a.bpmn"] (.file soleProcess.toUTF8)) ∧
      withTwin.locate .target linkPath = .ok (.taken moduleNames (.file soleProcess.toUTF8)) := by
  have source : IsShortName "bpmn" := by decide
  have document : IsShortName "a.bpmn" := by decide
  have link : IsShortName "b.bpmn" := by decide
  have out : IsShortName "out" := by decide
  have package : IsShortName "generated" := by decide
  have module : IsShortName "AProcessService.py" := by decide
  have followed (links : Nat) : withTwin.Walks .target links ["bpmn"] (".." :: moduleNames)
      (.ok (.taken moduleNames (.file soleProcess.toUTF8))) :=
    .up rfl (.enter rfl out rfl nofun (.enter rfl package rfl nofun
      (.enter rfl module rfl nofun (.done rfl))))
  refine ⟨locate_of_walks ?_ (.enter rfl source rfl nofun (.done rfl)),
    locate_of_walks ?_ (.enter rfl out rfl nofun (.done rfl)),
    locate_of_walks ?_ (.enter rfl source rfl nofun (.enter rfl document rfl nofun (.done rfl))),
    locate_of_walks ?_ (.enter rfl source rfl nofun (.follow rfl link rfl (by simp) (followed _)))⟩
  all_goals decide

/-- Nothing else is found where documents are looked for, and neither is a directory. -/
theorem names_of_reached_withTwin {names : List String} {e : FileEntry}
    (reached : withTwin.Reached ["bpmn"] names e) :
    ¬ e.isDirectory = true ∧ (names = ["a.bpmn"] ∨ names = ["b.bpmn"]) := by
  have listed := (eq_or_mem_of_entryAt? reached.entryAt?_eq).resolve_left (by simp)
  have nonempty := reached.ne_nil
  simp only [withTwin, withLink, moduleNames, List.cons_append, List.nil_append, List.mem_cons,
    List.not_mem_nil, or_false, Prod.mk.injEq, List.cons.injEq, true_and] at listed
  rcases listed with ⟨rfl, -⟩ | ⟨rfl, rfl⟩ | ⟨rfl, rfl⟩ | ⟨⟨other, -⟩, -⟩ | ⟨⟨other, -⟩, -⟩ |
    ⟨⟨other, -⟩, -⟩
  · exact absurd rfl nonempty
  · exact ⟨Bool.false_ne_true, .inl rfl⟩
  · exact ⟨Bool.false_ne_true, .inr rfl⟩
  all_goals exact absurd other (by decide)

/-- The document and the link are found. -/
theorem discover_withTwin :
    withTwin.discover sourcePath [] = .ok ⟨[firstPath, linkPath], []⟩ := by
  obtain ⟨source, -, document, link⟩ := withTwin_locate
  have proper : withTwin.Proper :=
    proper_of_root (by simp [moduleNames, IsEntryName, IsNormalName])
      (by simp [moduleNames, Path.IsNormal, IsNormalName])
  have first : withTwin.Reached ["bpmn"] ["a.bpmn"] (.file soleProcess.toUTF8) := .child rfl rfl
  have second : withTwin.Reached ["bpmn"] ["b.bpmn"]
      (.link ⟨⟨.relative, ".." :: moduleNames⟩, .plain⟩) := .child rfl rfl
  have walkable : withTwin.Walkable sourcePath ["bpmn"] := by
    intro names e reached
    obtain ⟨other, rfl | rfl⟩ := names_of_reached_withTwin reached
    · exact ⟨fun directory => absurd directory other,
        fun _ _ f failed => by cases document.symm.trans failed⟩
    · exact ⟨fun directory => absurd directory other,
        fun _ _ f failed => by cases link.symm.trans failed⟩
  have member (p : Path) : p ∈ [firstPath, linkPath] ↔
      withTwin.DocumentBelow sourcePath ["bpmn"] p := by
    constructor
    · intro hp
      rcases List.mem_pair.mp hp with rfl | rfl
      · exact ⟨⟨_, _, first, rfl⟩, by decide +kernel, _, _, document, rfl⟩
      · exact ⟨⟨_, _, second, rfl⟩, by decide +kernel, _, _, link, rfl⟩
    · rintro ⟨⟨names, e, reached, rfl⟩, -⟩
      obtain ⟨-, rfl | rfl⟩ := names_of_reached_withTwin reached
      · exact List.mem_cons_self
      · exact List.mem_cons_of_mem _ List.mem_cons_self
  have ordered : [firstPath, linkPath].Pairwise Path.Before :=
    List.pairwise_pair.mpr (by decide +kernel : compare _ _ = .lt)
  exact discover_of_collected proper (by simp [sourcePath, Path.IsNormal, IsNormalName]) source
    (documentsBelow_eq_ok_iff.mpr ⟨walkable, ordered, member⟩)

/-- The document is read at both paths. -/
theorem read_withTwin :
    withTwin.read firstPath = .ok soleProcess.toUTF8 ∧
      withTwin.read linkPath = .ok soleProcess.toUTF8 := by
  obtain ⟨-, -, document, link⟩ := withTwin_locate
  rw [FileTree.read, FileTree.read, document, link]
  exact ⟨rfl, rfl⟩

/-- Where the directory of modules holds a module of the service, it is read along the link. -/
theorem read_linkPath {t : FileTree} {modules : List (Path × String)} (growth : Grows withTwin t)
    (held : t.Holds ["out"] modules) {text : String}
    (got : Assoc.get? ⟨.relative, ["generated", "AProcessService.py"]⟩ modules = some text) :
    t.read linkPath = .ok text.toUTF8 := by
  obtain ⟨-, -, -, link⟩ := withTwin_locate
  have found := (held.file_iff ["generated"] "AProcessService.py" text.toUTF8 (by decide)).mpr
    ⟨text, got, rfl⟩
  obtain ⟨e, located, -⟩ := growth.locate_taken (by simp) link
  cases found.symm.trans (walks_of_locate located).entryAt?_of_taken
  rw [FileTree.read, located]
  rfl

/-- A preview reads both. -/
theorem exists_preview_withTwin (package : s.packageName = Settings.defaultPackage)
    {runtime : RuntimeReference} (hr : runtimeOf s.runtimeService = .ok runtime) :
    ∃ r x y, ofDocuments s .preview ⟨[], withTwin⟩ [firstPath, linkPath] = .ok r ∧
      r.report.files = [x, y] ∧ y.fault? = none := by
  obtain ⟨w, -, -, shown⟩ := Destination.write_of_usable (d := .preview) rfl ⟨[], withTwin⟩
    (unusableName?_soleService runtime firstPath)
  obtain ⟨r, added, report, latest, store⟩ := addDocument_soleProcess
    (r := .start s.diagnostics ⟨[], withTwin⟩) package hr read_withTwin.1 rfl shown
  have held : r.store.files.read linkPath = .ok soleProcess.toUTF8 := by
    rw [store]
    exact read_withTwin.2
  -- The service was shown before, from the first document.
  obtain ⟨log, added'⟩ := addDocument_of_stubs (d := .preview) (ofFile_soleProcess held)
    (stubsOf_soleProcess package hr linkPath)
  have skipped : emitAll s.collisionPolicy .preview { r with log := log }
      [soleService runtime linkPath] = ([.skipped], { r with log := log }) :=
    emitAll_singleton_of_repeated (v := soleService runtime firstPath) (by rw [latest]; rfl) rfl
  rw [finishDocument, skipped] at added'
  refine ⟨_, ⟨firstPath, .read [soleService runtime firstPath] [w]⟩,
    ⟨linkPath, .read [soleService runtime linkPath] []⟩, ofDocuments_pair added added', ?_, rfl⟩
  exact congrArg (fun report : Report => report.files ++ _) report

/-- The run has put the module in place of the second document when its turn comes. -/
theorem exists_run_withTwin (package : s.packageName = Settings.defaultPackage)
    {runtime : RuntimeReference} (hr : runtimeOf s.runtimeService = .ok runtime) :
    ∃ r w f, ofDocuments s (.directory soleRoot true) ⟨[], withTwin⟩ [firstPath, linkPath] =
        .ok r ∧ w.stub = soleService runtime firstPath ∧
      r.report.files = [⟨firstPath, .read [soleService runtime firstPath] [w]⟩,
        ⟨linkPath, .unread (.markup f)⟩] := by
  obtain ⟨w, files, written, stub, growth, held, -⟩ := exists_write_of_holds ⟨[], withTwin⟩
    holds_withTwin withTwin_locate.2.1
    (regular_soleService package hr firstPath (by decide)) (unusableName?_soleService runtime _)
  obtain ⟨r, added, report, -, store⟩ := addDocument_soleProcess
    (r := .start s.diagnostics ⟨[], withTwin⟩) package hr read_withTwin.1 rfl written
  obtain ⟨f, refused⟩ := (soleService runtime firstPath).ofBytes_moduleText (some linkPath)
  have unread : ProcessDocument.ofFile r.store.files linkPath = .error (.markup f) := by
    rw [relativePath_soleService] at held
    rw [store, ProcessDocument.ofFile, read_linkPath growth held (Assoc.get?_put_self ..)]
    exact refused
  obtain ⟨log, added'⟩ := addDocument_of_unread (s := s) (d := .directory soleRoot true) rfl unread
  refine ⟨_, w, f, ofDocuments_pair added added', stub, ?_⟩
  exact congrArg (fun report : Report => report.files ++ _) report

/-- **A preview does not foretell** what the run itself writes over: the preview reads the second
document along the link, while the run has put the module of the first one in its place when its
turn comes. No file was in the way of a stub. -/
theorem not_preview_foretells_overwritten :
    let draft := Draft.between sourcePath soleRoot
    let s := draft.settings withTwin
    let preview := { draft with dryRun := some true }.settings withTwin
    let store : Store := ⟨[], withTwin⟩
    draft.freeze withTwin = .ok s ∧
      { draft with dryRun := some true }.freeze withTwin = .ok preview ∧
      s.destination = .directory soleRoot true ∧ preview.destination = .preview ∧
      ∃ r r', (generate preview store).1 = .ok r ∧ (generate s store).1 = .ok r' ∧
        (∀ x ∈ r'.report.files, x.writes.map Write.stub = x.stubs) ∧
        ¬ r.report.Agrees (soleRoot / ·) r'.report := by
  intro draft s preview store
  have frozen : draft.freeze withTwin = .ok s := Draft.freeze_between _ _ _
  obtain ⟨package, runtime, hr⟩ := Draft.freeze_ok frozen
  obtain ⟨r, x, y, shown, files, read⟩ := exists_preview_withTwin (s := preview) rfl hr
  obtain ⟨r', w, f, ran, stub, files'⟩ := exists_run_withTwin (s := s) rfl hr
  refine ⟨frozen, Draft.freeze_eq_ok_iff.mpr ⟨package, ⟨runtime, hr⟩, rfl, rfl⟩, rfl, rfl, r, r',
    generate_eq_ok_iff.mpr ⟨_, discover_withTwin, shown⟩,
    generate_eq_ok_iff.mpr ⟨_, discover_withTwin, ran⟩, ?_, ?_⟩
  · rw [files']
    simp [FileResult.writes, FileResult.stubs, stub]
  · intro agrees
    have both := agrees.files
    rw [files, files'] at both
    obtain ⟨-, last, -⟩ := (List.forall₂_cons.mp both).imp_right List.forall₂_cons.mp
    cases read.symm.trans last.fault?.symm

end Run

end ProcessStubs
