import ProcessStubs.Proofs.Turns
import ProcessStubs.Proofs.WriteExact

/-!
# What a run leaves untouched

A run below a directory adds to the output tree and writes over modules. So what was there before
the run is there after it as it was, unless it is where the run reports a stub as written. A marker
that was there before is written over only by a stub whose type has the name of markers.

## Main definitions

* `Untouched`: what writes leave as it is.

## Main results

* `Destination.untouched_write`: one write.
* `Run.untouched_ofDocuments`: a run.
* `Run.markers_kept`: markers that were there before a run.
-/

namespace ProcessStubs

open FileTree

variable {root : Path} {package : String} {packageMarkers : Bool} {writes : List Write}
  {t t' t'' : FileTree}

/-- **What writes leave untouched**: a tree has grown, there are still no links in the output tree,
and what was there is as it was, unless it is where a stub of the package was written. -/
structure Untouched (root : Path) (package : String) (writes : List Write) (t t' : FileTree) :
    Prop where
  grows : Grows t t'
  outputLinkFree : t'.OutputLinkFree root
  kept : ∀ m e, t.entryAt? m = some e → t'.entryAt? m = some e ∨
    ∃ w ∈ writes, w.status = .written ∧ w.stub.packageName = package ∧
      ∃ l, t'.Opens root l ∧ m = w.stub.place l

namespace Untouched

/-- Without writes a tree can stay as it is. -/
theorem refl (clear : t.OutputLinkFree root) : Untouched root package [] t t :=
  ⟨.refl t, clear, fun _ _ found => .inl found⟩

/-- What is added leaves everything untouched. -/
theorem of_extends (added : Extends t t') (clear : t'.OutputLinkFree root) :
    Untouched root package writes t t' :=
  ⟨added.grows, clear, fun m e found => .inl (added.entry m e found)⟩

/-- What is left untouched by writes and by later ones is so by all of them. -/
theorem append {writes' : List Write} (h : Untouched root package writes t t')
    (h' : Untouched root package writes' t' t'') :
    Untouched root package (writes ++ writes') t t'' := by
  refine ⟨h.grows.trans h'.grows, h'.outputLinkFree, fun m e found => ?_⟩
  rcases h.kept m e found with same | ⟨w, hw, written, stub, l, opens, place⟩
  · rcases h'.kept m e same with same | ⟨w, hw, rest⟩
    · exact .inl same
    · exact .inr ⟨w, List.mem_append_right _ hw, rest⟩
  · exact .inr ⟨w, List.mem_append_left _ hw, written, stub, l, opens.grows h'.grows, place⟩

end Untouched

/-- **One write** leaves everything but its module untouched. -/
theorem Destination.untouched_write {u : Stub} (package : isPackageName u.packageName = true)
    {store : Store} (clear : store.files.OutputLinkFree root) :
    Untouched root u.packageName
      ((Destination.directory root packageMarkers).write store u).1.toOption.toList store.files
      ((Destination.directory root packageMarkers).write store u).2.files := by
  cases usable : u.unusableName? with
  | some problem =>
      rw [write, writeText, usable]
      exact .refl clear
  | none =>
      rcases done : (Destination.directory root packageMarkers).write store u with ⟨outcome, store'⟩
      obtain ⟨left, -, named⟩ := moduleStored_of_writeText package usable clear done
      generalize hs : outcome.map Write.status = result at left
      generalize store'.files = files at left ⊢
      cases left with
      | blocked problem added settled => exact .of_extends added settled.outputLinkFree
      | @stored l t₁ _ _ reached stored _ =>
          have growth := stored.grows (by simp [Stub.place])
          have opens := reached.way.opens_root.grows growth
          have settled : files.RootSettled root :=
            .inr (.inr ⟨l, opens, stored.linkFreeBelow reached.linkFree⟩)
          refine ⟨reached.grows.trans growth, settled.outputLinkFree, fun m e found => ?_⟩
          have there := reached.entry m e found
          by_cases place : m = u.place l
          · subst place
            cases stored with
            | unchanged | failed => exact .inl there
            | fresh free => cases free.symm.trans there
            | replaced =>
                -- Only here a file that was there is written over, and the write says so.
                cases outcome with
                | error problem => cases hs
                | ok w =>
                    obtain ⟨rfl, -⟩ := named w rfl
                    exact .inr ⟨w, by simp [Except.toOption], Except.ok.inj hs, rfl, l, opens, rfl⟩
          · exact .inl ((stored.entryAt?_of_ne place).trans there)

namespace Run

variable {s : Settings} {r : Run} {u : Stub}

/-- **A run below a directory** leaves everything untouched but the modules that it reports. -/
theorem untouched_ofDocuments (valid : isPackageName s.packageName = true) {store : Store}
    (clear : store.files.OutputLinkFree root) {paths : List Path}
    (done : ofDocuments s (.directory root packageMarkers) store paths = .ok r) :
    Untouched root s.packageName r.report.writes store.files r.store.files := by
  refine invariant_ofDocuments (P := fun writes _ store' =>
    Untouched root s.packageName writes store.files store'.files) ?_ (.refl clear) done
  intro writes latest before u w? latest' after makes untouched turned
  have package := makes.packageName
  have step : Untouched root u.packageName
      ((Destination.directory root packageMarkers).write before u).1.toOption.toList
      before.files _ :=
    Destination.untouched_write (package ▸ valid) untouched.outputLinkFree
  rw [package] at step
  cases turned with
  | passed => simpa using untouched
  | failed written | written _ written =>
      rw [written] at step
      exact untouched.append step

/-- **What a run below a directory has left** of the files that were there before. -/
structure FilesKept (s : Settings) (files : FileTree) (r : Run) : Prop where
  /-- Whatever was there is as it was, unless it is where the report has a stub as written. -/
  kept : ∀ m e, files.entryAt? m = some e → r.store.files.entryAt? m = some e ∨
    ∃ w ∈ r.report.writes, w.status = .written ∧
      ∃ l, r.store.files.Opens s.outputDirectory l ∧ m = w.stub.place l
  /-- A marker in a directory of the package is as it was, unless it is in the last one of them and
  the report has a stub as written whose type has the name of markers. -/
  marker : ∀ l q e, r.store.files.Opens s.outputDirectory l → q <+: Text.split '.' s.packageName →
    files.entryAt? (l ++ q ++ [packageMarkerName]) = some e →
    r.store.files.entryAt? (l ++ q ++ [packageMarkerName]) = some e ∨
      q = Text.split '.' s.packageName ∧
        ∃ w ∈ r.report.writes, w.status = .written ∧ w.stub.typeName = "__init__"

/-- **Markers that were there before a run** are as they were, unless a stub of their name was
written over one. -/
theorem markers_kept {draft : Draft} {tree : FileTree} (frozen : draft.freeze tree = .ok s)
    {store : Store} (clear : store.files.OutputLinkFree s.outputDirectory) {paths : List Path}
    (done : ofDocuments s (.directory s.outputDirectory s.packageMarkers) store paths = .ok r) :
    FilesKept s store.files r := by
  obtain ⟨valid, -⟩ := Draft.freeze_ok frozen
  have untouched := untouched_ofDocuments valid clear done
  refine ⟨fun m e found => ?_, fun l q e opens beginning found => ?_⟩
  · rcases untouched.kept m e found with same | ⟨w, hw, written, -, place⟩
    · exact .inl same
    · exact .inr ⟨w, hw, written, place⟩
  · rcases untouched.kept _ e found with same | ⟨w, hw, written, package, l', opens', place⟩
    · exact .inl same
    · obtain rfl := Folder.unique (.inl opens') (.inl opens)
      obtain ⟨above, name⟩ := List.append_inj' place rfl
      have type := (Stub.Reached.fileName_eq_iff w.stub).mp (List.singleton_inj.mp name).symm
      refine .inr ⟨?_, w, hw, written, type⟩
      rw [List.append_cancel_left above, Stub.packageNames, package]

/-! ### A marker written by hand -/

/-- What was written by hand. -/
def handWritten : ByteArray := "CUSTOM = 1\n".toUTF8

/-- A tree with a document, and with a package that has a module and a marker written by hand. -/
def withPackage (document : String) : FileTree :=
  ⟨[], [(["a.bpmn"], .file document.toUTF8), (["out"], .directory),
    (["out", "generated"], .directory),
    (["out", "generated", "__init__.py"], .file handWritten),
    (["out", "generated", "AProcessService.py"], .file "".toUTF8)]⟩

/-- There are no links. -/
theorem linkFree_withPackage (document : String) : (withPackage document).LinkFree := by
  intro l e found
  rcases eq_or_mem_of_entryAt? found with ⟨-, rfl⟩ | there
  · exact nofun
  · simp only [withPackage, List.mem_cons, Prod.mk.injEq, List.not_mem_nil, or_false] at there
    rcases there with ⟨-, rfl⟩ | ⟨-, rfl⟩ | ⟨-, rfl⟩ | ⟨-, rfl⟩ | ⟨-, rfl⟩
    all_goals exact nofun

/-- The document is there. -/
theorem read_withPackage (document : String) :
    (withPackage document).read solePath = .ok document.toUTF8 :=
  read_solePath rfl

/-- The way to the modules of the package is there. -/
theorem wayMade_withPackage (document : String) :
    WayMade soleRoot ["generated"] true ["out"] (withPackage document) := by
  have out : (withPackage document).Opens soleRoot ["out"] :=
    (Opens.root _).child ⟨by decide, by decide⟩ rfl
  refine .single out ?_ rfl ⟨?_, _, rfl, by simp [IsEnd]⟩
  · exact ⟨by decide, by decide⟩
  · exact ⟨by decide, by decide⟩

/-- The names of the package. -/
theorem packageNames_default {u : Stub} (package : u.packageName = Settings.defaultPackage) :
    u.packageNames = ["generated"] := by
  rw [Stub.packageNames, package]
  decide +kernel

/-- **A stub whose module is there with another text** is written over it. -/
theorem exists_write_over {store : Store} (package : u.packageName = Settings.defaultPackage)
    (usable : u.unusableName? = none)
    (way : WayMade soleRoot ["generated"] true ["out"] store.files)
    (fits : Path.Fits ⟨.root, ["out", "generated"]⟩ (u.typeName ++ moduleSuffix))
    (text : String) (found : store.files.entryAt? (u.place ["out"]) = some (.file text.toUTF8))
    (start : text.toList.head? ≠ some '#') (returns : '\r' ∉ text.toList) :
    ∃ w, (Destination.directory soleRoot true).write store u = (.ok w, { store with
      files := store.files.put (u.place ["out"]) (.file u.moduleText.toUTF8) }) := by
  have names := packageNames_default package
  have placeable : u.Placeable :=
    ⟨package ▸ (Draft.freeze_ok Draft.freeze_empty).1,
      Stub.isUsableName_of_unusableName?_eq_none usable⟩
  have other : text ≠ u.moduleText := by
    rintro rfl
    obtain ⟨more, text⟩ := u.exists_moduleText
    exact start (by rw [text]; rfl)
  rw [← names] at way
  have stored := placeable.storeModule_of_wayMade way (by rw [names]; exact fits) found
    (textOfBytes_toUTF8 returns) u.moduleText
  rw [if_neg other] at stored
  obtain ⟨w, written, -⟩ := Destination.exists_writeText_of_stored usable store stored
  exact ⟨w, written⟩

/-- Where the module of the service goes. -/
theorem place_soleService (runtime : RuntimeReference) (source : Path) :
    (soleService runtime source).place ["out"] = ["out", "generated", "AProcessService.py"] := by
  rw [Stub.place, packageNames_default rfl, (isUsableName_soleService runtime source).1]
  decide

/-- The service is written over its module. -/
theorem exists_write_soleService (document : String) (runtime : RuntimeReference) :
    ∃ w, (Destination.directory soleRoot true).write ⟨[], withPackage document⟩
      (soleService runtime solePath) = (.ok w, ⟨[], (withPackage document).put
        ["out", "generated", "AProcessService.py"]
        (.file (soleService runtime solePath).moduleText.toUTF8)⟩) := by
  have place := place_soleService runtime solePath
  have fits : Path.Fits ⟨.root, ["out", "generated"]⟩
      ((soleService runtime solePath).typeName ++ moduleSuffix) := by
    rw [(isUsableName_soleService runtime solePath).1]
    exact ⟨by decide, by decide⟩
  rw [← place]
  refine exists_write_over rfl (unusableName?_soleService runtime solePath)
    (wayMade_withPackage document) fits "" ?_ (by decide) (by decide)
  rw [place]
  rfl

/-- The marker is kept by a run that writes the service over its module. -/
theorem markers_kept_service :
    let s := soleSettings (withPackage soleProcess)
    let store : Store := ⟨[], withPackage soleProcess⟩
    (Draft.writingTo soleRoot).freeze store.files = .ok s ∧
      store.files.OutputLinkFree s.outputDirectory ∧
      ∃ r, ofDocuments s (.directory s.outputDirectory s.packageMarkers) store [solePath] = .ok r ∧
        FilesKept s store.files r := by
  intro s store
  have frozen := Draft.freeze_writingTo soleRoot (withPackage soleProcess)
  have clear := (linkFree_withPackage soleProcess).outputLinkFree s.outputDirectory
  obtain ⟨-, runtime, hr⟩ := Draft.freeze_ok frozen
  obtain ⟨w, written⟩ := exists_write_soleService soleProcess runtime
  obtain ⟨r, added, -⟩ := addDocument_soleProcess (r := .start s.diagnostics store)
    (d := .directory soleRoot true) rfl hr (read_withPackage soleProcess) rfl written
  have done := ofDocuments_singleton added
  exact ⟨frozen, clear, _, done, markers_kept frozen clear done⟩

/-- The text of a document that calls a bean of the name of markers. -/
def initProcess : String :=
  "<definitions xmlns=\"http://www.omg.org/spec/BPMN/20100524/MODEL\" " ++
    "xmlns:a=\"http://activiti.org/bpmn\"><process id=\"A\" isExecutable=\"true\">" ++
    "<serviceTask id=\"t\" a:expression=\"$\x7b__init__.m()\x7d\"/></process></definitions>"

/-- The interface of the bean. -/
def initInterface (source : Path) : Stub :=
  .ofBeanCall Settings.defaultPackage (some source) ⟨"__init__", "m"⟩

/-- The service task that calls the bean. -/
def initTask : ServiceTask := ⟨"t", none, .bound .expression "$\x7b__init__.m()\x7d"⟩

/-- The document as it is read. -/
def initDocument (source : Option Path) : ProcessDocument :=
  ⟨[⟨"A", none, true, [.serviceTask initTask]⟩], [], source⟩

/-- The document is read wherever a file holds it. -/
theorem ofFile_initProcess {p : Path} (held : t.read p = .ok initProcess.toUTF8) :
    ProcessDocument.ofFile t p = .ok (initDocument (some p)) := by
  have read : (ProcessDocument.ofBytes none initProcess.toUTF8).toOption =
      some (initDocument none) := by decide +kernel
  rw [ProcessDocument.ofFile, held]
  exact ProcessDocument.ofBytes_of_toOption read p

/-- It gives the service and the interface. -/
theorem stubsOf_initDocument (package : s.packageName = Settings.defaultPackage)
    {runtime : RuntimeReference} (hr : runtimeOf s.runtimeService = .ok runtime) (source : Path) :
    s.stubsOf (initDocument (some source)) =
      .ok [soleService runtime source, initInterface source] := by
  have task : BeanCall.ofTask? initTask = some ⟨"__init__", "m"⟩ := by decide +kernel
  have calls : [initTask].filterMap BeanCall.ofTask? = [⟨"__init__", "m"⟩] := by
    rw [List.filterMap_cons, task, List.filterMap_nil]
  have stubs : Stub.ofExecutable Settings.defaultPackage runtime (initDocument (some source))
      ⟨"A", none, true, [.serviceTask initTask]⟩ =
        [soleService runtime source, initInterface source] :=
    congrArg (fun calls : List BeanCall => soleService runtime source ::
      calls.map (Stub.ofBeanCall Settings.defaultPackage (some source))) calls
  rw [Settings.stubsOf_eq hr, package]
  exact congrArg (fun l : List Stub => Except.ok (l ++ [])) stubs

/-- The interface has the name of markers, and its names can be used. -/
theorem unusableName?_initInterface (source : Path) :
    (initInterface source).typeName = "__init__" ∧ (initInterface source).unusableName? = none := by
  have name : (initInterface source).typeName = "__init__" := by
    change Text.capitalized "__init__" = _
    decide +kernel
  have type : Text.isUsableName "__init__" = true := by decide +kernel
  have operation : Text.isUsableName "m" = true := by decide +kernel
  refine ⟨name, ?_⟩
  rw [Stub.unusableName?, name, type]
  simp [initInterface, Stub.ofBeanCall, operation]

/-- The interface is another module than the service. -/
theorem target_ne_initInterface (runtime : RuntimeReference) (source : Path) :
    (soleService runtime source).target ≠ (initInterface source).target := by
  intro same
  have names : (soleService runtime source).typeName = (initInterface source).typeName :=
    congrArg Prod.snd same
  rw [(isUsableName_soleService runtime source).1, (unusableName?_initInterface source).1] at names
  exact absurd names (by decide)

/-- Two stubs of new modules are written one after the other. -/
theorem exists_emitAll_pair (policy : CollisionPolicy) {d : Destination} {u v : Stub}
    (new : r.latest = []) (other : u.target ≠ v.target) {w w' : Write} {store store' : Store}
    (first : d.write r.store u = (.ok w, store)) (second : d.write store v = (.ok w', store')) :
    ∃ r', emitAll policy d r [u, v] = ([.written w, .written w'], r') ∧ r'.store = store' := by
  have fresh : Assoc.get? u.target r.latest = none := by rw [new]; rfl
  obtain ⟨log, emitted⟩ := emitAll_singleton_of_new policy fresh first
  have fresh' : Assoc.get? v.target (Assoc.put u.target u r.latest) = none := by
    rw [new]
    simp [Assoc.put, Assoc.get?, other]
  obtain ⟨log', emitted'⟩ := emitAll_singleton_of_new policy
    (r := { r with latest := Assoc.put u.target u r.latest, store := store, log := log }) fresh'
    second
  have both := emitAll_append policy d r [u] [v]
  rw [emitted, emitted'] at both
  exact ⟨_, both, rfl⟩

/-- The interface is written over the marker, after the service. -/
theorem exists_write_initInterface (runtime : RuntimeReference) :
    ∃ w, (Destination.directory soleRoot true).write ⟨[], (withPackage initProcess).put
        ["out", "generated", "AProcessService.py"]
        (.file (soleService runtime solePath).moduleText.toUTF8)⟩ (initInterface solePath) =
      (.ok w, ⟨[], ((withPackage initProcess).put ["out", "generated", "AProcessService.py"]
        (.file (soleService runtime solePath).moduleText.toUTF8)).put
          ["out", "generated", packageMarkerName]
          (.file (initInterface solePath).moduleText.toUTF8)⟩) := by
  obtain ⟨name, usable⟩ := unusableName?_initInterface solePath
  have place :
      (initInterface solePath).place ["out"] = ["out", "generated", packageMarkerName] := by
    rw [Stub.place, packageNames_default rfl, name]
    decide
  have growth : Grows (withPackage initProcess) ((withPackage initProcess).put
      ["out", "generated", "AProcessService.py"]
      (.file (soleService runtime solePath).moduleText.toUTF8)) :=
    grows_put (by simp) fun old found => by
      obtain rfl : old = .file "".toUTF8 := (Option.some.inj found).symm
      exact .text (holdsText_toUTF8 _) (holdsText_toUTF8 _)
  have fits : Path.Fits ⟨.root, ["out", "generated"]⟩
      ((initInterface solePath).typeName ++ moduleSuffix) := by
    rw [name]
    exact ⟨by decide, by decide⟩
  rw [← place]
  refine exists_write_over rfl usable ((wayMade_withPackage initProcess).grows growth) fits
    "CUSTOM = 1\n" ?_ (by decide) (by decide)
  rw [place, entryAt?_put_of_ne _ (by decide)]
  rfl

/-- **A marker is not kept** where a bean has the name of markers: its interface is written over
what was written by hand. -/
theorem not_markers_kept_init :
    let s := soleSettings (withPackage initProcess)
    let store : Store := ⟨[], withPackage initProcess⟩
    let marker := ["out", "generated", packageMarkerName]
    (Draft.writingTo soleRoot).freeze store.files = .ok s ∧ store.files.LinkFree ∧
      store.files.entryAt? marker = some (.file handWritten) ∧
      ∃ r, ofDocuments s (.directory s.outputDirectory s.packageMarkers) store [solePath] = .ok r ∧
        r.store.files.entryAt? marker ≠ some (.file handWritten) := by
  intro s store marker
  have frozen := Draft.freeze_writingTo soleRoot (withPackage initProcess)
  obtain ⟨-, runtime, hr⟩ := Draft.freeze_ok frozen
  obtain ⟨w, written⟩ := exists_write_soleService initProcess runtime
  obtain ⟨w', written'⟩ := exists_write_initInterface runtime
  obtain ⟨log, added⟩ := addDocument_of_stubs (r := .start s.diagnostics store)
    (d := .directory soleRoot true) (ofFile_initProcess (read_withPackage initProcess))
    (stubsOf_initDocument rfl hr solePath)
  obtain ⟨r, emitted, stored⟩ := exists_emitAll_pair s.collisionPolicy
    (r := { Run.start s.diagnostics store with log := log }) rfl (target_ne_initInterface _ _)
    written written'
  have done := added.trans (congrArg (finishDocument solePath _) emitted)
  refine ⟨frozen, linkFree_withPackage _, rfl, _, ofDocuments_singleton done, ?_⟩
  change r.store.files.entryAt? marker ≠ _
  rw [stored, entryAt?_put_self _ (by simp)]
  intro same
  have bytes : (initInterface solePath).moduleText.toUTF8 = handWritten :=
    FileEntry.file.inj (Option.some.inj same)
  have texts : (initInterface solePath).moduleText = "CUSTOM = 1\n" :=
    String.toByteArray_inj.mp bytes
  obtain ⟨more, text⟩ := (initInterface solePath).exists_moduleText
  rw [texts] at text
  cases text

end Run

end ProcessStubs
