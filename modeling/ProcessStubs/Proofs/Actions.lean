import ProcessStubs.Proofs.Growth
import ProcessStubs.Proofs.ModulePath

/-!
# What actions on files do

What creating directories, making them importable and writing files gives, and the tree that is
left, case by case: for a path that leads to a directory, and for a name below such a path that is
free, is taken, or does not fit.

## Main definitions

* `enterDirectory`: one step on the way to a module.
* `storeText`: what is left of writing a module when its directory is there.

## Main results

* `FileAction.ensureDirectory_of_opens`, `FileAction.ensureDirectories_of_opens`: where there is a
  directory, nothing is done.
* `FileTree.Opens.ensureDirectory_free` and the like: what is done for a name below a directory.
* `storeModule_eq`: writing a module is creating its directories and then storing its text.
-/

namespace ProcessStubs

open FileTree

/-! ### Actions one after the other -/

section

variable {ε ε' α β : Type} {a : ExceptT ε (StateM FileTree) α} {t t' : FileTree}

/-- What follows an action that succeeded goes on with its result and the tree it has left. -/
theorem run_bind_of_ok {x : α} {f : α → ExceptT ε (StateM FileTree) β}
    (h : a.run.run t = (.ok x, t')) : (a >>= f).run.run t = (f x).run.run t' := by
  rw [ExceptT.run_bind, StateT.run_bind, h]
  rfl

/-- Nothing follows an action that failed. -/
theorem run_bind_of_error {e : ε} {f : α → ExceptT ε (StateM FileTree) β}
    (h : a.run.run t = (.error e, t')) : (a >>= f).run.run t = (.error e, t') := by
  rw [ExceptT.run_bind, StateT.run_bind, h]
  rfl

/-- Where two actions succeed one after the other, the first one has. -/
theorem exists_of_run_bind_ok {y : β} {t'' : FileTree} {f : α → ExceptT ε (StateM FileTree) β}
    (h : (a >>= f).run.run t = (.ok y, t'')) :
    ∃ x t', a.run.run t = (.ok x, t') ∧ (f x).run.run t' = (.ok y, t'') := by
  rcases first : a.run.run t with ⟨e | x, t'⟩
  · rw [run_bind_of_error first] at h
    cases h
  · exact ⟨x, t', rfl, run_bind_of_ok first ▸ h⟩

/-- Where nothing is to be caught, nothing else is done. -/
theorem run_tryCatch_of_ok {x : α} {handle : ε → ExceptT ε (StateM FileTree) α}
    (h : a.run.run t = (.ok x, t')) :
    (MonadExcept.tryCatch a handle).run.run t = (.ok x, t') := by
  simp only [MonadExcept.tryCatch, tryCatchThe, MonadExceptOf.tryCatch, ExceptT.tryCatch,
    ExceptT.run_mk, StateT.run_bind]
  rw [show StateT.run a t = a.run.run t from rfl, h]
  rfl

/-- Where a fault is caught, what is done instead starts with the tree that is left. -/
theorem run_tryCatch_of_error {e : ε} {handle : ε → ExceptT ε (StateM FileTree) α}
    (h : a.run.run t = (.error e, t')) :
    (MonadExcept.tryCatch a handle).run.run t = (handle e).run.run t' := by
  simp only [MonadExcept.tryCatch, tryCatchThe, MonadExceptOf.tryCatch, ExceptT.tryCatch,
    ExceptT.run_mk, StateT.run_bind]
  rw [show StateT.run a t = a.run.run t from rfl, h]
  rfl

/-- Telling faults in other words changes no files. -/
theorem run_adapt {result : Except ε α} {f : ε → ε'} (h : a.run.run t = (result, t')) :
    (ExceptT.adapt f a).run.run t = (result.mapError f, t') := by
  change StateT.run (Except.mapError f <$> a.run) t = _
  rw [StateT.run_map, h]
  rfl

/-- An action whose faults are told in other words succeeds exactly as it does without. -/
theorem run_of_run_adapt_ok {x : α} {f : ε → ε'}
    (h : (ExceptT.adapt f a).run.run t = (.ok x, t')) : a.run.run t = (.ok x, t') := by
  rcases first : a.run.run t with ⟨result, t''⟩
  rw [run_adapt first] at h
  obtain ⟨told, rfl⟩ := Prod.mk.inj h
  rw [mapError_eq_ok_iff.mp told]

end

/-! ### Directories -/

variable {t : FileTree} {p : Path} {l : Location} {name : String}

namespace FileAction

/-- A directory is created at a free place. -/
theorem createDirectory_of_free (h : t.locate .itself p = .ok (.free l)) :
    (createDirectory p).run.run t = (.ok (), t.put l .directory) := by
  have asked : (ask (·.locate .itself p)).run.run t = (.ok (.free l), t) := by rw [← h]; rfl
  rw [createDirectory, run_bind_of_ok asked]
  rfl

/-- No directory is created where there is something. -/
theorem createDirectory_of_taken {e : FileEntry} (h : t.locate .itself p = .ok (.taken l e)) :
    (createDirectory p).run.run t = (.error ⟨.exists, p⟩, t) := by
  have asked : (ask (·.locate .itself p)).run.run t = (.ok (.taken l e), t) := by rw [← h]; rfl
  rw [createDirectory, run_bind_of_ok asked]
  rfl

/-- No directory is created where the way is blocked. -/
theorem createDirectory_of_error {f : FileFault} (h : t.locate .itself p = .error f) :
    (createDirectory p).run.run t = (.error f, t) := by
  have asked : (ask (·.locate .itself p)).run.run t = (.error f, t) := by rw [← h]; rfl
  rw [createDirectory, run_bind_of_error asked]

/-- Seeing to it that there is a directory creates it at a free place. -/
theorem ensureDirectory_of_free (h : t.locate .itself p = .ok (.free l)) :
    (ensureDirectory p).run.run t = (.ok (), t.put l .directory) :=
  run_tryCatch_of_ok (createDirectory_of_free h)

/-- Where a directory cannot be created, it is asked whether there is one. -/
theorem ensureDirectory_of_fault {f : FileFault}
    (failed : (createDirectory p).run.run t = (.error f, t)) :
    (ensureDirectory p).run.run t =
      ((t.isDirectory p).bind fun b =>
        if f.problem ≠ .noEntry ∧ b = true then .ok () else .error f, t) := by
  rw [ensureDirectory, run_tryCatch_of_error failed]
  cases answer : t.isDirectory p with
  | error f' =>
      have asked : (ask (·.isDirectory p)).run.run t = (.error f', t) := by rw [← answer]; rfl
      rw [run_bind_of_error asked]
      rfl
  | ok b =>
      have asked : (ask (·.isDirectory p)).run.run t = (.ok b, t) := by rw [← answer]; rfl
      rw [run_bind_of_ok asked]
      simp only [Except.bind]
      split <;> rfl

/-- Where it is left open what a path leads to, no directory is seen to. -/
theorem ensureDirectory_of_leavesOpen {f : FileFault} (itself : t.locate .itself p = .error f)
    (target : t.locate .target p = .error f) (leavesOpen : f.problem.leavesOpen = true) :
    (ensureDirectory p).run.run t = (.error f, t) := by
  rw [ensureDirectory_of_fault (createDirectory_of_error itself), isDirectory,
    lookup_eq_error_iff.mpr ⟨target, leavesOpen⟩]
  rfl

/-- **Where there is a directory**, nothing is done. -/
theorem ensureDirectory_of_folder (h : t.Folder p l) :
    (ensureDirectory p).run.run t = (.ok (), t) := by
  obtain ⟨e, located, folder⟩ :
      ∃ e, t.locate .target p = .ok (.taken l e) ∧ e.isDirectory = true := by
    rcases h with opens | shuts
    · exact ⟨_, opens, rfl⟩
    · exact ⟨_, shuts, rfl⟩
  obtain ⟨l', e', walked⟩ := (walks_of_locate located).itself_of_target
  have there := locate_of_walks (isPossible_of_locate located) walked
  have answer : t.isDirectory p = .ok true := by
    rw [isDirectory, lookup, located]
    exact congrArg Except.ok folder
  rw [ensureDirectory_of_fault (createDirectory_of_taken there), answer]
  rfl

/-- Nothing is done either for the directories above. -/
theorem ensureDirectories_of_folder (h : t.Folder p l) :
    (ensureDirectories p).run.run t = (.ok (), t) := by
  rw [ensureDirectories]
  exact run_tryCatch_of_ok (ensureDirectory_of_folder h)

/-- Nothing is done for a directory that can be entered. -/
theorem ensureDirectory_of_opens (h : t.Opens p l) :
    (ensureDirectory p).run.run t = (.ok (), t) :=
  ensureDirectory_of_folder (.inl h)

/-- Nothing is done either for the directories above one that can be entered. -/
theorem ensureDirectories_of_opens (h : t.Opens p l) :
    (ensureDirectories p).run.run t = (.ok (), t) :=
  ensureDirectories_of_folder (.inl h)

end FileAction

open FileAction

/-! ### Names below a directory -/

/-- Where it is left open what the path of a marker leads to, none is written. -/
theorem ensureMarker_of_leavesOpen {f : FileFault}
    (located : t.locate .target (p.child packageMarkerName) = .error f)
    (leavesOpen : f.problem.leavesOpen = true) :
    (ensureMarker p).run.run t = (.error f, t) := by
  have answer : t.exists? (p.child packageMarkerName) = .error f := by
    rw [exists?, lookup_eq_error_iff.mpr ⟨located, leavesOpen⟩]
    rfl
  have asked : (ask (·.exists? (p.child packageMarkerName))).run.run t = (.error f, t) := by
    rw [← answer]
    rfl
  rw [ensureMarker, run_bind_of_error asked]

/-- The name of markers is one of an entry. -/
theorem isEntryName_marker : IsEntryName packageMarkerName :=
  ⟨⟨by decide, by decide⟩, by decide⟩

/-- Something can be at the path of a marker where something can be at that of its directory. -/
theorem hasZero_marker (h : p.hasZero = false) : (p.child packageMarkerName).hasZero = false := by
  rw [Path.hasZero_eq_false_iff] at h ⊢
  exact List.forall_mem_append.mpr ⟨h, by simp [packageMarkerName]⟩

namespace FileTree.Opens

variable {e : FileEntry}

/-- A directory of a free name is created. -/
theorem ensureDirectory_free (h : t.Opens p l) (fits : p.Fits name)
    (free : t.entryAt? (l ++ [name]) = none) :
    (ensureDirectory (p.child name)).run.run t = (.ok (), t.put (l ++ [name]) .directory) :=
  ensureDirectory_of_free (h.locate_free .itself fits free)

/-- A directory of a taken name is there, or cannot be created. -/
theorem ensureDirectory_taken (h : t.Opens p l) (fits : p.Fits name)
    (found : t.entryAt? (l ++ [name]) = some e) (ends : IsEnd e) :
    (ensureDirectory (p.child name)).run.run t =
      (if e.isDirectory = true then .ok () else .error ⟨.exists, p.child name⟩, t) := by
  have located (aim : Aim) := h.locate_taken aim fits found ends
  have answer : t.isDirectory (p.child name) = .ok e.isDirectory := by
    rw [isDirectory, lookup, located, ok_bind]
    rfl
  rw [ensureDirectory_of_fault (createDirectory_of_taken (located .itself)), answer]
  simp [Except.bind]

/-- A directory of a name that does not fit cannot be created. -/
theorem ensureDirectory_long (h : t.Opens p l) (entry : IsEntryName name)
    (nonzero : (p.child name).hasZero = false) (long : ¬ p.Fits name) :
    (ensureDirectory (p.child name)).run.run t = (.error ⟨.nameTooLong, p.child name⟩, t) :=
  ensureDirectory_of_leavesOpen (h.locate_long .itself entry nonzero long)
    (h.locate_long .target entry nonzero long) rfl

/-- A marker of a free name is written. -/
theorem ensureMarker_free (h : t.Opens p l) (fits : p.Fits packageMarkerName)
    (free : t.entryAt? (l ++ [packageMarkerName]) = none) :
    (ensureMarker p).run.run t =
      (.ok (), t.put (l ++ [packageMarkerName]) (.file packageMarkerText.toUTF8)) := by
  have located (aim : Aim) := h.locate_free aim fits free
  have answer : t.exists? (p.child packageMarkerName) = .ok false := by
    rw [exists?, lookup, located]
    rfl
  have asked : (ask (·.exists? (p.child packageMarkerName))).run.run t = (.ok false, t) := by
    rw [← answer]
    rfl
  have asked' : (ask (·.locate .file (p.child packageMarkerName))).run.run t =
      (.ok (.free (l ++ [packageMarkerName])), t) := by
    rw [← located]
    rfl
  rw [ensureMarker, run_bind_of_ok asked, if_pos rfl, writeFile, run_bind_of_ok asked']
  rfl

/-- A marker that is there is left as it is. -/
theorem ensureMarker_taken (h : t.Opens p l) (fits : p.Fits packageMarkerName)
    (found : t.entryAt? (l ++ [packageMarkerName]) = some e) (ends : IsEnd e) :
    (ensureMarker p).run.run t = (.ok (), t) := by
  have located := h.locate_taken .target fits found ends
  have answer : t.exists? (p.child packageMarkerName) = .ok true := by
    rw [exists?, lookup, located]
    rfl
  have asked : (ask (·.exists? (p.child packageMarkerName))).run.run t = (.ok true, t) := by
    rw [← answer]
    rfl
  rw [ensureMarker, run_bind_of_ok asked]
  rfl

/-- A marker that does not fit cannot be asked for. -/
theorem ensureMarker_long (h : t.Opens p l) (long : ¬ p.Fits packageMarkerName) :
    (ensureMarker p).run.run t = (.error ⟨.nameTooLong, p.child packageMarkerName⟩, t) :=
  ensureMarker_of_leavesOpen
    (h.locate_long .target isEntryName_marker (hasZero_marker h.hasZero_eq_false) long) rfl

end FileTree.Opens

namespace FileTree.Shuts

/-- No directory is seen to below a closed one. -/
theorem ensureDirectory_child (h : t.Shuts p l) (named : name ≠ "")
    (nonzero : (p.child name).hasZero = false) :
    (ensureDirectory (p.child name)).run.run t = (.error (p.child name).refusal, t) :=
  ensureDirectory_of_leavesOpen (h.locate_child .itself named nonzero)
    (h.locate_child .target named nonzero) (Path.leavesOpen_refusal _)

/-- A closed directory is not made importable. -/
theorem ensureMarker_error (h : t.Shuts p l) :
    (ensureMarker p).run.run t = (.error (p.child packageMarkerName).refusal, t) :=
  ensureMarker_of_leavesOpen
    (h.locate_child .target (by decide) (hasZero_marker (isPossible_of_locate h).nonzero))
    (Path.leavesOpen_refusal _)

end FileTree.Shuts

/-! ### Modules -/

/-- **One step on the way to a module**: a directory below a path, which is made importable if
`packageMarkers` holds. -/
def enterDirectory (packageMarkers : Bool) (above : Path) (name : String) : FileAction Path := do
  ensureDirectory (above.child name)
  if packageMarkers then ensureMarker (above.child name)
  return above.child name

/-- Usable names are entered one after the other. -/
theorem foldlM_enterDirectory {names : List String}
    (usable : ∀ name ∈ names, Text.isUsableName name = true) (packageMarkers : Bool)
    (above : Path) :
    (names.foldlM (fun above part => do
      let directory := above / Path.ofString part
      ensureDirectory directory
      if packageMarkers then ensureMarker directory
      return directory) above : FileAction Path) =
      names.foldlM (enterDirectory packageMarkers) above := by
  induction names generalizing above with
  | nil => rfl
  | cons name rest ih =>
      obtain ⟨hname, hrest⟩ := List.forall_mem_cons.mp usable
      have child : above / Path.ofString name = above.child name := by
        rw [Path.ofString_of_isUsableName hname]
        rfl
      simp only [List.foldlM_cons, enterDirectory, child, ih hrest]

/-- The directories on the way to a module are those of its package, entered one after the other. -/
theorem ensurePackage_eq {u : Stub} (package : isPackageName u.packageName = true)
    (type : Text.isUsableName u.typeName = true) (root : Path) (packageMarkers : Bool) :
    ensurePackage root packageMarkers (u.relativePath moduleSuffix) = (do
      ensureDirectories root
      let _ ← (Text.split '.' u.packageName).foldlM (enterDirectory packageMarkers) root) := by
  have parts : (u.relativePath moduleSuffix).parent.components = Text.split '.' u.packageName := by
    rw [u.relativePath_of_isPackageName package type]
    simp [Path.parent, Path.components, Path.isAbsolute]
  rw [ensurePackage, parts, foldlM_enterDirectory fun _ => isUsableName_of_mem_package package]

/-- **What is left of writing a module** when its directory is there: its text is stored at its
path, unless it is there already. -/
def storeText (path : Path) (text : String) : WriteAction WriteStatus := do
  let current ← ExceptT.mk fun t => ((t.text? path).mapError .file, t)
  if current = some text then return .unchanged
  ExceptT.adapt (.file ∘ .unusable) (writeFile path text.toUTF8)
  return .written

/-- **Writing a module** is creating its directories and then storing its text. -/
theorem storeModule_eq (root : Path) (packageMarkers : Bool) (module : Path) (text : String) :
    storeModule root packageMarkers module text = (do
      ExceptT.adapt (.file ∘ .unusable) (ensurePackage root packageMarkers module)
      storeText (root / module) text) := rfl

/-- A stub whose module is written below a directory. -/
theorem Destination.put_of_ok {root : Path} {packageMarkers : Bool} (store : Store) {module : Path}
    {text : String} {status : WriteStatus} {files : FileTree}
    (stored : (storeModule root packageMarkers module text).run.run store.files =
      (.ok status, files)) (u : Stub) :
    ∃ w : Write, w.stub = u ∧ w.path = root / module ∧ w.status = status ∧
      (Destination.directory root packageMarkers).put store u module text =
        (.ok w, { store with files := files }) := by
  have stored : (storeModule root packageMarkers module text).run store.files =
      (.ok status, files) := stored
  rw [Destination.put, stored]
  cases status <;> exact ⟨_, rfl, rfl, rfl, rfl⟩

/-- A stub whose module cannot be written below a directory. -/
theorem Destination.put_of_error {root : Path} {packageMarkers : Bool} (store : Store)
    {module : Path} {text : String} {problem : WriteProblem} {files : FileTree}
    (stored : (storeModule root packageMarkers module text).run.run store.files =
      (.error problem, files)) (u : Stub) :
    (Destination.directory root packageMarkers).put store u module text =
      (.error problem, { store with files := files }) := by
  have stored : (storeModule root packageMarkers module text).run store.files =
      (.error problem, files) := stored
  rw [Destination.put, stored]

/-- A stub that was written below a directory can be used, and its module was written. -/
theorem Destination.exists_of_writeText_ok {root : Path} {packageMarkers : Bool} {store : Store}
    {u : Stub} {text : String} {w : Write}
    (h : ((Destination.directory root packageMarkers).writeText store u text).1 = .ok w) :
    u.unusableName? = none ∧ ∃ status files,
      (storeModule root packageMarkers (u.relativePath moduleSuffix) text).run.run store.files =
        (.ok status, files) := by
  rw [writeText] at h
  split at h
  · cases h
  · next usable =>
      refine ⟨usable, ?_⟩
      rcases stored : (storeModule root packageMarkers (u.relativePath moduleSuffix)
        text).run.run store.files with ⟨problem | status, files⟩
      · rw [put_of_error store stored] at h
        cases h
      · exact ⟨status, files, rfl⟩

/-- A text is stored where the one that is there, if there is any, is another one. -/
theorem storeText_of_other {path : Path} {text : String} {current : Option String}
    (read : t.text? path = .ok current) (other : current ≠ some text)
    {result : Except FileFault Unit}
    {t' : FileTree} (stored : (writeFile path text.toUTF8).run.run t = (result, t')) :
    (storeText path text).run.run t =
      ((result.map fun _ => WriteStatus.written).mapError (.file ∘ .unusable), t') := by
  have asked : (ExceptT.run (m := StateM FileTree) (ExceptT.mk fun t =>
      ((t.text? path).mapError WriteProblem.file, t))).run t = (.ok current, t) := by
    change ((t.text? path).mapError WriteProblem.file, t) = _
    rw [read]
    rfl
  rw [storeText, run_bind_of_ok asked, if_neg other]
  cases result with
  | error f => exact run_bind_of_error (run_adapt stored)
  | ok x => exact run_bind_of_ok (run_adapt stored)

/-- No text is stored where what is there cannot be read. -/
theorem storeText_of_unread {path : Path} {f : TextFault} (read : t.text? path = .error f)
    (text : String) : (storeText path text).run.run t = (.error (.file f), t) := by
  have asked : (ExceptT.run (m := StateM FileTree) (ExceptT.mk fun t =>
      ((t.text? path).mapError WriteProblem.file, t))).run t = (.error (.file f), t) := by
    change ((t.text? path).mapError WriteProblem.file, t) = _
    rw [read]
    rfl
  rw [storeText, run_bind_of_error asked]

/-- No text is stored where it is there already. -/
theorem storeText_of_same {path : Path} {text : String} (read : t.text? path = .ok (some text)) :
    (storeText path text).run.run t = (.ok .unchanged, t) := by
  have asked : (ExceptT.run (m := StateM FileTree) (ExceptT.mk fun t =>
      ((t.text? path).mapError WriteProblem.file, t))).run t = (.ok (some text), t) := by
    change ((t.text? path).mapError WriteProblem.file, t) = _
    rw [read]
    rfl
  rw [storeText, run_bind_of_ok asked, if_pos rfl]
  rfl

/-- Where it is left open what a path leads to, no text is read. -/
theorem text?_of_leavesOpen {f : FileFault} (located : t.locate .target p = .error f)
    (leavesOpen : f.problem.leavesOpen = true) : t.text? p = .error (.unusable f) := by
  rw [text?, isFile, lookup_eq_error_iff.mpr ⟨located, leavesOpen⟩]
  rfl

namespace FileTree.Opens

variable {text : String} {content : ByteArray}

/-- A free name has no text. -/
theorem text?_free (h : t.Opens p l) (fits : p.Fits name)
    (free : t.entryAt? (l ++ [name]) = none) : t.text? (p.child name) = .ok none := by
  have located := h.locate_free .target fits free
  rw [text?, isFile, lookup, located]
  rfl

/-- A file has the text that its bytes hold, if they hold one. -/
theorem text?_file (h : t.Opens p l) (fits : p.Fits name)
    (found : t.entryAt? (l ++ [name]) = some (.file content)) :
    t.text? (p.child name) = (textOfBytes content).map some := by
  have located := h.locate_taken .target fits found nofun
  rw [text?, isFile, lookup, readText, read, located]
  change (textOfBytes content >>= fun s => .ok (some s)) = _
  cases textOfBytes content <;> rfl

/-- A directory has no text. -/
theorem text?_directory (h : t.Opens p l) (fits : p.Fits name) {e : FileEntry}
    (found : t.entryAt? (l ++ [name]) = some e) (folder : e.isDirectory = true) :
    t.text? (p.child name) = .ok none := by
  have located := h.locate_taken .target fits found (isEnd_of_isDirectory folder)
  rw [text?, isFile, lookup, located]
  rcases FileEntry.isDirectory_iff.mp folder with rfl | rfl <;> rfl

/-- A sealed file cannot be asked for its text. -/
theorem text?_sealed (h : t.Opens p l) (fits : p.Fits name)
    (found : t.entryAt? (l ++ [name]) = some .sealed) :
    t.text? (p.child name) = .error (.unusable ⟨.denied, p.child name⟩) := by
  have located := h.locate_taken .target fits found nofun
  rw [text?, isFile, lookup, readText, read, located]
  rfl

/-- A name that does not fit cannot be asked for a text. -/
theorem text?_long (h : t.Opens p l) (entry : IsEntryName name)
    (nonzero : (p.child name).hasZero = false) (long : ¬ p.Fits name) :
    t.text? (p.child name) = .error (.unusable ⟨.nameTooLong, p.child name⟩) :=
  text?_of_leavesOpen (h.locate_long .target entry nonzero long) rfl

/-- A file of a free name is written. -/
theorem writeFile_free (h : t.Opens p l) (fits : p.Fits name)
    (free : t.entryAt? (l ++ [name]) = none) (content : ByteArray) :
    (writeFile (p.child name) content).run.run t =
      (.ok (), t.put (l ++ [name]) (.file content)) := by
  have asked : (ask (·.locate .file (p.child name))).run.run t =
      (.ok (.free (l ++ [name])), t) := by
    rw [← h.locate_free .file fits free]
    rfl
  rw [writeFile, run_bind_of_ok asked]
  rfl

/-- A file is written over. -/
theorem writeFile_file (h : t.Opens p l) (fits : p.Fits name) {old : ByteArray}
    (found : t.entryAt? (l ++ [name]) = some (.file old)) (content : ByteArray) :
    (writeFile (p.child name) content).run.run t =
      (.ok (), t.put (l ++ [name]) (.file content)) := by
  have asked : (ask (·.locate .file (p.child name))).run.run t =
      (.ok (.taken (l ++ [name]) (.file old)), t) := by
    rw [← h.locate_taken .file fits found nofun]
    rfl
  rw [writeFile, run_bind_of_ok asked]
  rfl

/-- A directory is not written over. -/
theorem writeFile_directory (h : t.Opens p l) (fits : p.Fits name) {e : FileEntry}
    (found : t.entryAt? (l ++ [name]) = some e) (folder : e.isDirectory = true)
    (content : ByteArray) :
    (writeFile (p.child name) content).run.run t = (.error ⟨.isDirectory, p.child name⟩, t) := by
  have asked : (ask (·.locate .file (p.child name))).run.run t =
      (.ok (.taken (l ++ [name]) e), t) := by
    rw [← h.locate_taken .file fits found (isEnd_of_isDirectory folder)]
    rfl
  rw [writeFile, run_bind_of_ok asked]
  rcases FileEntry.isDirectory_iff.mp folder with rfl | rfl <;> rfl

end FileTree.Opens

/-- No text is stored below a closed directory. -/
theorem FileTree.Shuts.storeText_child (h : t.Shuts p l) (named : name ≠ "")
    (nonzero : (p.child name).hasZero = false) (text : String) :
    (storeText (p.child name) text).run.run t =
      (.error (.file (.unusable (p.child name).refusal)), t) :=
  storeText_of_unread (text?_of_leavesOpen (h.locate_child .target named nonzero)
    (Path.leavesOpen_refusal _)) text

end ProcessStubs
