import ProcessStubs.Proofs.Accounts
import ProcessStubs.Proofs.ModulePath

/-!
# Which faults an action can have

The faults of an action are traced through its steps: an action fails only in ways that are allowed
if each of its steps does. What is shown so is that writing a module makes no mistake unless the
directory it is written below is one: where a path does not hold the character zero, files can get
in the way, and that is a problem of the module alone.

## Main definitions

* `FailsOnly`: all faults of an action are allowed.

## Main results

* `FailsOnly.bind`, `FailsOnly.tryCatch`: how steps are put together.
* `FileAction.ensureDirectories_failsOnly`, `FileAction.writeFile_failsOnly`: creating and writing.
* `storeModule_failsOnly`: writing a module.
-/

namespace ProcessStubs

/-- **All faults of an action are allowed**, whatever the files are. -/
def FailsOnly {ε α : Type} (allowed : ε → Prop) (a : ExceptT ε (StateM FileTree) α) : Prop :=
  ∀ t e, (a.run.run t).1 = .error e → allowed e

section

variable {ε ε' α β : Type} {allowed : ε → Prop}

/-- An action that only gives a result has no faults. -/
theorem failsOnly_pure (a : α) : FailsOnly allowed (pure a) := nofun

/-- A change of the files has no faults. -/
theorem failsOnly_modify (change : FileTree → FileTree) :
    FailsOnly allowed (modify change : ExceptT ε (StateM FileTree) PUnit) := nofun

/-- A fault that is thrown has to be allowed. -/
theorem failsOnly_throw {e : ε} (h : allowed e) :
    FailsOnly allowed (throw e : ExceptT ε (StateM FileTree) α) := by
  intro t e' he
  cases he
  exact h

namespace FailsOnly

/-- What follows a step has to fail in allowed ways, too. -/
theorem bind {a : ExceptT ε (StateM FileTree) α} {f : α → ExceptT ε (StateM FileTree) β}
    (ha : FailsOnly allowed a) (hf : ∀ x, FailsOnly allowed (f x)) :
    FailsOnly allowed (a >>= f) := by
  intro t e he
  simp only [ExceptT.run_bind, StateT.run_bind] at he
  rcases step : a.run.run t with ⟨result, t'⟩
  rw [step] at he
  cases result with
  | ok x => exact hf x t' e he
  | error e' =>
      cases he
      exact ha t e (congrArg Prod.fst step)

/-- Where a fault is caught, what is done instead has to fail in allowed ways. -/
theorem tryCatch {a : ExceptT ε (StateM FileTree) α} {handle : ε → ExceptT ε (StateM FileTree) α}
    (ha : FailsOnly allowed a) (hh : ∀ e, allowed e → FailsOnly allowed (handle e)) :
    FailsOnly allowed (MonadExcept.tryCatch a handle) := by
  intro t e he
  simp only [MonadExcept.tryCatch, tryCatchThe, MonadExceptOf.tryCatch, ExceptT.tryCatch,
    ExceptT.run_mk, StateT.run_bind] at he
  rcases step : a.run.run t with ⟨result, t'⟩
  rw [show StateT.run a t = a.run.run t from rfl, step] at he
  cases result with
  | ok x => cases he
  | error e' => exact hh e' (ha t e' (congrArg Prod.fst step)) t' e he

/-- Faults that are told in other words have to be allowed in those. -/
theorem adapt {allowed' : ε' → Prop} {a : ExceptT ε (StateM FileTree) α} {f : ε → ε'}
    (ha : FailsOnly allowed a) (hf : ∀ e, allowed e → allowed' (f e)) :
    FailsOnly allowed' (ExceptT.adapt f a) := by
  intro t e he
  rcases step : a.run.run t with ⟨result, t'⟩
  have told : ((ExceptT.adapt f a).run.run t).1 = result.mapError f := by
    change (StateT.run (Except.mapError f <$> a.run) t).1 = _
    rw [StateT.run_map]
    exact congrArg (fun x => Except.mapError f x.1) step
  rw [told] at he
  obtain ⟨e', rfl, rfl⟩ := mapError_eq_error_iff.mp he
  exact hf e' (ha t e' (congrArg Prod.fst step))

end FailsOnly

end

namespace FileAction

/-- A question fails as the answer does. -/
theorem failsOnly_ask {α : Type} {allowed : FileFault → Prop}
    {question : FileTree → Except FileFault α}
    (h : ∀ t f, question t = .error f → allowed f) : FailsOnly allowed (ask question) := h

/-- A fault that is no mistake: files are in the way, or missing. -/
def NoMistake (f : FileFault) : Prop := f.isMistake = false

variable {p : Path}

/-- Locating where something can be is no mistake. -/
theorem noMistake_of_locate (possible : p.hasZero = false) {t : FileTree} {aim : Aim}
    {f : FileFault} (h : t.locate aim p = .error f) : NoMistake f :=
  (FileTree.locate_isMistake h).1.trans possible

/-- Looking up what can be there is no mistake. -/
theorem noMistake_of_lookup (possible : p.hasZero = false) {t : FileTree} {f : FileFault}
    (h : t.lookup p = .error f) : NoMistake f := by
  rw [FileTree.lookup] at h
  split at h
  · cases h
  · cases h
  · next f' located =>
      split at h
      · cases h
        exact noMistake_of_locate possible located
      · cases h

/-- Creating a directory where one can be is no mistake. -/
theorem createDirectory_failsOnly (possible : p.hasZero = false) :
    FailsOnly NoMistake (createDirectory p) := by
  refine (failsOnly_ask fun t f => noMistake_of_locate possible).bind ?_
  rintro (_ | _)
  · exact failsOnly_throw rfl
  · exact failsOnly_modify _

/-- Asking whether there is a directory where one can be is no mistake. -/
theorem noMistake_of_isDirectory (possible : p.hasZero = false) {t : FileTree} {f : FileFault}
    (h : t.isDirectory p = .error f) : NoMistake f :=
  noMistake_of_lookup possible (bind_pure_eq_error_iff.mp h)

/-- Asking whether there is anything is no mistake where something can be. -/
theorem noMistake_of_exists? (possible : p.hasZero = false) {t : FileTree} {f : FileFault}
    (h : t.exists? p = .error f) : NoMistake f :=
  noMistake_of_lookup possible (bind_pure_eq_error_iff.mp h)

/-- Asking whether there is a file where one can be is no mistake. -/
theorem noMistake_of_isFile (possible : p.hasZero = false) {t : FileTree} {f : FileFault}
    (h : t.isFile p = .error f) : NoMistake f :=
  noMistake_of_lookup possible (bind_pure_eq_error_iff.mp h)

/-- Seeing to it that there is a directory is no mistake where one can be. -/
theorem ensureDirectory_failsOnly (possible : p.hasZero = false) :
    FailsOnly NoMistake (ensureDirectory p) := by
  rw [ensureDirectory]
  refine (createDirectory_failsOnly possible).tryCatch ?_
  intro f hf
  refine (failsOnly_ask fun t f => noMistake_of_isDirectory possible).bind ?_
  intro is_directory
  split
  · exact failsOnly_pure ()
  · exact failsOnly_throw hf

/-- Something can be above a path where something can be. -/
theorem hasZero_parent (possible : p.hasZero = false) : p.parent.hasZero = false := by
  rw [Path.hasZero_eq_false_iff] at possible ⊢
  exact fun name hname => possible name (List.dropLast_subset _ hname)

/-- Something can be at a path that leads along two such paths. -/
theorem hasZero_join {q : Path} (hp : p.hasZero = false) (hq : q.hasZero = false) :
    (p / q).hasZero = false := by
  change (p.join q).hasZero = false
  rw [Path.join]
  split
  · exact hq
  · rw [Path.hasZero_eq_false_iff] at hp hq ⊢
    exact List.forall_mem_append.mpr ⟨hp, hq⟩

/-- Seeing to it that there is a directory, and those above it, is no mistake where one can be. -/
theorem ensureDirectories_failsOnly (possible : p.hasZero = false) :
    FailsOnly NoMistake (ensureDirectories p) := by
  -- The directories above have fewer names.
  induction hlength : p.parts.length using Nat.strongRecOn generalizing p with
  | ind length fewer =>
      rw [ensureDirectories]
      refine (ensureDirectory_failsOnly possible).tryCatch ?_
      intro f hf
      dsimp only
      split
      · exact failsOnly_throw hf
      · next missing =>
          have names := List.length_pos_iff.mpr (not_or.mp missing).1
          have above : p.parent.parts.length < length := by
            rw [Path.parent, List.length_dropLast]
            omega
          refine (fewer _ above (hasZero_parent possible) rfl).bind ?_
          intro _
          exact ensureDirectory_failsOnly possible

/-- Writing a file where one can be is no mistake. -/
theorem writeFile_failsOnly (possible : p.hasZero = false) (content : ByteArray) :
    FailsOnly NoMistake (writeFile p content) := by
  refine (failsOnly_ask fun t f => noMistake_of_locate possible).bind ?_
  rintro (⟨l, e⟩ | l)
  · cases e with
    | file old => exact failsOnly_modify _
    | _ => exact failsOnly_throw rfl
  · exact failsOnly_modify _

/-- Making a directory importable is no mistake where one can be. -/
theorem ensureMarker_failsOnly (possible : p.hasZero = false) :
    FailsOnly NoMistake (ensureMarker p) := by
  have marker : (p.child packageMarkerName).hasZero = false := by
    rw [Path.hasZero_eq_false_iff] at possible ⊢
    exact List.forall_mem_append.mpr ⟨possible, by simp [packageMarkerName]⟩
  refine (failsOnly_ask fun t f => noMistake_of_exists? marker).bind ?_
  intro there
  split
  · exact writeFile_failsOnly marker _
  · exact failsOnly_pure ()

/-- Creating the directories on the way to a module is no mistake where the module can be. -/
theorem ensurePackage_failsOnly {root module : Path} (possible : root.hasZero = false)
    (names : ∀ part ∈ module.parent.components, (Path.ofString part).hasZero = false)
    (packageMarkers : Bool) : FailsOnly NoMistake (ensurePackage root packageMarkers module) := by
  rw [ensurePackage]
  refine (ensureDirectories_failsOnly possible).bind ?_
  intro _
  refine FailsOnly.bind ?_ fun _ => failsOnly_pure ()
  generalize module.parent.components = parts at names
  induction parts generalizing root with
  | nil => exact failsOnly_pure root
  | cons part parts ih =>
      obtain ⟨hpart, hparts⟩ := List.forall_mem_cons.mp names
      have below : (root / Path.ofString part).hasZero = false := hasZero_join possible hpart
      have directory := ensureDirectory_failsOnly below
      have rest := ih below hparts
      rw [List.foldlM_cons]
      cases packageMarkers with
      | false =>
          simp only [Bool.false_eq_true, if_false, bind_assoc, pure_bind]
          exact directory.bind fun _ => rest
      | true =>
          simp only [if_true, bind_assoc, pure_bind]
          exact directory.bind fun _ => (ensureMarker_failsOnly below).bind fun _ => rest

end FileAction

/-! ### Modules -/

open FileAction

/-- A problem that is of a stub alone and ends no run. -/
def WriteProblem.IsOwn (problem : WriteProblem) : Prop := problem.mistake? = none

/-- A file that is in the way, or missing, is a problem of the stub alone. -/
theorem isOwn_of_noMistake {f : FileFault} (h : NoMistake f) :
    (WriteProblem.file (.unusable f)).IsOwn := by
  rw [WriteProblem.IsOwn, WriteProblem.mistake?, show f.isMistake = false from h]
  rfl

/-- That a text cannot be read where something can be is a problem of the stub alone. -/
theorem isOwn_of_text? {p : Path} (possible : p.hasZero = false) {t : FileTree} {fault : TextFault}
    (h : t.text? p = .error fault) : (WriteProblem.file fault).IsOwn := by
  rcases bind_eq_error_iff.mp h with asked | ⟨is_file, -, read⟩
  · obtain ⟨f, hf, rfl⟩ := mapError_eq_error_iff.mp asked
    exact isOwn_of_noMistake (noMistake_of_isFile possible hf)
  · split at read
    · have read := bind_pure_eq_error_iff.mp read
      rcases bind_eq_error_iff.mp read with unread | ⟨bytes, -, undecoded⟩
      · obtain ⟨f, hf, rfl⟩ := mapError_eq_error_iff.mp unread
        exact isOwn_of_noMistake (FileTree.isMistake_of_read possible hf)
      · rw [textOfBytes] at undecoded
        split at undecoded
        · cases undecoded
        · cases undecoded
          rfl
    · cases read

/-- **Writing a module where it can be** fails, if it does, in a way that is of the stub alone. -/
theorem storeModule_failsOnly {root module : Path} (possible : root.hasZero = false)
    (module_possible : module.hasZero = false)
    (names : ∀ part ∈ module.parent.components, (Path.ofString part).hasZero = false)
    (packageMarkers : Bool) (text : String) :
    FailsOnly WriteProblem.IsOwn (storeModule root packageMarkers module text) := by
  have path : (root / module).hasZero = false := hasZero_join possible module_possible
  rw [storeModule]
  refine ((ensurePackage_failsOnly possible names packageMarkers).adapt
    fun f hf => isOwn_of_noMistake hf).bind ?_
  intro _
  refine FailsOnly.bind ?_ ?_
  · intro t problem hproblem
    obtain ⟨fault, read, rfl⟩ := mapError_eq_error_iff.mp hproblem
    exact isOwn_of_text? path read
  · intro current
    split
    · exact failsOnly_pure _
    · refine ((writeFile_failsOnly path _).adapt fun f hf => isOwn_of_noMistake hf).bind ?_
      exact fun _ => failsOnly_pure _

/-- A destination where modules can be: no directory, or one whose path does not hold the character
zero. -/
def Destination.Possible : Destination → Prop
  | .preview | .memory => True
  | .directory root _ => root.hasZero = false

/-- A name that cannot be used is a problem of the stub alone. -/
theorem isOwn_of_unusableName? {s : Stub} {problem : WriteProblem}
    (h : s.unusableName? = some problem) : problem.IsOwn := by
  rw [Stub.unusableName?] at h
  split at h
  · cases h
    rfl
  · obtain ⟨o, -, rfl⟩ := Option.map_eq_some_iff.mp h
    rfl

/-- **Writing a stub where modules can be** fails, if it does, in a way that is of the stub
alone. -/
theorem Destination.isOwn_of_write {d : Destination} (possible : d.Possible) {store : Store}
    {s : Stub} (package : isPackageName s.packageName = true) {problem : WriteProblem}
    (h : (d.write store s).1 = .error problem) : problem.IsOwn := by
  rw [write, writeText] at h
  split at h
  · next unusable =>
      cases h
      exact isOwn_of_unusableName? unusable
  · next usable =>
      have type := Stub.isUsableName_of_unusableName?_eq_none usable
      cases d with
      | preview => cases h
      | memory => cases h
      | directory root packageMarkers =>
          have stored := storeModule_failsOnly possible (s.hasZero_relativePath package type)
            (s.hasZero_of_mem_components package type) packageMarkers s.moduleText
          rw [put] at h
          split at h
          · cases h
          · cases h
          · next run =>
              cases h
              exact stored _ _ (congrArg Prod.fst run)

/-- A mistake of a stub is one of the files. -/
theorem isMistake_of_mistake? {problem : WriteProblem} {f : FileFault}
    (h : problem.mistake? = some f) : f.isMistake = true := by
  unfold WriteProblem.mistake? at h
  split at h
  · next fault =>
      split at h
      · next mistake =>
          cases h
          exact mistake
      · cases h
  · cases h

/-- A mistake of a document is one of the files. -/
theorem isMistake_of_unread {fault : DocumentFault} {f : FileFault}
    (h : fault.mistake? = some f) : f.isMistake = true := by
  unfold DocumentFault.mistake? at h
  split at h
  · next fault =>
      split at h
      · next mistake =>
          cases h
          exact mistake
      · cases h
  · cases h

/-! ### Runs -/

namespace Run

variable {s : Settings} {d : Destination}

/-- A stub is written by mistake only where its module cannot be. -/
theorem write_eq_mistaken {r : Run} {u : Stub} (package : isPackageName u.packageName = true)
    {f : FileFault} (h : (r.write d u).1 = .mistaken f) : f.isMistake = true ∧ ¬ d.Possible := by
  rw [write] at h
  split at h
  · cases h
  · next problem store written =>
      dsimp only at h
      split at h
      · next mistake =>
          cases h
          refine ⟨isMistake_of_mistake? mistake, ?_⟩
          intro possible
          have own := Destination.isOwn_of_write possible package (congrArg Prod.fst written)
          cases own.symm.trans mistake
      · cases h

/-- A collision adds no way to make a mistake. -/
theorem emit_eq_mistaken {policy : CollisionPolicy} {r : Run} {u : Stub}
    (package : isPackageName u.packageName = true) {f : FileFault}
    (h : (r.emit policy d u).1 = .mistaken f) : f.isMistake = true ∧ ¬ d.Possible := by
  rw [emit] at h
  split at h
  · exact write_eq_mistaken package h
  · cases h
  · split at h
    · cases h
    · exact write_eq_mistaken package h
    · exact write_eq_mistaken package h

/-- Stubs are emitted by mistake only where their modules cannot be. -/
theorem emitAll_eq_mistaken {policy : CollisionPolicy} {r : Run} {stubs : List Stub}
    (packages : ∀ u ∈ stubs, isPackageName u.packageName = true) {f : FileFault}
    (h : (emitAll policy d r stubs).1.findSome? Emission.mistake? = some f) :
    f.isMistake = true ∧ ¬ d.Possible := by
  induction stubs generalizing r with
  | nil => cases h
  | cons u rest ih =>
      obtain ⟨package, packages⟩ := List.forall_mem_cons.mp packages
      rw [emitAll] at h
      simp only [List.findSome?_cons] at h
      cases first : (r.emit policy d u).1 with
      | mistaken f' =>
          rw [first] at h
          cases h
          exact emit_eq_mistaken package first
      | _ =>
          rw [first] at h
          exact ih packages h

/-- **A document ends a run** only by a mistake: nothing can be at its path, or at that of the
directory that modules are written below. -/
theorem addDocument_eq_error {draft : Draft} {tree : FileTree}
    (frozen : draft.freeze tree = .ok s) {r : Run} {p : Path} {fault : GenerationFault}
    (h : addDocument s d r p = .error fault) :
    ∃ f, fault = .mistake f ∧ f.isMistake = true ∧ (p.hasZero = true ∨ ¬ d.Possible) := by
  obtain ⟨package, runtime, hruntime⟩ := Draft.freeze_ok frozen
  rw [addDocument] at h
  simp only [store_note] at h
  cases read : ProcessDocument.ofFile r.store.files p with
  | error unread =>
      rw [read] at h
      dsimp only at h
      split at h
      · next f mistake =>
          cases h
          refine ⟨f, rfl, isMistake_of_unread mistake, .inl ?_⟩
          by_contra possible
          have none := ProcessDocument.mistake?_of_ofFile (by simpa using possible) read
          cases none.symm.trans mistake
      · cases h
  | ok document =>
      have hstubs := Settings.stubsOf_eq hruntime document
      have packages : ∀ u ∈ Stub.ofDocument s.packageName runtime document,
          isPackageName u.packageName = true := by
        intro u hu
        rwa [Stub.packageName_of_mem_ofDocument hu]
      simp only [read, hstubs, mapError_ok, ok_bind] at h
      split at h
      · next f mistake =>
          cases h
          obtain ⟨is_mistake, impossible⟩ := emitAll_eq_mistaken packages mistake
          exact ⟨f, rfl, is_mistake, .inr impossible⟩
      · cases h

/-- **Documents end a run** only by a mistake. -/
theorem ofDocuments_eq_error {draft : Draft} {tree : FileTree}
    (frozen : draft.freeze tree = .ok s) {store : Store} {paths : List Path}
    {fault : GenerationFault} (h : ofDocuments s d store paths = .error fault) :
    ∃ f, fault = .mistake f ∧ f.isMistake = true ∧
      ((∃ p ∈ paths, p.hasZero = true) ∨ ¬ d.Possible) := by
  obtain ⟨p, hp, r, failed⟩ := exists_of_foldlM_eq_error (bind_pure_eq_error_iff.mp h)
  obtain ⟨f, rfl, mistake, cause⟩ := addDocument_eq_error frozen failed
  exact ⟨f, rfl, mistake, cause.imp_left fun zero => ⟨p, hp, zero⟩⟩

end Run

end ProcessStubs
