import ProcessStubs.Proofs.Faults
import ProcessStubs.Proofs.Lockstep

/-!
# Previews in lockstep

A preview goes in lockstep with a run that writes: whether a stub collides, is repeated or has a
name that cannot be used is decided before it goes to its destination. Memory is never in the way.
Below a directory, files can be: a stub may then fail that the preview has shown, and a document
that the run itself writes may read differently when its turn comes. Without both, the run says what
the preview has said.

## Main definitions

* `Destination.place`: where a destination puts what a preview shows at a path.
* `Run.Foreseen`: a document whose turn goes as it did in the preview.

## Main results

* `Run.preview_lockstep`: a preview and a run whose documents are all foreseen.
* `Run.preview_lockstep_memory`: a preview and a run to memory, whatever the documents are.
-/

namespace ProcessStubs

/-- Where a destination puts the module that a preview shows at a path. -/
def Destination.place : Destination → Path → Path
  | .directory root _, p => root / p
  | .preview, p | .memory, p => p

/-- Whether a file was in the way of a stub that could be written otherwise. -/
def Emission.IsHindered : Emission → Prop
  | .failed (.file _) | .mistaken _ => True
  | _ => False

/-- Whatever goes wrong, some fault it is. -/
theorem failsOnly_true {ε α : Type} (a : ExceptT ε (StateM FileTree) α) :
    FailsOnly (fun _ => True) a := fun _ _ _ => trivial

/-- Writing a module fails only because of files. -/
theorem storeModule_failsOnly_file (root : Path) (packageMarkers : Bool) (module : Path)
    (text : String) :
    FailsOnly (fun problem => ∃ f, problem = .file f)
      (storeModule root packageMarkers module text) := by
  rw [storeModule]
  refine ((failsOnly_true _).adapt fun f _ => ⟨.unusable f, rfl⟩).bind ?_
  intro _
  refine FailsOnly.bind ?_ ?_
  · intro t problem hproblem
    obtain ⟨f, -, rfl⟩ := mapError_eq_error_iff.mp hproblem
    exact ⟨f, rfl⟩
  · intro current
    split
    · exact failsOnly_pure _
    · exact ((failsOnly_true _).adapt fun f _ => ⟨.unusable f, rfl⟩).bind fun _ => failsOnly_pure _

namespace Destination

variable {store store' : Store} {u : Stub}

/-- **A stub is written or not** because of its names or of files, and where it is written, it goes
to the place of its path. -/
theorem write_cases (d : Destination) (store : Store) (u : Stub) :
    (∃ problem, u.unusableName? = some problem ∧ (d.write store u).1 = .error problem) ∨
    (u.unusableName? = none ∧ ∃ w, (d.write store u).1 = .ok w ∧ w.stub = u ∧
      w.path = d.place (u.relativePath moduleSuffix)) ∨
    (u.unusableName? = none ∧ ∃ f, (d.write store u).1 = .error (.file f)) := by
  rw [write, writeText]
  cases usable : u.unusableName? with
  | some problem => exact .inl ⟨problem, rfl, rfl⟩
  | none =>
      cases d with
      | preview => exact .inr (.inl ⟨rfl, _, rfl, rfl, rfl⟩)
      | memory => exact .inr (.inl ⟨rfl, _, rfl, rfl, rfl⟩)
      | directory root packageMarkers =>
          have fails := storeModule_failsOnly_file root packageMarkers
            (u.relativePath moduleSuffix) u.moduleText store.files
          rcases stored : (storeModule root packageMarkers (u.relativePath moduleSuffix)
            u.moduleText).run store.files with ⟨problem | status, files⟩
          · obtain ⟨f, rfl⟩ := fails problem (congrArg Prod.fst stored)
            exact .inr (.inr ⟨rfl, f, by simp only [put, stored]⟩)
          · refine .inr (.inl ⟨rfl, ?_⟩)
            simp only [put, stored]
            cases status <;> exact ⟨_, rfl, rfl, rfl⟩

/-- No file is in the way of memory. -/
theorem write_memory_ne_file (f : TextFault) :
    (Destination.memory.write store u).1 ≠ .error (.file f) := by
  cases usable : u.unusableName? with
  | none =>
      obtain ⟨w, -, -, done⟩ := write_of_usable (d := .memory) rfl store usable
      rw [done]
      exact nofun
  | some problem =>
      rw [write_of_unusable usable]
      rintro ⟨⟩
      rw [Stub.unusableName?] at usable
      split at usable
      · cases usable
      · obtain ⟨o, -, named⟩ := Option.map_eq_some_iff.mp usable
        cases named

/-- **A preview shows what is written**, unless files are in the way. -/
theorem attempt_preview {near : WriteProblem → WriteProblem → Prop} (d : Destination)
    (free : ∀ f, (d.write store' u).1 ≠ .error (.file f)) :
    Attempt (Write.Matches d.place) near (Destination.preview.write store u).1
      (d.write store' u).1 := by
  rcases d.write_cases store' u with ⟨problem, unusable, done⟩ | ⟨usable, w, done, stub, path⟩ |
    ⟨-, f, done⟩
  · have shown : (Destination.preview.write store u).1 = .error problem := by
      rw [write, writeText, unusable]
    rw [shown, done]
    exact .error problem
  · have shown : (Destination.preview.write store u).1 =
        .ok ⟨u, u.relativePath moduleSuffix, .previewed, 0⟩ := by
      rw [write, writeText, usable]
      rfl
    rw [shown, done]
    exact .ok ⟨stub, path⟩
  · exact absurd done (free f)

end Destination

namespace Run

variable {s : Settings} {d : Destination} {store : Store} {r r' : Run}

/-- A stub that a file was in the way of is hindered. -/
theorem isHindered_write {u : Stub} {f : TextFault} (h : (d.write r.store u).1 = .error (.file f)) :
    (r.write d u).1.IsHindered := by
  rw [Run.write]
  rcases done : d.write r.store u with ⟨result, left⟩
  rw [done] at h
  cases h
  dsimp only
  split <;> exact trivial

/-- A preview of a stub leaves everything as it is. -/
theorem store_emit_preview (policy : CollisionPolicy) (u : Stub) :
    (r.emit policy .preview u).2.store = r.store := by
  rw [(emitted_emit policy (d := .preview) rfl r u).store_eq]
  exact ite_self _

/-- Memory changes no files. -/
theorem files_emit_memory (policy : CollisionPolicy) (u : Stub) :
    (r.emit policy .memory u).2.store.files = r.store.files := by
  rw [(emitted_emit policy (d := .memory) rfl r u).store_eq]
  split <;> rfl

/-- **A document whose turn goes as foreseen**: it reads as it did in the beginning, and no file is
in the way of its stubs. -/
structure Foreseen (s : Settings) (d : Destination) (files : FileTree) (r : Run) (p : Path) :
    Prop where
  read : ProcessDocument.ofFile r.store.files p = ProcessDocument.ofFile files p
  free : ∀ document stubs, ProcessDocument.ofFile files p = .ok document →
    s.stubsOf document = .ok stubs →
    ∀ e ∈ (emitAll s.collisionPolicy d r stubs).1, ¬ e.IsHindered

/-- What becomes of stubs is no matter of the log. -/
theorem fst_emitAll_withLog (policy : CollisionPolicy) (stubs : List Stub) (log : List LogEntry) :
    (emitAll policy d { r with log := log } stubs).1 = (emitAll policy d r stubs).1 := by
  have parallel : Parallel r r r r := .refl rfl rfl
  exact ((parallel.withLog r.log log).emitAll policy stubs).1

/-- **A preview of a document** whose turn goes as foreseen. -/
theorem addDocument_preview {p : Path} (h : Lockstep (Write.Matches d.place) NoneNear r r')
    (left : r.store = store)
    (foreseen : Foreseen s d store.files r' p) :
    Alike (fun a a' => Lockstep (Write.Matches d.place) NoneNear a a' ∧ a.store = store)
      (addDocument s .preview r p) (addDocument s d r' p) := by
  subst left
  refine h.addDocument (fun left _ => left = r.store) rfl foreseen.read ?_
  intro document stubs log log' read hstubs _
  have noted :
      Lockstep (Write.Matches d.place) NoneNear { r with log := log } { r' with log := log' } :=
    ⟨h.latest_eq, h.report⟩
  refine noted.emitAll rfl stubs ?_
  rintro before u after a rfl - left
  refine ⟨?_, (store_emit_preview _ u).trans left⟩
  intro written
  refine d.attempt_preview fun f done => ?_
  have emitted := emit_mem_emitAll s.collisionPolicy d { r' with log := log' } before after u
  rw [fst_emitAll_withLog] at emitted
  exact foreseen.free document _ read hstubs _ emitted (written ▸ isHindered_write done)

/-- **A preview and a run** whose documents are all foreseen at their turns. -/
theorem preview_lockstep {paths : List Path}
    (foreseen : ∀ before p after b, paths = before ++ p :: after →
      before.foldlM (addDocument s d) (.start s.diagnostics store) = .ok b →
      Foreseen s d store.files b p) :
    Alike (fun a a' => Lockstep (Write.Matches d.place) NoneNear a a' ∧ a.store = store)
      (ofDocuments s .preview store paths) (ofDocuments s d store paths) := by
  have start : Lockstep (Write.Matches d.place) NoneNear (.start s.diagnostics store)
      (.start s.diagnostics store) := ⟨rfl, .start _ _ _⟩
  have documents : Alike
      (fun a a' => Lockstep (Write.Matches d.place) NoneNear a a' ∧ a.store = store)
      (paths.foldlM (addDocument s .preview) (.start s.diagnostics store))
      (paths.foldlM (addDocument s d) (.start s.diagnostics store)) := by
    refine Alike.foldlM_of_turns ⟨start, rfl⟩ ?_
    rintro before p after a b split walked ⟨lockstep, left⟩
    exact addDocument_preview lockstep left (foreseen before p after b split walked)
  refine documents.bind ?_
  rintro a a' ⟨lockstep, left⟩
  exact .ok ⟨⟨lockstep.latest_eq, lockstep.report⟩, left⟩

/-- **A preview and a run to memory**: no file is in the way, and none is changed. -/
theorem preview_lockstep_memory (s : Settings) (store : Store) (paths : List Path) :
    Alike (fun a a' => Lockstep (Write.Matches id) NoneNear a a' ∧ a.store = store ∧
        a'.store.files = store.files)
      (ofDocuments s .preview store paths) (ofDocuments s .memory store paths) := by
  have document (r r' : Run) (p : Path)
      (h : Lockstep (Write.Matches id) NoneNear r r' ∧ r.store = store ∧
        r'.store.files = store.files) :
      Alike (fun a a' => Lockstep (Write.Matches id) NoneNear a a' ∧ a.store = store ∧
          a'.store.files = store.files)
        (addDocument s .preview r p) (addDocument s .memory r' p) := by
    obtain ⟨lockstep, left, files⟩ := h
    refine lockstep.addDocument (fun left right => left = store ∧ right.files = store.files)
      ⟨left, files⟩ (by rw [files, left]) ?_
    intro document stubs log log' _ _ _
    have noted :
        Lockstep (Write.Matches id) NoneNear { r with log := log } { r' with log := log' } :=
      ⟨lockstep.latest_eq, lockstep.report⟩
    refine noted.emitAll ⟨left, files⟩ stubs ?_
    rintro before u after a - - ⟨left, files⟩
    exact ⟨fun _ => Destination.attempt_preview .memory Destination.write_memory_ne_file,
      (store_emit_preview _ u).trans left, (files_emit_memory _ u).trans files⟩
  have start : Lockstep (Write.Matches id) NoneNear (.start s.diagnostics store)
      (.start s.diagnostics store) :=
    ⟨rfl, .start _ _ _⟩
  refine (Alike.foldlM document paths ⟨start, rfl, rfl⟩).bind ?_
  rintro a a' ⟨lockstep, left, files⟩
  exact .ok ⟨⟨lockstep.latest_eq, lockstep.report⟩, left, files⟩

end Run

end ProcessStubs
