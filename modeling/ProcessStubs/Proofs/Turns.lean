import ProcessStubs.Proofs.Foretold

/-!
# The turns of a run

When the turn of a stub comes, a run passes it over, or tries to write it and fails, or writes it,
and then it was not the last one written for its module. So whatever each turn keeps of the writes,
of what is in mind and of what can be changed, a whole run keeps; and two runs over the same
documents go in lockstep if each stub can be written alike in whatever they come to.

## Main definitions

* `Settings.Makes`: the stubs that a run over documents can come to.
* `Turned`: a turn.

## Main results

* `Run.turned_emit`: there is nothing else in a turn.
* `Run.documentAdded`: what a document's turn leaves.
* `Run.invariant_ofDocuments`: what each turn keeps, a run keeps.
* `Run.nodup_of_noneReplaced`: each module is written once where no write replaced another stub.
* `Run.lockstep_ofDocuments`: runs that keep what makes their turns go alike.
-/

namespace ProcessStubs

variable {s : Settings} {d d' : Destination} {policy : CollisionPolicy} {paths : List Path}
  {u : Stub}

/-- A stub that a run over documents can come to: one of those of a document that is read at one of
the paths. -/
def Settings.Makes (s : Settings) (paths : List Path) (u : Stub) : Prop :=
  ∃ p ∈ paths, ∃ t document stubs, ProcessDocument.ofFile t p = .ok document ∧
    s.stubsOf document = .ok stubs ∧ u ∈ stubs

namespace Settings.Makes

/-- A stub is in the package of the settings. -/
theorem packageName (h : s.Makes paths u) : u.packageName = s.packageName := by
  obtain ⟨p, -, t, document, stubs, -, made, hu⟩ := h
  exact packageName_of_mem_stubsOf made hu

/-- The text of a stub holds no carriage return, if no name of a document does. -/
theorem not_mem_moduleText (h : s.Makes paths u) (named : ∀ p ∈ paths, '\r' ∉ p.name.toList)
    (usable : u.unusableName? = none) : '\r' ∉ u.moduleText.toList := by
  obtain ⟨p, hp, t, document, stubs, read, made, hu⟩ := h
  refine Settings.not_mem_moduleText made ?_ hu usable
  rw [ProcessDocument.ofFile] at read
  split at read
  · cases read
  · next bytes _ =>
      rw [ProcessDocument.ofBytes_withSource] at read
      rcases opened : ProcessDocument.ofBytes none bytes with fault | document'
      · rw [opened] at read
        cases read
      · rw [opened] at read
        cases read
        rintro _ ⟨⟩
        exact named p hp

end Settings.Makes

/-- **A turn of a stub**, by what is in mind and what can be changed: it is passed over, or cannot
be written, or is written. Then it was not written last for its module. -/
inductive Turned (d : Destination) (u : Stub) (latest : List ((String × String) × Stub))
    (store : Store) : Option Write → List ((String × String) × Stub) → Store → Prop
  | passed : Turned d u latest store none latest store
  | failed {problem : WriteProblem} {store' : Store} :
      d.write store u = (.error problem, store') → Turned d u latest store none latest store'
  | written {w : Write} {store' : Store} :
      (∀ v, Assoc.get? u.target latest = some v → v.withoutSource ≠ u.withoutSource) →
      d.write store u = (.ok w, store') →
      Turned d u latest store (some w) (Assoc.put u.target u latest) store'

/-- A write is of the stub that was written, whose names can be used. -/
theorem Destination.stub_of_write {store store' : Store} {w : Write}
    (written : d.write store u = (.ok w, store')) : w.stub = u ∧ u.unusableName? = none := by
  have outcome := congrArg Prod.fst written
  rcases d.write_cases store u with ⟨_, -, failed⟩ | ⟨usable, w', done, stub, -⟩ | ⟨-, _, failed⟩
  · cases outcome.symm.trans failed
  · cases outcome.symm.trans done
    exact ⟨stub, usable⟩
  · cases outcome.symm.trans failed

namespace Run

variable {r r' : Run}

/-- A stub that is written takes its turn. -/
theorem turned_write
    (fresh : ∀ v, Assoc.get? u.target r.latest = some v → v.withoutSource ≠ u.withoutSource) :
    Turned d u r.latest r.store (r.write d u).1.write? (r.write d u).2.latest
      (r.write d u).2.store := by
  rw [Run.write]
  rcases done : d.write r.store u with ⟨problem | w, store⟩
  · dsimp only
    split <;> exact .failed done
  · exact .written fresh done

/-- **Emitting a stub** is taking its turn. -/
theorem turned_emit (policy : CollisionPolicy) (d : Destination) (r : Run) (u : Stub) :
    Turned d u r.latest r.store (r.emit policy d u).1.write? (r.emit policy d u).2.latest
      (r.emit policy d u).2.store := by
  rw [emit, standing]
  cases previous : Assoc.get? u.target r.latest with
  | none => exact turned_write (by simp [previous])
  | some v =>
      by_cases same : v.withoutSource = u.withoutSource
      · simp only [same, if_true]
        exact .passed
      · have fresh : ∀ v', Assoc.get? u.target r.latest = some v' →
            v'.withoutSource ≠ u.withoutSource := by
          intro v' known
          cases previous.symm.trans known
          exact same
        simp only [same, if_false]
        cases policy with
        | error => exact .passed
        | warn => exact turned_write (r := (r.note _ _).recordWarning _ _) fresh
        | overwrite => exact turned_write fresh

/-- Writing a stub adds no results of documents. -/
theorem files_write (d : Destination) (r : Run) (u : Stub) :
    (r.write d u).2.report.files = r.report.files := by
  rw [write]
  rcases d.write r.store u with ⟨problem | w, store⟩
  · dsimp only
    split <;> rfl
  · rfl

/-- Emitting a stub adds no results of documents. -/
theorem files_emit (policy : CollisionPolicy) (d : Destination) (r : Run) (u : Stub) :
    (r.emit policy d u).2.report.files = r.report.files := by
  rw [emit]
  cases r.standing u with
  | new => exact files_write d r u
  | repeated => rfl
  | colliding c =>
      cases policy with
      | error => rfl
      | warn => exact files_write d _ u
      | overwrite => exact files_write d r u

/-- Emitting stubs adds no results of documents. -/
theorem files_emitAll (policy : CollisionPolicy) (d : Destination) (r : Run) (stubs : List Stub) :
    (emitAll policy d r stubs).2.report.files = r.report.files := by
  induction stubs generalizing r with
  | nil => rfl
  | cons u rest ih => exact (ih _).trans (files_emit policy d r u)

/-- **A document's turn that ends** leaves a document that cannot be read, or emits its stubs. -/
inductive DocumentAdded (s : Settings) (d : Destination) (r : Run) (p : Path) : Run → Prop
  | unread {fault : DocumentFault} (log : List LogEntry) :
      ProcessDocument.ofFile r.store.files p = .error fault → fault.mistake? = none →
      DocumentAdded s d r p { r with
        report :=
          (r.report.addFile ⟨p, .unread fault⟩).recordError fault.message .parseError (some p)
        log := log }
  | read {document : ProcessDocument} {stubs : List Stub} (log : List LogEntry) :
      ProcessDocument.ofFile r.store.files p = .ok document → s.stubsOf document = .ok stubs →
      DocumentAdded s d r p
        ((emitAll s.collisionPolicy d { r with log := log } stubs).2.addFile
          ⟨p, .read stubs ((emitAll s.collisionPolicy d { r with log := log } stubs).1.filterMap
            Emission.write?)⟩)

/-- What a document's turn leaves where it ends. -/
theorem documentAdded {p : Path} (done : addDocument s d r p = .ok r') :
    DocumentAdded s d r p r' := by
  cases read : ProcessDocument.ofFile r.store.files p with
  | error fault =>
      cases own : fault.mistake? with
      | some mistake =>
          rw [addDocument] at done
          simp only [store_note, read, own] at done
          cases done
      | none =>
          obtain ⟨log, added⟩ := addDocument_of_unread (s := s) (d := d) own read
          cases done.symm.trans added
          exact .unread log read own
  | ok document =>
      cases hstubs : s.stubsOf document with
      | error fault =>
          rw [addDocument] at done
          simp only [store_note, read, hstubs] at done
          cases done
      | ok stubs =>
          obtain ⟨log, added⟩ := addDocument_of_stubs (d := d) read hstubs
          rw [done, finishDocument] at added
          split at added
          · cases added
          · cases added
            exact .read log read hstubs

/-! ### What a run keeps -/

section

variable {P : List Write → List ((String × String) × Stub) → Store → Prop}

/-- What each turn keeps, **stubs in order** keep. -/
theorem invariant_emitAll (policy : CollisionPolicy) {stubs : List Stub} {writes : List Write}
    (turn : ∀ writes latest store u w? latest' store', u ∈ stubs → P writes latest store →
      Turned d u latest store w? latest' store' → P (writes ++ w?.toList) latest' store')
    (start : P writes r.latest r.store) :
    P (writes ++ (emitAll policy d r stubs).1.filterMap Emission.write?)
      (emitAll policy d r stubs).2.latest (emitAll policy d r stubs).2.store := by
  induction stubs generalizing r writes with
  | nil => simpa [emitAll] using start
  | cons u rest ih =>
      have first := turn _ _ _ u _ _ _ List.mem_cons_self start (turned_emit policy d r u)
      have whole := ih (fun writes latest store v w? latest' store' hv => turn writes latest store v
        w? latest' store' (List.mem_cons_of_mem u hv)) first
      rw [emitAll, List.filterMap_cons]
      cases written : (r.emit policy d u).1.write? with
      | none => simpa [written] using whole
      | some w => simpa [written] using whole

/-- What each turn keeps, **documents in order** keep. -/
theorem invariant_foldlM
    (turn : ∀ writes latest store u w? latest' store', s.Makes paths u → P writes latest store →
      Turned d u latest store w? latest' store' → P (writes ++ w?.toList) latest' store')
    {rest : List Path} (among : ∀ p ∈ rest, p ∈ paths) (start : P r.report.writes r.latest r.store)
    (done : rest.foldlM (addDocument s d) r = .ok r') :
    P r'.report.writes r'.latest r'.store := by
  induction rest generalizing r with
  | nil =>
      cases done
      exact start
  | cons p rest ih =>
      obtain ⟨here, others⟩ := List.forall_mem_cons.mp among
      rw [List.foldlM_cons] at done
      obtain ⟨b, first, later⟩ := bind_eq_ok_iff.mp done
      refine ih others ?_ later
      cases documentAdded first with
      | unread => simpa [Report.writes, Report.recordError, Report.addFile, FileResult.writes]
          using start
      | @read document stubs log read made =>
          have emitted := invariant_emitAll s.collisionPolicy (r := { r with log := log })
            (fun writes latest store u w? latest' store' hu =>
              turn writes latest store u w? latest' store' ⟨p, here, _, _, _, read, made, hu⟩) start
          simpa [addFile, Report.writes, Report.addFile, FileResult.writes, files_emitAll]
            using emitted

/-- **What each turn keeps, a run keeps.** -/
theorem invariant_ofDocuments {store : Store}
    (turn : ∀ writes latest store u w? latest' store', s.Makes paths u → P writes latest store →
      Turned d u latest store w? latest' store' → P (writes ++ w?.toList) latest' store')
    (start : P [] [] store) (done : ofDocuments s d store paths = .ok r) :
    P r.report.writes r.latest r.store := by
  rw [ofDocuments] at done
  obtain ⟨r', walked, ended⟩ := bind_eq_ok_iff.mp done
  cases ended
  have kept := invariant_foldlM (r := .start s.diagnostics store) turn (fun _ => id) start walked
  exact kept

end

/-! ### What the report of a run tells -/

/-- A report tells of each document, in order. -/
theorem paths_foldlM {rest : List Path} (done : rest.foldlM (addDocument s d) r = .ok r') :
    r'.report.files.map FileResult.path = r.report.files.map FileResult.path ++ rest := by
  induction rest generalizing r with
  | nil =>
      cases done
      simp
  | cons p rest ih =>
      rw [List.foldlM_cons] at done
      obtain ⟨b, first, later⟩ := bind_eq_ok_iff.mp done
      rw [ih later]
      cases documentAdded first with
      | unread => simp [Report.recordError, Report.addFile]
      | read => simp [addFile, Report.addFile, files_emitAll]

/-- **A report tells of each document** of a run, in order. -/
theorem paths_ofDocuments {store : Store} (done : ofDocuments s d store paths = .ok r) :
    r.report.files.map FileResult.path = paths := by
  rw [ofDocuments] at done
  obtain ⟨r', walked, ended⟩ := bind_eq_ok_iff.mp done
  cases ended
  exact paths_foldlM walked

/-- **Stubs that were written** are ones that the run can come to, and their names can be used. -/
theorem made_of_mem_writes {store : Store} (done : ofDocuments s d store paths = .ok r) :
    ∀ w ∈ r.report.writes, s.Makes paths w.stub ∧ w.stub.unusableName? = none := by
  refine invariant_ofDocuments (P := fun writes _ _ =>
    ∀ w ∈ writes, s.Makes paths w.stub ∧ w.stub.unusableName? = none) ?_ nofun done
  intro writes latest before u w? latest' after makes kept turned
  cases turned with
  | passed | failed => simpa using kept
  | @written w _ _ written =>
      obtain ⟨rfl, usable⟩ := Destination.stub_of_write written
      exact List.forall_mem_append.mpr ⟨kept, List.forall_mem_singleton.mpr ⟨makes, usable⟩⟩

/-- **No write has replaced another stub**: those before it for its module were of the same one, but
for the document that it came from. -/
def NoneReplaced (writes : List Write) : Prop :=
  writes.Pairwise fun w w' => w.stub.target = w'.stub.target →
    w.stub.withoutSource = w'.stub.withoutSource

/-- **Where no write has replaced another stub**, each module was written once: a stub is not
written again before another one was. -/
theorem nodup_of_noneReplaced {store : Store} (done : ofDocuments s d store paths = .ok r)
    (none : NoneReplaced r.report.writes) : (r.report.writes.map (·.stub.target)).Nodup := by
  -- The stub that was written last for a module is the one that a run has in mind for it.
  have kept := invariant_ofDocuments (P := fun writes latest _ =>
    (∀ w ∈ writes, ∃ last ∈ writes, last.stub.target = w.stub.target ∧
      Assoc.get? w.stub.target latest = some last.stub) ∧
    (NoneReplaced writes → (writes.map (·.stub.target)).Nodup)) ?_ ⟨nofun, fun _ => .nil⟩ done
  · exact kept.2 none
  · rintro writes latest before u w? latest' after - ⟨inMind, nodup⟩ turned
    cases turned with
    | passed | failed => simpa using ⟨inMind, nodup⟩
    | @written w _ fresh written =>
        obtain ⟨rfl, -⟩ := Destination.stub_of_write written
        constructor
        · intro w' hw'
          by_cases same : w'.stub.target = w.stub.target
          · exact ⟨w, by simp, same.symm, same ▸ Assoc.get?_put_self _ _ _⟩
          · have earlier : w' ∈ writes := by
              refine (List.mem_append.mp hw').resolve_right fun last => same ?_
              rw [List.mem_singleton.mp last]
            obtain ⟨last, hlast, target, known⟩ := inMind w' earlier
            exact ⟨last, List.mem_append_left _ hlast, target,
              (Assoc.get?_put_of_ne same _ _).trans known⟩
        · intro none
          obtain ⟨before, -, last⟩ := List.pairwise_append.mp none
          have new : w.stub.target ∉ writes.map (·.stub.target) := by
            intro known
            obtain ⟨w', hw', target⟩ := List.mem_map.mp known
            obtain ⟨v, hv, target', remembered⟩ := inMind w' hw'
            rw [target] at target' remembered
            exact fresh _ remembered (last v hv w List.mem_cons_self target')
          simpa [List.nodup_append, nodup before] using new

/-! ### Two runs -/

section

variable {A B : Store → Prop} {wrote : Write → Write → Prop}
  {near : WriteProblem → WriteProblem → Prop}

/-- What writing a stub keeps, its turn keeps. -/
theorem kept_emit (keeps : ∀ store, A store → A (d.write store u).2) (h : A r.store) :
    A (r.emit policy d u).2.store := by
  generalize hw : (r.emit policy d u).1.write? = w?
  generalize hl : (r.emit policy d u).2.latest = latest
  generalize hs : (r.emit policy d u).2.store = store
  have turned := turned_emit policy d r u
  rw [hw, hl, hs] at turned
  cases turned with
  | passed => exact h
  | failed done | written _ done => exact (congrArg (A ·.2) done).mp (keeps _ h)

/-- **Two runs over the same documents** go in lockstep, if what they can change keeps to something
that makes each stub be written alike and each document read the same. -/
theorem lockstep_ofDocuments {store store' : Store}
    (keeps : ∀ store u, s.Makes paths u → A store → A (d.write store u).2)
    (keeps' : ∀ store u, s.Makes paths u → B store → B (d'.write store u).2)
    (attempt : ∀ a b u, s.Makes paths u → A a → B b →
      Attempt wrote near (d.write a u).1 (d'.write b u).1)
    (read : ∀ p ∈ paths, ∀ a b, A a → B b →
      ProcessDocument.ofFile b.files p = ProcessDocument.ofFile a.files p)
    (start : A store) (start' : B store') :
    Alike (Lockstep wrote near) (ofDocuments s d store paths) (ofDocuments s d' store' paths) := by
  have documents : Alike (fun a b => Lockstep wrote near a b ∧ A a.store ∧ B b.store)
      (paths.foldlM (addDocument s d) (.start s.diagnostics store))
      (paths.foldlM (addDocument s d') (.start s.diagnostics store')) := by
    refine Alike.foldlM_of_turns ⟨⟨rfl, .start _ _ _⟩, start, start'⟩ ?_
    rintro before p after r r' rfl - ⟨lockstep, hr, hr'⟩
    have hp : p ∈ before ++ p :: after := by simp
    refine lockstep.addDocument (fun a b => A a ∧ B b) ⟨hr, hr'⟩ (read p hp _ _ hr hr') ?_
    intro document stubs log log' opened made _
    have noted : Lockstep wrote near { r with log := log } { r' with log := log' } :=
      ⟨lockstep.latest_eq, lockstep.report⟩
    refine noted.emitAll ⟨hr, hr'⟩ stubs ?_
    rintro before' u after' a rfl - ⟨ha, hb⟩
    have makes : s.Makes (before ++ p :: after) u := ⟨p, hp, _, _, _, opened, made, by simp⟩
    exact ⟨fun _ => attempt _ _ u makes ha hb, kept_emit (fun store => keeps store u makes) ha,
      kept_emit (fun store => keeps' store u makes) hb⟩
  refine documents.bind ?_
  rintro a b ⟨lockstep, -⟩
  exact .ok ⟨lockstep.latest_eq, lockstep.report⟩

end

end Run

end ProcessStubs
