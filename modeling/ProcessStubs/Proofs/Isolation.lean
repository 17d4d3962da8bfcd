import ProcessStubs.Proofs.Accounts
import ProcessStubs.Proofs.Places

/-!
# A document that cannot be read is alone with it

Two runs over the same documents, one of which has one more document that cannot be read, go on
alike after it. What a run does next depends on what was written last for each module and on what
can be changed by writing, and a document that cannot be read leaves both; a report is only ever
added to. So the one run adds to its report whatever the other adds to its own.

The relation `Parallel` says that of two runs since two earlier states of them. It is kept by every
step, whatever the step does and however it ends, and to every destination.

## Main definitions

* `Alike`: two outcomes fail with the same fault, or have related results.
* `Run.Parallel`: since two earlier runs, the same has been added to two reports.

## Main results

* `Run.Parallel.emitAll`, `Run.Parallel.addDocument`: stubs and documents keep runs parallel.
* `Run.ofDocuments_insert_unread`: what an unread document changes in a run.
-/

namespace ProcessStubs

/-- **Outcomes that agree**: both are the same fault, or their results are related. -/
inductive Alike {ε α β : Type} (related : α → β → Prop) : Except ε α → Except ε β → Prop
  | ok {a : α} {b : β} : related a b → Alike related (.ok a) (.ok b)
  | error (fault : ε) : Alike related (.error fault) (.error fault)

/-- Where the results of first steps are related, what follows has to agree on these. -/
theorem Alike.bind {ε α β γ δ : Type} {related : α → β → Prop} {related' : γ → δ → Prop}
    {x : Except ε α} {y : Except ε β} {f : α → Except ε γ} {g : β → Except ε δ}
    (h : Alike related x y) (hfg : ∀ a b, related a b → Alike related' (f a) (g b)) :
    Alike related' (x >>= f) (y >>= g) := by
  cases h with
  | ok hab => exact hfg _ _ hab
  | error fault => exact .error fault

/-- Steps that keep a relation keep it when they are taken for all members of a list. -/
theorem Alike.foldlM {ε α β γ : Type} {related : α → β → Prop} {f : α → γ → Except ε α}
    {g : β → γ → Except ε β} (step : ∀ a b c, related a b → Alike related (f a c) (g b c))
    (l : List γ) {a : α} {b : β} (h : related a b) :
    Alike related (l.foldlM f a) (l.foldlM g b) := by
  induction l generalizing a b with
  | nil => exact .ok h
  | cons c rest ih =>
      rw [List.foldlM_cons, List.foldlM_cons]
      exact (step a b c h).bind fun a' b' h' => ih h'

namespace Report

/-- **What a report keeps** when it is added to: its exit code, once that stands for a failure. The
exit code never stands for success. -/
structure Keeps (before after : Report) : Prop where
  failed : ∀ code, code ≠ .success → before.errorCode = some code → after.errorCode = some code
  unsuccessful : before.errorCode ≠ some .success → after.errorCode ≠ some .success

/-- A report keeps its exit code where that does not change. -/
theorem Keeps.of_errorCode_eq {before after : Report} (h : after.errorCode = before.errorCode) :
    Keeps before after where
  failed _ _ hcode := h.trans hcode
  unsuccessful hne heq := hne (h.symm.trans heq)

/-- What is kept twice is kept. -/
theorem Keeps.trans {first second third : Report} (h : Keeps first second)
    (h' : Keeps second third) : Keeps first third where
  failed code hne hcode := h'.failed code hne (h.failed code hne hcode)
  unsuccessful hne := h'.unsuccessful (h.unsuccessful hne)

/-- The first exit code of a failure stays, and another failure is no success. -/
theorem keeps_recordError (r : Report) (message : String) {code : ExitCode}
    (hcode : code ≠ .success) (path : Option Path) : Keeps r (r.recordError message code path) where
  failed current hne h := recordError_errorCode_of_failed h hne message code path
  unsuccessful hne := by
    rw [recordError]
    cases current : r.errorCode with
    | none => simpa [firstCode] using hcode
    | some c =>
        cases c with
        | success => exact absurd current hne
        | _ => simp [firstCode]

end Report

namespace Run

variable {s : Settings} {d : Destination} {a a' r r' : Run}

/-- **Runs in parallel** since two earlier states of them, `a` and `a'`: they have the same in mind
and leave the same, and the same results and diagnostics were added to both of their reports. -/
structure Parallel (a a' r r' : Run) : Prop where
  latest_eq : r'.latest = r.latest
  store_eq : r'.store = r.store
  files : ∃ added, r.report.files = a.report.files ++ added ∧
    r'.report.files = a'.report.files ++ added
  diagnostics : ∃ added, r.report.diagnostics = a.report.diagnostics ++ added ∧
    r'.report.diagnostics = a'.report.diagnostics ++ added
  keeps : a.report.Keeps r.report
  keeps' : a'.report.Keeps r'.report

/-- The run after the stubs of a document were emitted. A mistake is the end of it, and else the
document is added to its report. -/
def finishDocument (p : Path) (stubs : List Stub) (done : List Emission × Run) :
    Except GenerationFault Run :=
  match done.1.findSome? Emission.mistake? with
  | some mistake => .error (.mistake mistake)
  | none => .ok (done.2.addFile ⟨p, .read stubs (done.1.filterMap Emission.write?)⟩)

/-- **The stubs of a document** are emitted after nothing but the log has changed. -/
theorem addDocument_of_stubs {p : Path} {document : ProcessDocument} {stubs : List Stub}
    (read : ProcessDocument.ofFile r.store.files p = .ok document)
    (hstubs : s.stubsOf document = .ok stubs) :
    ∃ log, addDocument s d r p =
      finishDocument p stubs (emitAll s.collisionPolicy d { r with log := log } stubs) := by
  obtain ⟨log, found⟩ : ∃ log, document.executable.foldl (fun r q => r.note .info
      ("Found process: " ++ q.id ++ " - " ++ q.displayName document.participants))
      (r.note .info ("Processing BPMN file: " ++ p.toString)) = { r with log := log } :=
    foldl_note .info _ document.executable _
  refine ⟨log, ?_⟩
  rw [addDocument, finishDocument]
  simp only [store_note, read, hstubs, found, mapError_ok, ok_bind]
  cases (emitAll s.collisionPolicy d { r with log := log } stubs).1.findSome?
    Emission.mistake? <;> rfl

/-- A document that cannot be read leaves what a run has in mind and what it can change, and is an
error of its report. -/
theorem addDocument_of_unread {p : Path} {fault : DocumentFault} (own : fault.mistake? = none)
    (unread : ProcessDocument.ofFile r.store.files p = .error fault) :
    ∃ log, addDocument s d r p = .ok { r with
      report :=
        (r.report.addFile ⟨p, .unread fault⟩).recordError fault.message .parseError (some p)
      log := log } := by
  rw [addDocument]
  simp only [store_note, unread, own]
  exact ⟨_, rfl⟩

namespace Parallel

/-- Runs that have the same in mind and leave the same are parallel from then on. -/
theorem refl (latest_eq : a'.latest = a.latest) (store_eq : a'.store = a.store) :
    Parallel a a' a a' where
  latest_eq := latest_eq
  store_eq := store_eq
  files := ⟨[], by simp⟩
  diagnostics := ⟨[], by simp⟩
  keeps := .of_errorCode_eq rfl
  keeps' := .of_errorCode_eq rfl

/-- Runs stay parallel while only their logs change. -/
theorem withLog (h : Parallel a a' r r') (log log' : List LogEntry) :
    Parallel a a' { r with log := log } { r' with log := log' } :=
  ⟨h.latest_eq, h.store_eq, h.files, h.diagnostics, h.keeps, h.keeps'⟩

/-- Runs stay parallel while they are told the same of what was written. -/
theorem withWritten (h : Parallel a a' r r') (latest : List ((String × String) × Stub))
    (store : Store) (log log' : List LogEntry) :
    Parallel a a' { r with latest := latest, store := store, log := log }
      { r' with latest := latest, store := store, log := log' } :=
  ⟨rfl, rfl, h.files, h.diagnostics, h.keeps, h.keeps'⟩

/-- The same error keeps runs parallel. -/
theorem recordError (h : Parallel a a' r r') (message : String) {code : ExitCode}
    (hcode : code ≠ .success) (path : Option Path) :
    Parallel a a' (r.recordError message code path) (r'.recordError message code path) where
  latest_eq := h.latest_eq
  store_eq := h.store_eq
  files := h.files
  diagnostics := by
    obtain ⟨added, hr, hr'⟩ := h.diagnostics
    refine ⟨added ++ [⟨.error, message, path⟩], ?_, ?_⟩
    · simp [Run.recordError, Report.recordError, hr]
    · simp [Run.recordError, Report.recordError, hr']
  keeps := h.keeps.trans (Report.keeps_recordError _ _ hcode _)
  keeps' := h.keeps'.trans (Report.keeps_recordError _ _ hcode _)

/-- The same warning keeps runs parallel. -/
theorem recordWarning (h : Parallel a a' r r') (message : String) (path : Option Path) :
    Parallel a a' (r.recordWarning message path) (r'.recordWarning message path) where
  latest_eq := h.latest_eq
  store_eq := h.store_eq
  files := h.files
  diagnostics := by
    obtain ⟨added, hr, hr'⟩ := h.diagnostics
    refine ⟨added ++ [⟨.warning, message, path⟩], ?_, ?_⟩
    · simp [Run.recordWarning, Report.recordWarning, hr]
    · simp [Run.recordWarning, Report.recordWarning, hr']
  keeps := h.keeps.trans (.of_errorCode_eq rfl)
  keeps' := h.keeps'.trans (.of_errorCode_eq rfl)

/-- The same result of a document keeps runs parallel. -/
theorem addFile (h : Parallel a a' r r') (result : FileResult) :
    Parallel a a' (r.addFile result) (r'.addFile result) where
  latest_eq := h.latest_eq
  store_eq := h.store_eq
  files := by
    obtain ⟨added, hr, hr'⟩ := h.files
    refine ⟨added ++ [result], ?_, ?_⟩
    · simp [Run.addFile, Report.addFile, hr]
    · simp [Run.addFile, Report.addFile, hr']
  diagnostics := h.diagnostics
  keeps := h.keeps.trans (.of_errorCode_eq rfl)
  keeps' := h.keeps'.trans (.of_errorCode_eq rfl)

/-- **Writing a stub** does the same in parallel runs. -/
theorem write (h : Parallel a a' r r') (u : Stub) :
    (r'.write d u).1 = (r.write d u).1 ∧ Parallel a a' (r.write d u).2 (r'.write d u).2 := by
  rw [Run.write, Run.write, h.store_eq, h.latest_eq]
  rcases d.write r.store u with ⟨problem | w, store⟩
  · dsimp only
    split
    · exact ⟨rfl, h.withWritten _ _ _ _⟩
    · exact ⟨rfl, (h.withWritten _ _ _ _).recordError _ ExitCode.noConfusion _⟩
  · exact ⟨rfl, h.withWritten _ _ _ _⟩

/-- **Emitting a stub** does the same in parallel runs. -/
theorem emit (h : Parallel a a' r r') (policy : CollisionPolicy) (u : Stub) :
    (r'.emit policy d u).1 = (r.emit policy d u).1 ∧
      Parallel a a' (r.emit policy d u).2 (r'.emit policy d u).2 := by
  have standing := standing_congr h.latest_eq u
  rw [Run.emit, Run.emit, standing]
  cases r.standing u with
  | new => exact h.write u
  | repeated => exact ⟨rfl, h⟩
  | colliding c =>
      cases policy with
      | error =>
          exact ⟨rfl, (h.withLog _ _).recordError c.message ExitCode.noConfusion u.source⟩
      | warn =>
          exact ((h.withLog _ _).recordWarning (c.message ++ "; overwritten") u.source).write u
      | overwrite => exact h.write u

/-- **Emitting stubs in order** does the same in parallel runs. -/
theorem emitAll (h : Parallel a a' r r') (policy : CollisionPolicy) (stubs : List Stub) :
    (Run.emitAll policy d r' stubs).1 = (Run.emitAll policy d r stubs).1 ∧
      Parallel a a' (Run.emitAll policy d r stubs).2 (Run.emitAll policy d r' stubs).2 := by
  induction stubs generalizing r r' with
  | nil => exact ⟨rfl, h⟩
  | cons u rest ih =>
      obtain ⟨first, on⟩ := h.emit (d := d) policy u
      obtain ⟨others, done⟩ := ih on
      rw [Run.emitAll, Run.emitAll]
      exact ⟨by simp only [first, others], done⟩

/-- **A document** does the same in parallel runs, however it ends. -/
theorem addDocument (h : Parallel a a' r r') (p : Path) :
    Alike (Parallel a a') (Run.addDocument s d r p) (Run.addDocument s d r' p) := by
  cases read : ProcessDocument.ofFile r.store.files p with
  | error fault =>
      have read' : ProcessDocument.ofFile r'.store.files p = .error fault := h.store_eq ▸ read
      rw [Run.addDocument, Run.addDocument]
      simp only [store_note, read, read']
      cases fault.mistake? with
      | some mistake => exact .error _
      | none =>
          exact .ok (((h.withLog _ _).addFile ⟨p, .unread fault⟩).recordError fault.message
            ExitCode.noConfusion (some p))
  | ok document =>
      have read' : ProcessDocument.ofFile r'.store.files p = .ok document := h.store_eq ▸ read
      cases hstubs : s.stubsOf document with
      | error fault =>
          rw [Run.addDocument, Run.addDocument]
          simp only [store_note, read, read', hstubs]
          exact .error _
      | ok stubs =>
          obtain ⟨log, added⟩ := addDocument_of_stubs (d := d) read hstubs
          obtain ⟨log', added'⟩ := addDocument_of_stubs (d := d) read' hstubs
          obtain ⟨emissions, done⟩ := (h.withLog log log').emitAll (d := d) s.collisionPolicy stubs
          rw [added, added', finishDocument, finishDocument, emissions]
          split
          · exact .error _
          · exact .ok (done.addFile _)

/-- **Documents** do the same in parallel runs. -/
theorem foldlM (h : Parallel a a' r r') (paths : List Path) :
    Alike (Parallel a a') (paths.foldlM (Run.addDocument s d) r)
      (paths.foldlM (Run.addDocument s d) r') :=
  Alike.foldlM (fun _ _ p h => h.addDocument p) paths h

end Parallel

/-- What an exit code of a run keeps from the very beginning: it never stands for success. -/
theorem errorCode_ne_success {paths : List Path} {store : Store}
    (h : paths.foldlM (addDocument s d) (.start s.diagnostics store) = .ok r) :
    r.report.errorCode ≠ some .success := by
  have same := (Parallel.refl (a := .start s.diagnostics store) rfl rfl).foldlM (s := s) (d := d)
    paths
  rw [h] at same
  cases same with
  | ok parallel => exact parallel.keeps.unsuccessful nofun

/-- A run over documents goes on after the first ones of them, and then says what it came to. -/
theorem ofDocuments_append (s : Settings) (d : Destination) (store : Store)
    (before after : List Path) :
    ofDocuments s d store (before ++ after) =
      before.foldlM (addDocument s d) (.start s.diagnostics store) >>= fun b =>
        after.foldlM (addDocument s d) b >>= fun r => .ok (r.note .info (summary r.report)) := by
  rw [ofDocuments, List.foldlM_append, bind_assoc]
  rfl

/-- A run over documents has said what it came to. -/
theorem ofDocuments_of_foldlM {store : Store} {paths : List Path}
    (h : paths.foldlM (addDocument s d) (.start s.diagnostics store) = .ok r) :
    ofDocuments s d store paths = .ok (r.note .info (summary r.report)) := by
  rw [ofDocuments, h]
  rfl

/-- A run over one document says what this document came to. -/
theorem ofDocuments_singleton {store : Store} {p : Path}
    (h : addDocument s d (.start s.diagnostics store) p = .ok r) :
    ofDocuments s d store [p] = .ok (r.note .info (summary r.report)) := by
  refine ofDocuments_of_foldlM ?_
  rw [List.foldlM_cons, h]
  rfl

/-- **What an unread document changes.** `before` is the run when its turn came, and `r` and `r'`
are the runs without it and with it. -/
structure Isolated (before : Run) (p : Path) (fault : DocumentFault) (r r' : Run) : Prop where
  /-- There is one result more, between those of the documents before and after. -/
  files : ∃ others, r.report.files = before.report.files ++ others ∧
    r'.report.files = before.report.files ++ ⟨p, .unread fault⟩ :: others
  /-- There is one diagnostic more, between those of the documents before and after. -/
  diagnostics : ∃ others, r.report.diagnostics = before.report.diagnostics ++ others ∧
    r'.report.diagnostics =
      before.report.diagnostics ++ ⟨.error, fault.message, some p⟩ :: others
  /-- Without an error before, the exit code is that of the document. -/
  errorCode_first : before.report.errorCode = none → r'.report.errorCode = some .parseError
  /-- An error before decides the exit code in both runs. -/
  errorCode_later : ∀ code, before.report.errorCode = some code →
    r.report.errorCode = some code ∧ r'.report.errorCode = some code
  /-- All that can be changed by writing is the same. -/
  store_eq : r'.store = r.store

/-- **A document that cannot be read** when its turn comes changes a run in nothing but its own
result, its own diagnostic and the exit code, to whatever destination; and where the run without it
has no report, neither has the run with it, for the same reason. -/
theorem ofDocuments_insert_unread (s : Settings) (d : Destination) (store : Store)
    (before after : List Path) (p : Path) {fault : DocumentFault} (own : fault.mistake? = none)
    (unread : ∀ r, ofDocuments s d store before = .ok r →
      ProcessDocument.ofFile r.store.files p = .error fault) :
    Alike (fun r r' => ∃ b, ofDocuments s d store before = .ok b ∧ Isolated b p fault r r')
      (ofDocuments s d store (before ++ after)) (ofDocuments s d store (before ++ p :: after)) := by
  rw [ofDocuments_append, ofDocuments_append]
  cases hb : before.foldlM (addDocument s d) (.start s.diagnostics store) with
  | error f => exact .error f
  | ok b =>
      have ended := ofDocuments_of_foldlM hb
      have unread' : ProcessDocument.ofFile b.store.files p = .error fault :=
        unread (b.note .info (summary b.report)) ended
      obtain ⟨log, added⟩ := addDocument_of_unread (s := s) (d := d) own unread'
      rw [ok_bind, ok_bind, List.foldlM_cons, added, ok_bind]
      have on : Parallel b { b with
          report :=
            (b.report.addFile ⟨p, .unread fault⟩).recordError fault.message .parseError (some p)
          log := log } b _ := .refl rfl rfl
      refine (on.foldlM after).bind ?_
      intro r r' parallel
      refine .ok ⟨_, ended, ?_⟩
      obtain ⟨files, hr, hr'⟩ := parallel.files
      obtain ⟨diagnostics, hd, hd'⟩ := parallel.diagnostics
      refine ⟨⟨files, hr, ?_⟩, ⟨diagnostics, hd, ?_⟩, ?_, ?_, parallel.store_eq⟩
      · exact hr'.trans (List.append_assoc _ _ _)
      · exact hd'.trans (List.append_assoc _ _ _)
      · intro none
        refine parallel.keeps'.failed _ ExitCode.noConfusion ?_
        rw [Report.recordError, Report.addFile, show b.report.errorCode = .none from none]
        rfl
      · intro code hcode
        have failed : code ≠ .success := fun h =>
          errorCode_ne_success hb ((show b.report.errorCode = _ from hcode).trans (congrArg _ h))
        refine ⟨parallel.keeps.failed code failed hcode, parallel.keeps'.failed code failed ?_⟩
        exact Report.recordError_errorCode_of_failed (r := b.report.addFile ⟨p, .unread fault⟩)
          hcode failed fault.message .parseError (some p)

/-- A document of another name than the only file of a tree is not there. -/
theorem ofFile_missing (content : ByteArray) {name : String}
    (h : name = "a.bpmn" ∨ name = "b.bpmn") :
    ProcessDocument.ofFile ⟨[], [(["c.bpmn"], .file content)]⟩ ⟨.root, [name]⟩ =
      .error (.unreadable ⟨.noEntry, ⟨.root, [name]⟩⟩) := by
  have other : name ≠ "c.bpmn" := by
    rintro rfl
    simp at h
  have free : (FileTree.mk [] [(["c.bpmn"], .file content)]).entryAt? [name] = none := by
    simp [FileTree.entryAt?, Assoc.get?, other.symm]
  have named : IsShortName name ∧ (Path.mk .root [name]).IsPossible := by
    rcases h with rfl | rfl
    all_goals
      exact ⟨by decide, by decide⟩
  simp only [ProcessDocument.ofFile, FileTree.read,
    FileTree.locate_root_free named.1 named.2 free, ok_bind]
  rfl

/-- The second of three documents is not there; the first one is not there either and has decided
the exit code, and the third one declares a process. -/
theorem ofDocuments_insert_unread_missing :
    let named (name : String) : Path := ⟨.root, [name]⟩
    let declaration := "<definitions xmlns=\"http://www.omg.org/spec/BPMN/20100524/MODEL\">" ++
      "<process id=\"A\" isExecutable=\"true\"/></definitions>"
    let files : FileTree := ⟨[], [(["c.bpmn"], .file declaration.toUTF8)]⟩
    let fault : DocumentFault := .unreadable ⟨.noEntry, named "b.bpmn"⟩
    let run := ofDocuments Settings.standard (.directory ⟨.root, ["out"]⟩ true) ⟨[], files⟩
    fault.mistake? = none ∧
      (∀ r, run [named "a.bpmn"] = .ok r →
        ProcessDocument.ofFile r.store.files (named "b.bpmn") = .error fault) ∧
      Alike (fun r r' => ∃ b, run [named "a.bpmn"] = .ok b ∧
          Isolated b (named "b.bpmn") fault r r')
        (run [named "a.bpmn", named "c.bpmn"])
        (run [named "a.bpmn", named "b.bpmn", named "c.bpmn"]) := by
  intro named declaration files fault run
  have unread : ∀ r, run [named "a.bpmn"] = .ok r →
      ProcessDocument.ofFile r.store.files (named "b.bpmn") = .error fault := by
    intro r h
    obtain ⟨log, added⟩ := addDocument_of_unread (s := Settings.standard)
      (d := .directory ⟨.root, ["out"]⟩ true)
      (r := .start Settings.standard.diagnostics ⟨[], files⟩)
      rfl (ofFile_missing _ (.inl rfl))
    obtain rfl := Except.ok.inj (h.symm.trans (ofDocuments_singleton added))
    exact ofFile_missing _ (.inr rfl)
  exact ⟨rfl, unread, ofDocuments_insert_unread Settings.standard _ ⟨[], files⟩
    [named "a.bpmn"] [named "c.bpmn"] (named "b.bpmn") rfl unread⟩

end Run

end ProcessStubs
