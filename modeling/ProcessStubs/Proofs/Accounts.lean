import ProcessStubs.Generation
import ProcessStubs.Proofs.Event
import ProcessStubs.Proofs.Frozen
import ProcessStubs.Proofs.Walks

/-!
# Accounts of a run over documents

A run over documents has one entry for each path: the document could not be read, or its stubs had
their turns. The report says neither more nor less than the entries do. Nothing can be at a path
that holds the character zero, and asking for it ends the run without a report; this is the one way
in which a run that leaves files can end so.

## Main results

* `added_addDocument`: the run after one more document.
* `AddedAll.kept`: what a report says is what its entries say, in the order of the paths.
* `Books.accounts`: what follows for the outcomes of stubs, for errors, and for the exit code.
* `accounts_ofDocuments`: there is a report with its accounts in order exactly if no path holds the
  character zero.
-/

namespace ProcessStubs

/-- What a run did with the document at a path: it could not be read, or its stubs were emitted. -/
structure Entry where
  path : Path
  content : Except DocumentFault (List Event)

namespace Entry

/-- The events of an entry: the turns of the stubs of its document. -/
def events (x : Entry) : List Event :=
  match x.content with
  | .ok events => events
  | .error _ => []

/-- What a report says of an entry. -/
def result (x : Entry) : FileResult where
  path := x.path
  outcome :=
    match x.content with
    | .ok events => .read (events.map Event.stub) (Event.writes events)
    | .error fault => .unread fault

/-- The errors of an entry with their exit codes: that its document could not be read, or those of
its stubs. -/
def errors (x : Entry) : List (Diagnostic × ExitCode) :=
  match x.content with
  | .ok events => Event.errors events
  | .error fault => [(⟨.error, fault.message, some x.path⟩, .parseError)]

/-- What an entry adds to the diagnostics of a report. -/
def diagnostics (policy : CollisionPolicy) (x : Entry) : List Diagnostic :=
  match x.content with
  | .ok events => events.flatMap (Event.diagnostics policy)
  | .error fault => [⟨.error, fault.message, some x.path⟩]

/-- An entry is about what the files hold: the document at its path has the fault, or the events are
those of all its stubs in order. -/
def Faithful (s : Settings) (files : FileTree) (x : Entry) : Prop :=
  match x.content with
  | .ok events => ∃ document, ProcessDocument.ofFile files x.path = .ok document ∧
      s.stubsOf document = .ok (events.map Event.stub)
  | .error fault => ProcessDocument.ofFile files x.path = .error fault

/-- The entry of a document that can be read: its events are those of its stubs. -/
theorem Faithful.exists_events {s : Settings} {files : FileTree} {x : Entry} {p : Path}
    (h : x.Faithful s files) (path : x.path = p) {document : ProcessDocument} {stubs : List Stub}
    (read : ProcessDocument.ofFile files p = .ok document) (made : s.stubsOf document = .ok stubs) :
    ∃ events, x = ⟨p, .ok events⟩ ∧ events.map Event.stub = stubs := by
  subst path
  obtain ⟨path, content⟩ := x
  cases content with
  | error fault => cases read.symm.trans h
  | ok events =>
      obtain ⟨document', read', made'⟩ := h
      cases read.symm.trans read'
      exact ⟨events, rfl, Except.ok.inj (made'.symm.trans made)⟩

/-- The entry of a document that cannot be read. -/
theorem Faithful.eq_error {s : Settings} {files : FileTree} {x : Entry} {p : Path}
    (h : x.Faithful s files) (path : x.path = p) {fault : DocumentFault}
    (unread : ProcessDocument.ofFile files p = .error fault) : x = ⟨p, .error fault⟩ := by
  subst path
  obtain ⟨path, content⟩ := x
  cases content with
  | error fault' =>
      cases unread.symm.trans h
      rfl
  | ok events =>
      obtain ⟨document, read, -⟩ := h
      cases unread.symm.trans read

/-- A report after the last event of an entry: what became of the document is added to it. -/
def close (x : Entry) (report : Report) : Report :=
  match x.content with
  | .ok _ => report.addFile x.result
  | .error fault => (report.addFile x.result).recordError fault.message .parseError (some x.path)

/-- The errors among the diagnostics of an entry are its errors. -/
theorem filter_diagnostics (policy : CollisionPolicy) (x : Entry) :
    (x.diagnostics policy).filter (·.severity = .error) = x.errors.map Prod.fst := by
  obtain ⟨path, content⟩ := x
  cases content with
  | error fault => rfl
  | ok events =>
      change (events.flatMap (Event.diagnostics policy)).filter _ =
        (events.filterMap Event.error?).map Prod.fst
      induction events with
      | nil => rfl
      | cons e rest ih =>
          rw [List.flatMap_cons, List.filter_append, ih, Event.filter_diagnostics]
          cases he : e.error? with
          | none => simp [he]
          | some x => simp [he]

/-- The errors of an entry stand for failures. -/
theorem code_of_mem_errors {x : Entry} {y : Diagnostic × ExitCode} (h : y ∈ x.errors) :
    y.2 ≠ .success := by
  obtain ⟨path, content⟩ := x
  cases content with
  | error fault =>
      rw [errors, List.mem_singleton] at h
      rw [h]
      exact ExitCode.noConfusion
  | ok events => exact Event.code_of_mem_errors h

/-- The errors of entries stand for failures. -/
theorem code_of_mem_flatMap_errors {entries : List Entry} {y : Diagnostic × ExitCode}
    (h : y ∈ entries.flatMap errors) : y.2 ≠ .success := by
  obtain ⟨x, -, hy⟩ := List.mem_flatMap.mp h
  exact code_of_mem_errors hy

end Entry

/-- **One document of a run.** Its entry is about what the files hold, its stubs are emitted after
nothing but the log has changed, and what became of it is added to the report. -/
structure Added (s : Settings) (d : Destination) (r : Run) (x : Entry) (r' : Run) : Prop where
  faithful : x.Faithful s r.store.files
  emitted : ∃ noted done : Run, noted = { r with log := noted.log } ∧
    EmittedAll s.collisionPolicy d noted x.events done ∧
    r' = { done with report := x.close done.report, log := r'.log }

/-! ### Where nothing can be -/

/-- Locating a path is a mistake exactly if the path holds the character zero. -/
theorem FileTree.locate_isMistake {t : FileTree} {aim : Aim} {p : Path} {f : FileFault}
    (h : t.locate aim p = .error f) : f.isMistake = p.hasZero ∧ f.path = p := by
  rw [FileTree.locate] at h
  cases zero : p.hasZero with
  | true =>
      rw [zero] at h
      cases h
      exact ⟨rfl, rfl⟩
  | false =>
      simp only [zero, Bool.false_eq_true, if_false] at h
      split at h
      · cases h
        exact ⟨rfl, rfl⟩
      · split at h
        · cases h
        · next problem hw =>
            cases h
            refine ⟨?_, rfl⟩
            have hne : problem ≠ .zeroCharacter := by
              rintro rfl
              exact (FileTree.walks_iff.mpr hw).ne_zeroCharacter rfl
            simpa [FileFault.isMistake] using hne

/-- Where nothing can be, nothing can be read. -/
theorem FileTree.read_of_hasZero {t : FileTree} {p : Path} (h : p.hasZero = true) :
    t.read p = .error ⟨.zeroCharacter, p⟩ := by
  rw [FileTree.read, FileTree.locate]
  rw [h]
  rfl

/-- Reading where something can be is no mistake. -/
theorem FileTree.isMistake_of_read {t : FileTree} {p : Path} {f : FileFault}
    (possible : p.hasZero = false) (h : t.read p = .error f) : f.isMistake = false := by
  rw [FileTree.read] at h
  cases located : t.locate .target p with
  | error fault =>
      rw [located] at h
      cases h
      rw [(FileTree.locate_isMistake located).1, possible]
  | ok place =>
      rw [located] at h
      rcases place with ⟨location, content | _ | target⟩ | location
      all_goals cases h
      all_goals rfl

/-- A document that cannot be read is a mistake exactly if nothing can be at its path. -/
theorem ProcessDocument.mistake?_of_ofFile {t : FileTree} {p : Path} {fault : DocumentFault}
    (possible : p.hasZero = false) (h : ofFile t p = .error fault) : fault.mistake? = none := by
  rw [ofFile] at h
  cases read : t.read p with
  | error f =>
      rw [read] at h
      cases h
      simp [DocumentFault.mistake?, FileTree.isMistake_of_read possible read]
  | ok bytes =>
      rw [read] at h
      simp only [ofBytes] at h
      split at h
      · cases h
        rfl
      · obtain ⟨f, -, rfl⟩ := mapError_eq_error_iff.mp h
        rfl

/-! ### Steps of a run over documents -/

/-- An entry in the log leaves what can be changed by writing. -/
theorem Run.store_note (r : Run) (severity : Severity) (message : String) :
    (r.note severity message).store = r.store := rfl

/-- Entries in the log change nothing else. -/
theorem Run.foldl_note {α : Type} (severity : Severity) (message : α → String) (l : List α)
    (r : Run) :
    ∃ log, l.foldl (fun r a => r.note severity (message a)) r = { r with log := log } := by
  induction l generalizing r with
  | nil => exact ⟨r.log, rfl⟩
  | cons a rest ih =>
      obtain ⟨log, heq⟩ := ih (r.note severity (message a))
      exact ⟨log, heq⟩

variable {s : Settings} {d : Destination}

/-- A document that cannot be read is an error of the report. -/
theorem Run.addDocument_unread {r : Run} {p : Path} {fault : DocumentFault}
    (possible : p.hasZero = false)
    (read : ProcessDocument.ofFile r.store.files p = .error fault) :
    ∃ log, Run.addDocument s d r p = .ok { r with
      report :=
        (r.report.addFile ⟨p, .unread fault⟩).recordError fault.message .parseError (some p)
      log := log } := by
  rw [Run.addDocument]
  simp only [Run.store_note, read, ProcessDocument.mistake?_of_ofFile possible read]
  exact ⟨_, rfl⟩

/-- The stubs of a document that can be read are emitted, and it is added to the report. -/
theorem Run.addDocument_read (hd : d.leavesFiles = true) {r : Run} {p : Path}
    {document : ProcessDocument} {stubs : List Stub}
    (read : ProcessDocument.ofFile r.store.files p = .ok document)
    (hs : s.stubsOf document = .ok stubs) :
    ∃ noted : Run, noted = { r with log := noted.log } ∧
      Run.addDocument s d r p = .ok ((Run.emitAll s.collisionPolicy d noted stubs).2.addFile
        ⟨p, .read stubs (Event.writes (noted.events s.collisionPolicy d stubs))⟩) := by
  obtain ⟨log, found⟩ : ∃ log, document.executable.foldl (fun r p => r.note .info
      ("Found process: " ++ p.id ++ " - " ++ p.displayName document.participants))
      (r.note .info ("Processing BPMN file: " ++ p.toString)) = { r with log := log } :=
    Run.foldl_note .info _ document.executable _
  refine ⟨{ r with log := log }, rfl, ?_⟩
  have steps := emittedAll_emitAll s.collisionPolicy hd { r with log := log } stubs
  have mistakes : (Run.emitAll s.collisionPolicy d { r with log := log } stubs).1.findSome?
      Emission.mistake? = none := by
    rw [List.findSome?_eq_none_iff, Run.fst_emitAll]
    intro emission hmem
    obtain ⟨e, he, rfl⟩ := List.mem_map.mp hmem
    exact steps.mistake? he
  rw [Run.addDocument]
  simp only [Run.store_note, read, hs, found, mapError_ok, ok_bind, mistakes,
    Run.filterMap_write?_emitAll]
  rfl

/-- **The step lemma of documents.** Where something can be at its path, a document gets its
entry. -/
theorem added_addDocument {runtime : RuntimeReference}
    (hr : runtimeOf s.runtimeService = .ok runtime) (hd : d.leavesFiles = true) (r : Run) {p : Path}
    (possible : p.hasZero = false) :
    ∃ r' x, Run.addDocument s d r p = .ok r' ∧ x.path = p ∧ Added s d r x r' := by
  cases read : ProcessDocument.ofFile r.store.files p with
  | error fault =>
      obtain ⟨log, heq⟩ := Run.addDocument_unread (s := s) (d := d) possible read
      exact ⟨_, ⟨p, .error fault⟩, heq, rfl, read, r, r, rfl, .nil, rfl⟩
  | ok document =>
      have hs := Settings.stubsOf_eq hr document
      obtain ⟨noted, hnoted, heq⟩ := Run.addDocument_read hd read hs
      refine ⟨_, ⟨p, .ok (noted.events s.collisionPolicy d
        (Stub.ofDocument s.packageName runtime document))⟩, heq, rfl, ?_, ?_⟩
      · refine ⟨document, read, ?_⟩
        rw [Run.map_stub_events]
        exact hs
      · refine ⟨noted, _, hnoted, emittedAll_emitAll s.collisionPolicy hd noted _, ?_⟩
        simp only [Entry.close, Entry.result, Run.addFile, Run.map_stub_events]

/-- Documents of a run, one after the other. -/
inductive AddedAll (s : Settings) (d : Destination) : Run → List Entry → Run → Prop
  | nil {r : Run} : AddedAll s d r [] r
  | cons {r r' r'' : Run} {x : Entry} {rest : List Entry} :
      Added s d r x r' → AddedAll s d r' rest r'' → AddedAll s d r (x :: rest) r''

/-- **The run lemma of documents.** Where something can be at each path, each document gets its
entry, in order. -/
theorem addedAll_foldlM {runtime : RuntimeReference}
    (hr : runtimeOf s.runtimeService = .ok runtime) (hd : d.leavesFiles = true) (r : Run)
    {paths : List Path} (possible : ∀ p ∈ paths, p.hasZero = false) :
    ∃ r' entries, paths.foldlM (Run.addDocument s d) r = .ok r' ∧
      entries.map Entry.path = paths ∧ AddedAll s d r entries r' := by
  induction paths generalizing r with
  | nil => exact ⟨r, [], rfl, rfl, .nil⟩
  | cons p rest ih =>
      obtain ⟨r₁, x, step, hx, added⟩ := added_addDocument hr hd r (possible p List.mem_cons_self)
      obtain ⟨r₂, entries, steps, hentries, all⟩ :=
        ih r₁ fun q hq => possible q (List.mem_cons_of_mem _ hq)
      refine ⟨r₂, x :: entries, ?_, ?_, .cons added all⟩
      · rw [List.foldlM_cons, step]
        exact steps
      · rw [List.map_cons, hx, hentries]

/-- The first path at which nothing can be ends a run. -/
theorem foldlM_addDocument_of_hasZero {runtime : RuntimeReference}
    (hr : runtimeOf s.runtimeService = .ok runtime) (hd : d.leavesFiles = true) (r : Run)
    {paths : List Path} {p : Path} (first : paths.find? Path.hasZero = some p) :
    paths.foldlM (Run.addDocument s d) r = .error (.mistake ⟨.zeroCharacter, p⟩) := by
  induction paths generalizing r with
  | nil => cases first
  | cons q rest ih =>
      rw [List.foldlM_cons]
      cases zero : q.hasZero with
      | true =>
          rw [List.find?_cons_of_pos zero] at first
          cases first
          have fault : ProcessDocument.ofFile r.store.files p =
              .error (.unreadable ⟨.zeroCharacter, p⟩) := by
            rw [ProcessDocument.ofFile, FileTree.read_of_hasZero zero]
          rw [Run.addDocument]
          simp only [Run.store_note, fault]
          rfl
      | false =>
          rw [List.find?_cons_of_neg (by simp [zero])] at first
          obtain ⟨r₁, x, step, -, -⟩ := added_addDocument hr hd r zero
          rw [step]
          exact ih r₁ first

/-! ### The books of a run -/

/-- The report says of each document what its entry says, and its diagnostics and its exit code are
those of the entries in order. -/
structure Books (s : Settings) (files : FileTree) (entries : List Entry) (report : Report) :
    Prop where
  files_eq : report.files = entries.map Entry.result
  faithful : ∀ x ∈ entries, x.Faithful s files
  history : History s.collisionPolicy (entries.flatMap Entry.events)
  diagnostics_eq : report.diagnostics =
    s.diagnostics ++ entries.flatMap (Entry.diagnostics s.collisionPolicy)
  errorCode_eq : report.errorCode = firstErrorCode (entries.flatMap Entry.errors)

/-- A run whose books are in order, and that has in mind what was written last. -/
structure Kept (s : Settings) (files : FileTree) (entries : List Entry) (r : Run) : Prop where
  books : Books s files entries r.report
  remembers : r.Remembers (entries.flatMap Entry.events)
  files_eq : r.store.files = files

/-- A run that has not done anything yet has nothing in its books. -/
theorem Kept.start (s : Settings) (store : Store) :
    Kept s store.files [] (.start s.diagnostics store) where
  books := ⟨rfl, by simp, .nil _, by simp [Run.start, Report.start], rfl⟩
  remembers := fun _ => rfl
  files_eq := rfl

/-- What became of a document is the last result of the report. -/
theorem Entry.files_close (x : Entry) (report : Report) :
    (x.close report).files = report.files ++ [x.result] := by
  rw [close]
  split <;> rfl

/-- The diagnostics of a document are added after those of its stubs. -/
theorem Entry.diagnostics_close {x : Entry} {policy : CollisionPolicy} {report : Report}
    {before : List Diagnostic}
    (h : report.diagnostics = before ++ x.events.flatMap (Event.diagnostics policy)) :
    (x.close report).diagnostics = before ++ x.diagnostics policy := by
  obtain ⟨path, content⟩ := x
  cases content with
  | ok events => exact h
  | error fault =>
      have none : report.diagnostics = before := h.trans (List.append_nil before)
      rw [← none]
      rfl

/-- The exit code after a document is that of the first error, be it from before or of it. -/
theorem Entry.errorCode_close {x : Entry} {report : Report} {before : List (Diagnostic × ExitCode)}
    (failed : ∀ y ∈ before, y.2 ≠ .success)
    (h : report.errorCode = firstErrorCode (before ++ Event.errors x.events)) :
    (x.close report).errorCode = firstErrorCode (before ++ x.errors) := by
  obtain ⟨path, content⟩ := x
  cases content with
  | ok events => exact h
  | error fault =>
      have none : report.errorCode = firstErrorCode before :=
        h.trans (congrArg firstErrorCode (List.append_nil before))
      rw [errors, firstErrorCode_append_singleton failed, ← none]
      rfl

/-- **One more document** keeps the books in order. -/
theorem Kept.added {files : FileTree} {prior : List Entry} {r r' : Run} {x : Entry}
    (hd : d.leavesFiles = true) (h : Kept s files prior r) (added : Added s d r x r') :
    Kept s files (prior ++ [x]) r' := by
  obtain ⟨noted, done, hnoted, steps, hdone⟩ := added.emitted
  have report : noted.report = r.report := by rw [hnoted]
  have store : noted.store = r.store := by rw [hnoted]
  have remembers : noted.Remembers (prior.flatMap Entry.events) := by
    rw [hnoted]
    exact h.remembers
  obtain ⟨history, remembers'⟩ := steps.history h.books.history remembers
  have events : (prior ++ [x]).flatMap Entry.events = prior.flatMap Entry.events ++ x.events := by
    simp
  have code := steps.errorCode (fun _ => Entry.code_of_mem_flatMap_errors)
    ((congrArg Report.errorCode report).trans h.books.errorCode_eq)
  have diagnostics := steps.diagnostics
  rw [report, h.books.diagnostics_eq] at diagnostics
  have report' : r'.report = x.close done.report := by rw [hdone]
  refine ⟨⟨?_, ?_, events ▸ history, ?_, ?_⟩, ?_, ?_⟩
  · rw [report', x.files_close, steps.files, report, h.books.files_eq, List.map_append]
    rfl
  · intro y hy
    rcases List.mem_append.mp hy with hy | hy
    · exact h.books.faithful y hy
    · rw [List.mem_singleton.mp hy, ← h.files_eq]
      exact added.faithful
  · rw [report', Entry.diagnostics_close diagnostics]
    simp
  · rw [report', Entry.errorCode_close (fun _ => Entry.code_of_mem_flatMap_errors) code]
    simp
  · rw [events, hdone]
    exact remembers'
  · rw [hdone]
    exact (steps.store_files hd).trans (store ▸ h.files_eq)

/-- Documents keep the books in order. -/
theorem AddedAll.kept {files : FileTree} {prior entries : List Entry} {r r' : Run}
    (hd : d.leavesFiles = true) (all : AddedAll s d r entries r') (h : Kept s files prior r) :
    Kept s files (prior ++ entries) r' := by
  induction all generalizing prior with
  | nil => simpa using h
  | cons added _ ih =>
      have next := ih (h.added hd added)
      simpa [List.append_assoc] using next

/-! ### What the books tell -/

/-- **The accounts of a run.** One result for each path, each document read or reported, each stub
with exactly one outcome, the errors exactly those of documents and stubs in order, and the exit
code that of the first error. -/
structure Accounts (s : Settings) (files : FileTree) (paths : List Path) (entries : List Entry)
    (report : Report) : Prop extends Books s files entries report where
  /-- There is one entry for each path, in order. -/
  paths_eq : entries.map Entry.path = paths
  /-- The writes of a document are for some of its stubs, in order. -/
  writes_sublist : ∀ f ∈ report.files, (f.writes.map Write.stub).Sublist f.stubs
  /-- The errors after those of the settings are those of the entries, in order. -/
  errors_eq : report.diagnostics.filter (·.severity = .error) =
    s.diagnostics.filter (·.severity = .error) ++ (entries.flatMap Entry.errors).map Prod.fst
  /-- There is no exit code exactly if there is no error. -/
  errorCode_eq_none_iff : report.errorCode = none ↔ entries.flatMap Entry.errors = []
  /-- The number for the caller is zero exactly if there is no error. -/
  number_eq_zero_iff :
    (report.errorCode.map ExitCode.number).getD ExitCode.success.number = 0 ↔
      entries.flatMap Entry.errors = []

/-- The writes of events are for some of their stubs, in order. -/
theorem Event.writes_sublist {events : List Event}
    (h : ∀ e ∈ events, ∀ w, e.write? = some w → w.stub = e.stub) :
    ((Event.writes events).map Write.stub).Sublist (events.map Event.stub) := by
  induction events with
  | nil => exact .slnil
  | cons e rest ih =>
      have tail := ih fun x hx => h x (List.mem_cons_of_mem _ hx)
      cases hw : e.write? with
      | none =>
          rw [Event.writes, List.filterMap_cons_none hw, List.map_cons]
          exact tail.cons _
      | some w =>
          rw [Event.writes, List.filterMap_cons_some hw, List.map_cons, List.map_cons,
            h e List.mem_cons_self w hw]
          exact tail.cons_cons _

/-- Only success has the number zero. -/
theorem ExitCode.number_eq_zero_iff {code : ExitCode} : code.number = 0 ↔ code = .success := by
  cases code <;> decide

/-- Where all errors stand for failures, the exit code tells if there is one. -/
theorem number_firstErrorCode {errors : List (Diagnostic × ExitCode)}
    (h : ∀ y ∈ errors, y.2 ≠ .success) :
    ((firstErrorCode errors).map ExitCode.number).getD ExitCode.success.number = 0 ↔
      errors = [] := by
  cases errors with
  | nil => simp [firstErrorCode, ExitCode.number]
  | cons y rest =>
      have failed : y.2 ≠ .success := h y List.mem_cons_self
      simpa [firstErrorCode, ExitCode.number_eq_zero_iff] using failed

/-- Books in order give the accounts. -/
theorem Books.accounts {files : FileTree} {entries : List Entry} {report : Report}
    (h : Books s files entries report) :
    Accounts s files (entries.map Entry.path) entries report where
  toBooks := h
  paths_eq := rfl
  writes_sublist := by
    intro f hf
    rw [h.files_eq] at hf
    obtain ⟨⟨path, content⟩, hx, rfl⟩ := List.mem_map.mp hf
    cases content with
    | error fault => exact .slnil
    | ok events =>
        refine Event.writes_sublist ?_
        intro e he w hw
        have hmem : e ∈ entries.flatMap Entry.events := List.mem_flatMap.mpr ⟨_, hx, he⟩
        obtain ⟨before, after, heq⟩ := List.append_of_mem hmem
        exact ((h.history before e after heq).2.of_write? hw).1
  errors_eq := by
    rw [h.diagnostics_eq, List.filter_append, List.filter_flatMap, List.map_flatMap]
    simp only [Entry.filter_diagnostics]
  errorCode_eq_none_iff := by
    rw [h.errorCode_eq, firstErrorCode, Option.map_eq_none_iff, List.head?_eq_none_iff]
  number_eq_zero_iff := by
    rw [h.errorCode_eq]
    exact number_firstErrorCode fun _ => Entry.code_of_mem_flatMap_errors

/-! ### Runs over documents -/

/-- A run over paths at which something can be has an entry for each of them. -/
theorem addedAll_ofDocuments {draft : Draft} {tree : FileTree}
    (frozen : draft.freeze tree = .ok s) (hd : d.leavesFiles = true) (store : Store)
    {paths : List Path} (possible : ∀ p ∈ paths, p.hasZero = false) :
    ∃ r entries, Run.ofDocuments s d store paths = .ok (r.note .info (Run.summary r.report)) ∧
      entries.map Entry.path = paths ∧ AddedAll s d (.start s.diagnostics store) entries r := by
  obtain ⟨-, runtime, hr⟩ := Draft.freeze_ok frozen
  obtain ⟨r, entries, run, hpaths, all⟩ :=
    addedAll_foldlM hr hd (.start s.diagnostics store) possible
  refine ⟨r, entries, ?_, hpaths, all⟩
  rw [Run.ofDocuments, run]
  rfl

/-- The first path at which nothing can be ends a run over documents. -/
theorem ofDocuments_of_hasZero {draft : Draft} {tree : FileTree}
    (frozen : draft.freeze tree = .ok s) (hd : d.leavesFiles = true) (store : Store)
    {paths : List Path} {p : Path} (first : paths.find? Path.hasZero = some p) :
    Run.ofDocuments s d store paths = .error (.mistake ⟨.zeroCharacter, p⟩) := by
  obtain ⟨-, runtime, hr⟩ := Draft.freeze_ok frozen
  rw [Run.ofDocuments, foldlM_addDocument_of_hasZero hr hd _ first]
  rfl

/-- A run that leaves files and ends was over paths at which something can be. -/
theorem possible_of_ofDocuments {draft : Draft} {tree : FileTree}
    (frozen : draft.freeze tree = .ok s) (hd : d.leavesFiles = true) {store : Store}
    {paths : List Path} {ended : Run} (run : Run.ofDocuments s d store paths = .ok ended) :
    ∀ p ∈ paths, p.hasZero = false := by
  cases first : paths.find? Path.hasZero with
  | none => simpa using first
  | some p =>
      rw [ofDocuments_of_hasZero frozen hd store first] at run
      cases run

/-- A run that ends has an entry for each path. -/
theorem addedAll_of_ofDocuments {draft : Draft} {tree : FileTree}
    (frozen : draft.freeze tree = .ok s) (hd : d.leavesFiles = true) (store : Store)
    {paths : List Path} {ended : Run} (run : Run.ofDocuments s d store paths = .ok ended) :
    ∃ r entries, ended = r.note .info (Run.summary r.report) ∧
      entries.map Entry.path = paths ∧ AddedAll s d (.start s.diagnostics store) entries r := by
  obtain ⟨r, entries, run', hpaths, all⟩ :=
    addedAll_ofDocuments frozen hd store (possible_of_ofDocuments frozen hd run)
  rw [run] at run'
  exact ⟨r, entries, Except.ok.inj run', hpaths, all⟩

/-- A run that ends has its accounts in order. -/
theorem accounts_of_run {draft : Draft} {tree : FileTree} (frozen : draft.freeze tree = .ok s)
    (hd : d.leavesFiles = true) (store : Store) {paths : List Path} {ended : Run}
    (run : Run.ofDocuments s d store paths = .ok ended) :
    ∃ entries, Accounts s store.files paths entries ended.report := by
  obtain ⟨r, entries, rfl, rfl, all⟩ := addedAll_of_ofDocuments frozen hd store run
  exact ⟨entries, (all.kept hd (.start s store)).books.accounts⟩

/-- Where something can be at each path, a run ends with its accounts in order. -/
theorem exists_accounts {draft : Draft} {tree : FileTree} (frozen : draft.freeze tree = .ok s)
    (hd : d.leavesFiles = true) (store : Store) {paths : List Path}
    (possible : ∀ p ∈ paths, p.hasZero = false) :
    ∃ r entries, Run.ofDocuments s d store paths = .ok r ∧
      Accounts s store.files paths entries r.report := by
  obtain ⟨r, -, run, -⟩ := addedAll_ofDocuments frozen hd store possible
  obtain ⟨entries, accounts⟩ := accounts_of_run frozen hd store run
  exact ⟨_, entries, run, accounts⟩

/-- **Runs have their accounts in order.** A run with frozen settings that leaves files has a
report exactly if no path holds the character zero, and then its accounts are in order; the first
path that does is why there is none. -/
theorem accounts_ofDocuments {draft : Draft} {tree : FileTree}
    (frozen : draft.freeze tree = .ok s) (hd : d.leavesFiles = true) (store : Store)
    (paths : List Path) :
    ((∀ p ∈ paths, p.hasZero = false) →
      ∃ r entries, Run.ofDocuments s d store paths = .ok r ∧
        Accounts s store.files paths entries r.report) ∧
    ∀ p, paths.find? Path.hasZero = some p →
      Run.ofDocuments s d store paths = .error (.mistake ⟨.zeroCharacter, p⟩) := by
  constructor
  · intro possible
    exact exists_accounts frozen hd store possible
  · intro p first
    exact ofDocuments_of_hasZero frozen hd store first

/-! ### A document whose stubs collide -/

/-- Where a document is. -/
def solePath : Path := ⟨.root, ["a.bpmn"]⟩

/-- Where none is. -/
def absentPath : Path := ⟨.root, ["b.bpmn"]⟩

/-- The document is read. -/
theorem read_solePath {t : FileTree} {content : ByteArray}
    (found : t.entryAt? ["a.bpmn"] = some (.file content)) : t.read solePath = .ok content := by
  have named : IsShortName "a.bpmn" := by decide
  have possible : (Path.mk .root ["a.bpmn"]).IsPossible := by decide
  rw [FileTree.read, solePath, FileTree.locate_root_file named possible found]
  rfl

/-- The service of a process `A` of the document. -/
def soleService (runtime : RuntimeReference) (source : Path) : Stub :=
  .ofProcess Settings.defaultPackage runtime (some source) "A" "A"

/-- Something can be at each of these paths. -/
theorem hasZero_clashing : ∀ p ∈ [solePath, solePath, absentPath], p.hasZero = false := by
  simp [solePath, absentPath, Path.hasZero]

/-- The text of a document that calls two methods of one bean, the second one by a reserved word. -/
def clashingProcess : String :=
  "<definitions xmlns=\"http://www.omg.org/spec/BPMN/20100524/MODEL\" " ++
    "xmlns:a=\"http://activiti.org/bpmn\"><process id=\"A\" isExecutable=\"true\">" ++
    "<serviceTask id=\"s\" a:expression=\"$\x7bmailer.send()\x7d\"/>" ++
    "<serviceTask id=\"t\" a:expression=\"$\x7bmailer.class()\x7d\"/></process></definitions>"

/-- A tree with the document. -/
def clashingTree : FileTree := ⟨[], [(["a.bpmn"], .file clashingProcess.toUTF8)]⟩

/-- The interface of the bean for one of its methods. -/
def mailerInterface (method : String) : Stub :=
  .ofBeanCall Settings.defaultPackage (some solePath) ⟨"mailer", method⟩

/-- The stubs of the document. -/
def clashingStubs : List Stub :=
  [soleService ⟨"bpmngen.runtime", "RuntimeService"⟩ solePath, mailerInterface "send",
    mailerInterface "class"]

/-- The document as it is read. -/
def clashingDocument (source : Option Path) : ProcessDocument :=
  ⟨[⟨"A", none, true, [
      .serviceTask ⟨"s", none, .bound .expression "$\x7bmailer.send()\x7d"⟩,
      .serviceTask ⟨"t", none, .bound .expression "$\x7bmailer.class()\x7d"⟩]⟩], [], source⟩

/-- The document is read, and it gives the stubs. -/
theorem stubsOf_clashingDocument (package : s.packageName = Settings.defaultPackage)
    (runtime : s.runtimeService = Settings.defaultRuntime) :
    ProcessDocument.ofFile clashingTree solePath = .ok (clashingDocument (some solePath)) ∧
      s.stubsOf (clashingDocument (some solePath)) = .ok clashingStubs := by
  have read : (ProcessDocument.ofBytes none clashingProcess.toUTF8).toOption =
      some (clashingDocument none) := by decide +kernel
  have stubs : Stub.ofDocument Settings.defaultPackage
      ⟨"bpmngen.runtime", "RuntimeService"⟩ (clashingDocument (some solePath)) =
        clashingStubs := by decide +kernel
  constructor
  · rw [ProcessDocument.ofFile, read_solePath rfl]
    exact ProcessDocument.ofBytes_of_toOption read solePath
  · have hr : runtimeOf s.runtimeService = .ok ⟨"bpmngen.runtime", "RuntimeService"⟩ := by
      rw [runtime, ← Settings.runtimeOf_standard]
      rfl
    rw [Settings.stubsOf_eq hr, package, stubs]

/-- There is no other document. -/
theorem ofFile_absentPath :
    ProcessDocument.ofFile clashingTree absentPath =
      .error (.unreadable ⟨.noEntry, absentPath⟩) := by
  have named : IsShortName "b.bpmn" := by decide
  have possible : (Path.mk .root ["b.bpmn"]).IsPossible := by decide
  rw [ProcessDocument.ofFile, FileTree.read, absentPath,
    FileTree.locate_root_free named possible rfl]
  rfl

/-- The error that it is not there. -/
def absentError : Diagnostic :=
  ⟨.error, (DocumentFault.unreadable ⟨.noEntry, absentPath⟩).message, some absentPath⟩

/-- The turns of the stubs of the document when it is read twice. -/
def clashingTurns (policy : CollisionPolicy) : List Event :=
  (Run.start [] ⟨[], clashingTree⟩).events policy .memory (clashingStubs ++ clashingStubs)

/-- The settings of a run over the document. -/
def clashingSettings (policy : CollisionPolicy) : Settings :=
  (Draft.meeting policy).settings clashingTree

/-- What the accounts of a run say that reads the document twice, and then finds none. -/
theorem Accounts.clashing {policy : CollisionPolicy} {entries : List Entry} {report : Report}
    (h : Accounts (clashingSettings policy) clashingTree [solePath, solePath, absentPath] entries
      report) :
    report.stubs = clashingStubs ++ clashingStubs ∧
      report.diagnostics =
        (clashingTurns policy).flatMap (Event.diagnostics policy) ++ [absentError] ∧
      report.errorCode =
        firstErrorCode (Event.errors (clashingTurns policy) ++ [(absentError, .parseError)]) ∧
      report.writes.map Write.stub = (Event.writes (clashingTurns policy)).map Write.stub := by
  obtain ⟨read, made⟩ := stubsOf_clashingDocument (s := clashingSettings policy) rfl rfl
  obtain ⟨x, rest, rfl, hx, hrest⟩ := List.map_eq_cons_iff.mp h.paths_eq
  obtain ⟨y, rest, rfl, hy, hrest⟩ := List.map_eq_cons_iff.mp hrest
  obtain ⟨z, rfl, hz⟩ := List.map_eq_singleton_iff.mp hrest
  obtain ⟨first, rfl, hfirst⟩ := (h.faithful x (by simp)).exists_events hx read made
  obtain ⟨second, rfl, hsecond⟩ := (h.faithful y (by simp)).exists_events hy read made
  obtain rfl := (h.faithful z (by simp)).eq_error hz ofFile_absentPath
  have history : History policy (first ++ second) := by
    have all : History policy _ := h.history
    simpa [Entry.events] using all
  obtain ⟨told, errors, wrote⟩ := history.unique
    (Run.history_events policy (d := .memory) rfl [] ⟨[], clashingTree⟩
      (clashingStubs ++ clashingStubs))
    (by rw [List.map_append, hfirst, hsecond, Run.map_stub_events])
  have quiet : (clashingSettings policy).diagnostics = [] := rfl
  have meets : (clashingSettings policy).collisionPolicy = policy := rfl
  refine ⟨?_, ?_, ?_, ?_⟩
  · simp [Report.stubs, h.files_eq, Entry.result, FileResult.stubs, hfirst, hsecond]
  · rw [h.diagnostics_eq, clashingTurns, ← told, quiet, meets]
    simp [Entry.diagnostics, absentError]
  · rw [h.errorCode_eq, clashingTurns, ← errors]
    simp [Entry.errors, Event.errors, absentError]
  · rw [clashingTurns, ← wrote]
    simp [Report.writes, h.files_eq, Entry.result, FileResult.writes, Event.writes]

/-- Runs over the document that warn of collisions and that reject them. Both write the service and
the first interface, skip these when the document is read again, and find none at the last path. The
second interface collides; it fails in the one run, and is rejected in the other. -/
theorem accounts_ofDocuments_clashing :
    let paths := [solePath, solePath, absentPath]
    let collision : Collision := ⟨mailerInterface "class", some solePath⟩
    let warning := overwriteWarning collision
    let failure := writeError collision.stub (.unusableName .operation "class")
    let rejection : Diagnostic := ⟨.error, collision.message, some solePath⟩
    (Draft.meeting .warn).freeze clashingTree = .ok (clashingSettings .warn) ∧
      (Draft.meeting .error).freeze clashingTree = .ok (clashingSettings .error) ∧
      Destination.memory.leavesFiles = true ∧ (∀ p ∈ paths, p.hasZero = false) ∧
      (∃ r entries,
        Run.ofDocuments (clashingSettings .warn) .memory ⟨[], clashingTree⟩ paths = .ok r ∧
        Accounts (clashingSettings .warn) clashingTree paths entries r.report ∧
        r.report.diagnostics = [warning, failure, warning, failure, absentError] ∧
        r.report.errorCode = some .writeError ∧
        r.report.writes.map Write.stub = clashingStubs.take 2) ∧
      ∃ r entries,
        Run.ofDocuments (clashingSettings .error) .memory ⟨[], clashingTree⟩ paths = .ok r ∧
        Accounts (clashingSettings .error) clashingTree paths entries r.report ∧
        r.report.diagnostics = [rejection, rejection, absentError] ∧
        r.report.errorCode = some .collisionError ∧
        r.report.writes.map Write.stub = clashingStubs.take 2 := by
  intro paths collision warning failure rejection
  have frozen (policy : CollisionPolicy) :
      (Draft.meeting policy).freeze clashingTree = .ok (clashingSettings policy) :=
    Draft.freeze_meeting policy clashingTree
  obtain ⟨r, entries, run, accounts⟩ :=
    (accounts_ofDocuments (frozen .warn) (d := .memory) rfl ⟨[], clashingTree⟩ paths).1 hasZero_clashing
  obtain ⟨r', entries', run', accounts'⟩ :=
    (accounts_ofDocuments (frozen .error) (d := .memory) rfl ⟨[], clashingTree⟩ paths).1 hasZero_clashing
  obtain ⟨-, told, code, wrote⟩ := accounts.clashing
  obtain ⟨-, told', code', wrote'⟩ := accounts'.clashing
  refine ⟨frozen .warn, frozen .error, rfl, hasZero_clashing,
    ⟨r, entries, run, accounts, told.trans ?_, code.trans ?_, wrote.trans ?_⟩,
    ⟨r', entries', run', accounts', told'.trans ?_, code'.trans ?_, wrote'.trans ?_⟩⟩
  all_goals decide +kernel

/-- A run over a path that holds the character zero has no report, and so no accounts. -/
theorem ofDocuments_zero :
    Draft.empty.freeze ⟨[], []⟩ = .ok Settings.standard ∧
      Destination.memory.leavesFiles = true ∧
      Path.ofString "a\x00.bpmn" = ⟨.relative, ["a\x00.bpmn"]⟩ ∧
      ¬ ∃ r, Run.ofDocuments Settings.standard .memory ⟨[], ⟨[], []⟩⟩
        [⟨.relative, ["a\x00.bpmn"]⟩] = .ok r := by
  refine ⟨Draft.freeze_empty, rfl, by decide +kernel, ?_⟩
  rintro ⟨r, run⟩
  have first : [(⟨.relative, ["a\x00.bpmn"]⟩ : Path)].find? Path.hasZero =
      some ⟨.relative, ["a\x00.bpmn"]⟩ := by
    simp [Path.hasZero]
  rw [ofDocuments_of_hasZero Draft.freeze_empty rfl _ first] at run
  cases run

end ProcessStubs
