import ProcessStubs.Proofs.Accounts
import ProcessStubs.Proofs.Ledger

/-!
# Nothing is lost silently

Unless collisions are overwritten without a word, a stub of a run into memory is either there at the
end, up to the document it came from, or the run has told about its module.

A stub can go missing long after its turn, so the argument is about histories: `Traced` says of each
event so far that its stub was written last for its module or that a diagnostic so far names it, and
another event keeps that for all events before it.

## Main results

* `History.traced`: each event of a history is traced.
* `retained_or_reported`: each stub of a document that a run into memory reads is there at the end,
  or named by a warning or an error.
-/

namespace ProcessStubs

/-- Whether one of the diagnostics is a warning or an error that names a stub. -/
def Reported (diagnostics : List Diagnostic) (u : Stub) : Prop :=
  ∃ d ∈ diagnostics, (d.severity = .warning ∨ d.severity = .error) ∧
    ("'" ++ u.qualifiedName ++ "'").toList <:+: d.message.toList

instance (diagnostics : List Diagnostic) (u : Stub) : Decidable (Reported diagnostics u) :=
  inferInstanceAs (Decidable (∃ d ∈ diagnostics, _ ∧ _))

/-- Whether memory holds a stub at its path, up to the document it came from. -/
def Run.Retains (r : Run) (u : Stub) : Prop :=
  ∃ v : Stub, v.withoutSource = u.withoutSource ∧
    r.store.module? (u.relativePath moduleSuffix) = some v.moduleText

/-- Whether the stub that was written last for the module of a stub is that stub, wherever it came
from. -/
def Represented (writes : List Write) (u : Stub) : Prop :=
  ∃ v, lastWritten u.target writes = some v ∧ v.withoutSource = u.withoutSource

/-- **No event is forgotten**: what was emitted is represented by what was written last, or it was
reported. -/
def Traced (policy : CollisionPolicy) (events : List Event) : Prop :=
  ∀ e ∈ events, Represented (Event.writes events) e.stub ∨
    Reported (events.flatMap (Event.diagnostics policy)) e.stub

/-! ### Names in messages -/

/-- The name of a stub with its package is that of its target. -/
theorem Stub.qualifiedName_eq_of_target_eq {u v : Stub} (h : u.target = v.target) :
    u.qualifiedName = v.qualifiedName := by
  obtain ⟨package, type⟩ := Prod.mk.inj h
  rw [qualifiedName, qualifiedName, package, type]

/-- A collision names its stub. -/
theorem Collision.names (c : Collision) (rest : String) :
    ("'" ++ c.stub.qualifiedName ++ "'").toList <:+: (c.message ++ rest).toList := by
  rw [Collision.message, collisionText]
  refine ⟨[], ?_⟩
  simp only [String.toList_append, List.nil_append, List.append_assoc]
  exact ⟨_, rfl⟩

/-- What is said of a stub that cannot be written names it. -/
theorem Stub.names_writeFailure (u : Stub) (reason : String) :
    ("'" ++ u.qualifiedName ++ "'").toList <:+: (u.writeFailure reason).toList := by
  unfold writeFailure
  refine ⟨"Cannot write ".toList, (": " ++ reason).toList, ?_⟩
  simp

/-- What is reported stays so when there is more to report. -/
theorem Reported.append {diagnostics : List Diagnostic} {u : Stub} (h : Reported diagnostics u)
    (more : List Diagnostic) : Reported (diagnostics ++ more) u := by
  obtain ⟨d, hd, severity, names⟩ := h
  exact ⟨d, List.mem_append_left more hd, severity, names⟩

/-- Diagnostics that name a stub of a module report each stub of it. -/
theorem Reported.of_target_eq {diagnostics : List Diagnostic} {u v : Stub}
    (h : Reported diagnostics v) (target : u.target = v.target) : Reported diagnostics u := by
  obtain ⟨d, hd, severity, names⟩ := h
  refine ⟨d, hd, severity, ?_⟩
  rw [Stub.qualifiedName_eq_of_target_eq target]
  exact names

/-- The error of an event reports its stub. -/
theorem Event.reported_of_error? {policy : CollisionPolicy} {e : Event} {message : String}
    {code : ExitCode} (h : e.error? = some (⟨.error, message, e.stub.source⟩, code))
    (names : ("'" ++ e.stub.qualifiedName ++ "'").toList <:+: message.toList) :
    Reported (e.diagnostics policy) e.stub := by
  refine ⟨⟨.error, message, e.stub.source⟩, ?_, .inr rfl, names⟩
  rw [Event.diagnostics, h]
  exact List.mem_append_right _ List.mem_cons_self

/-- A write over a different stub is reported where the policy is to warn. -/
theorem Event.reported_of_warning {e : Event} {p : Stub} (previous : e.previous = some p)
    (differs : p.withoutSource ≠ e.stub.withoutSource) :
    Reported (e.diagnostics .warn) e.stub := by
  refine ⟨⟨.warning, (Collision.mk e.stub p.source).message ++ "; overwritten", e.stub.source⟩, ?_,
    .inl rfl, Collision.names ⟨e.stub, p.source⟩ _⟩
  refine List.mem_append_left _ ?_
  rw [previous, collisionWarnings, if_pos ⟨rfl, differs⟩]
  exact List.mem_cons_self

/-! ### Histories -/

/-- A stub that is represented stays so, or the event that replaces it reports it. -/
theorem Represented.concat {policy : CollisionPolicy} (loud : policy ≠ .overwrite)
    {events : List Event} {e : Event} {u : Stub} (h : Represented (Event.writes events) u)
    (previous : e.previous = lastWritten e.stub.target (Event.writes events))
    (outcome : Outcome policy e.previous e.stub e.emission) :
    Represented (Event.writes (events ++ [e])) u ∨ Reported (e.diagnostics policy) u := by
  obtain ⟨v, last, same⟩ := h
  rw [Event.writes_concat]
  cases hw : e.write? with
  | none =>
      rw [Option.toList_none, List.append_nil]
      exact .inl ⟨v, last, same⟩
  | some w =>
      obtain ⟨hstub, -, allowed⟩ := outcome.of_write? hw
      by_cases target : e.stub.target = u.target
      · -- the event writes over `v`, so it differs from it and the policy is to warn
        right
        have hv : e.previous = some v := by rw [previous, target, last]
        obtain ⟨differs, hpolicy⟩ := allowed v hv
        obtain rfl : policy = .warn := by
          cases policy with
          | warn => rfl
          | error => exact absurd rfl hpolicy
          | overwrite => exact absurd rfl loud
        exact (Event.reported_of_warning hv differs).of_target_eq target.symm
      · left
        refine ⟨v, ?_, same⟩
        rw [Option.toList_some, lastWritten_append_singleton, hstub, if_neg target, last]

/-- The stub of an event is represented after its turn, or it is reported. -/
theorem Outcome.represented_or_reported {policy : CollisionPolicy} {events : List Event} {e : Event}
    (previous : e.previous = lastWritten e.stub.target (Event.writes events))
    (outcome : Outcome policy e.previous e.stub e.emission) :
    Represented (Event.writes (events ++ [e])) e.stub ∨ Reported (e.diagnostics policy) e.stub := by
  obtain ⟨stub, prior, emission⟩ := e
  change Outcome policy prior stub emission at outcome
  rw [Event.writes_concat]
  cases outcome with
  | @written w allowed usable hstub =>
      left
      refine ⟨w.stub, ?_, by rw [hstub]⟩
      exact (lastWritten_append_singleton _ _ _).trans (if_pos (by rw [hstub]))
  | @skipped p hp same =>
      left
      refine ⟨p, ?_, same⟩
      exact (congrArg _ (List.append_nil _)).trans (previous.symm.trans hp)
  | @rejected p hp differs hpolicy =>
      right
      exact Event.reported_of_error? rfl (by
        simpa using Collision.names ⟨stub, p.source⟩ "")
  | @failed problem allowed unusable =>
      right
      exact Event.reported_of_error? rfl (stub.names_writeFailure problem.message)

/-- **Each event of a history is traced**, unless collisions are overwritten without a word. -/
theorem History.traced {policy : CollisionPolicy} (loud : policy ≠ .overwrite)
    {events : List Event} (h : History policy events) : Traced policy events := by
  induction h using History.induction with
  | nil =>
      intro e he
      cases he
  | concat events e _ previous outcome ih =>
      have diagnostics : (events ++ [e]).flatMap (Event.diagnostics policy) =
          events.flatMap (Event.diagnostics policy) ++ e.diagnostics policy := by
        simp
      rw [Traced, diagnostics]
      intro f hf
      rcases List.mem_append.mp hf with hf | hf
      · rcases ih f hf with represented | reported
        · rcases represented.concat loud previous outcome with represented | reported
          · exact .inl represented
          · obtain ⟨d, hd, told⟩ := reported
            exact .inr ⟨d, List.mem_append_right _ hd, told⟩
        · exact .inr (reported.append _)
      · rw [List.mem_singleton.mp hf]
        rcases outcome.represented_or_reported previous with represented | reported
        · exact .inl represented
        · obtain ⟨d, hd, told⟩ := reported
          exact .inr ⟨d, List.mem_append_right _ hd, told⟩

/-! ### Runs over documents into memory -/

variable {s : Settings}

/-- The stubs of a document are in the package of the settings. -/
theorem Entry.Faithful.packageName {files : FileTree} {x : Entry} (h : x.Faithful s files)
    {e : Event} (he : e ∈ x.events) : e.stub.packageName = s.packageName := by
  obtain ⟨path, content⟩ := x
  cases content with
  | error fault => cases he
  | ok events =>
      obtain ⟨document, -, hs⟩ := h
      exact Settings.packageName_of_mem_stubsOf hs (List.mem_map_of_mem he)

/-- A document keeps memory the image of what was written last. -/
theorem Mirrored.added {r r' : Run} {x : Entry} (h : Mirrored s.packageName r)
    (added : Added s .memory r x r') : Mirrored s.packageName r' := by
  obtain ⟨noted, done, hnoted, steps, hdone⟩ := added.emitted
  have before : Mirrored s.packageName noted := by
    rw [hnoted]
    exact ⟨h.keyed, h.package_eq, h.usable, h.nodup, h.modules_eq⟩
  have after := before.steps steps fun e he => added.faithful.packageName he
  rw [hdone]
  exact ⟨after.keyed, after.package_eq, after.usable, after.nodup, after.modules_eq⟩

/-- Documents keep memory the image of what was written last. -/
theorem AddedAll.mirrored {r r' : Run} {entries : List Entry}
    (all : AddedAll s .memory r entries r') (h : Mirrored s.packageName r) :
    Mirrored s.packageName r' := by
  induction all with
  | nil => exact h
  | cons added _ ih => exact ih (h.added added)

/-- A stub that is represented is in memory at its path, up to the document it came from. -/
theorem Mirrored.retains_of_represented {package : String} {r : Run} (h : Mirrored package r)
    {events : List Event} (remembers : r.Remembers events) {u : Stub}
    (represented : Represented (Event.writes events) u) : r.Retains u := by
  obtain ⟨v, last, same⟩ := represented
  have path : u.relativePath moduleSuffix = v.relativePath moduleSuffix := by
    obtain ⟨package, type⟩ := Prod.mk.inj (target_of_lastWritten last)
    rw [Stub.relativePath, Stub.relativePath, package, type]
  refine ⟨v, same, ?_⟩
  rw [Store.module?, Assoc.get?_eq_some_iff h.nodup_modules, h.mem_modules]
  exact ⟨u.target, v, (remembers u.target).trans last, path, rfl⟩

/-- The stubs of a report are those of the events of its entries. -/
theorem Books.exists_event {files : FileTree} {entries : List Entry} {report : Report}
    (h : Books s files entries report) {u : Stub} (hu : u ∈ report.stubs) :
    ∃ e ∈ entries.flatMap Entry.events, e.stub = u := by
  rw [Report.stubs, h.files_eq] at hu
  obtain ⟨f, hf, hu⟩ := List.mem_flatMap.mp hu
  obtain ⟨⟨path, content⟩, hx, rfl⟩ := List.mem_map.mp hf
  cases content with
  | error fault => cases hu
  | ok events =>
      obtain ⟨e, he, rfl⟩ := List.mem_map.mp hu
      exact ⟨e, List.mem_flatMap.mpr ⟨_, hx, he⟩, rfl⟩

/-- What events report, their entries report. -/
theorem Reported.of_events {policy : CollisionPolicy} {entries : List Entry} {u : Stub}
    (h : Reported ((entries.flatMap Entry.events).flatMap (Event.diagnostics policy)) u) :
    Reported (entries.flatMap (Entry.diagnostics policy)) u := by
  obtain ⟨d, hd, told⟩ := h
  refine ⟨d, ?_, told⟩
  obtain ⟨e, he, hd⟩ := List.mem_flatMap.mp hd
  obtain ⟨⟨path, content⟩, hx, he⟩ := List.mem_flatMap.mp he
  refine List.mem_flatMap.mpr ⟨_, hx, ?_⟩
  cases content with
  | error fault => cases he
  | ok events => exact List.mem_flatMap.mpr ⟨e, he, hd⟩

/-- **Nothing is lost silently.** A run into memory ends unless a path holds the character zero.
Where collisions are not overwritten without a word, each stub of each document that can be read is
in memory at its path at the end, up to the document it came from, or a warning or an error of the
run names it; and so is each stub of the report. -/
theorem retained_or_reported {draft : Draft} {tree : FileTree}
    (frozen : draft.freeze tree = .ok s) (loud : s.collisionPolicy ≠ .overwrite) (files : FileTree)
    (paths : List Path) :
    ((∀ p ∈ paths, p.hasZero = false) →
      ∃ r, Run.ofDocuments s .memory ⟨[], files⟩ paths = .ok r) ∧
    ∀ r, Run.ofDocuments s .memory ⟨[], files⟩ paths = .ok r →
      ∃ added, r.report.diagnostics = s.diagnostics ++ added ∧
        (∀ p ∈ paths, ∀ document, ProcessDocument.ofFile files p = .ok document →
          ∃ stubs, s.stubsOf document = .ok stubs ∧
            ∀ u ∈ stubs, r.Retains u ∨ Reported added u) ∧
        ∀ u ∈ r.report.stubs, r.Retains u ∨ Reported added u := by
  constructor
  · intro possible
    obtain ⟨r, -, run, -⟩ := exists_accounts frozen (d := .memory) rfl ⟨[], files⟩ possible
    exact ⟨r, run⟩
  · intro ended run
    obtain ⟨r, entries, rfl, rfl, all⟩ :=
      addedAll_of_ofDocuments frozen (d := .memory) rfl ⟨[], files⟩ run
    have kept := all.kept rfl (.start s _)
    have mirrored := all.mirrored (.start s.packageName s.diagnostics files)
    have events : ∀ e ∈ entries.flatMap Entry.events, r.Retains e.stub ∨
        Reported (entries.flatMap (Entry.diagnostics s.collisionPolicy)) e.stub := by
      intro e he
      rcases kept.books.history.traced loud e he with represented | reported
      · exact .inl (mirrored.retains_of_represented kept.remembers represented)
      · exact .inr reported.of_events
    refine ⟨_, kept.books.diagnostics_eq, ?_, ?_⟩
    · intro p hp document read
      obtain ⟨x, hx, path⟩ := List.mem_map.mp hp
      obtain ⟨-, runtime, hr⟩ := Draft.freeze_ok frozen
      have made := Settings.stubsOf_eq hr document
      refine ⟨_, made, ?_⟩
      intro u hu
      obtain ⟨turns, rfl, stubs⟩ := (kept.books.faithful x hx).exists_events path read made
      rw [← stubs] at hu
      obtain ⟨e, he, rfl⟩ := List.mem_map.mp hu
      exact events e (List.mem_flatMap.mpr ⟨_, hx, he⟩)
    · intro u hu
      obtain ⟨e, he, rfl⟩ := kept.books.exists_event hu
      exact events e he

/-- Of the stubs of a document that collide, the interface that is not written is reported, and the
service is not. -/
theorem reported_clashing :
    let told := (clashingTurns .warn).flatMap (Event.diagnostics .warn) ++ [absentError]
    ¬ Reported told (soleService ⟨"bpmngen.runtime", "RuntimeService"⟩ solePath) ∧
      Reported told (mailerInterface "class") := by
  decide +kernel

/-- A run over a document whose stubs collide: the service is in memory, and the interface that is
not written is reported. -/
theorem retained_or_reported_clashing :
    (Draft.meeting .warn).freeze clashingTree = .ok (clashingSettings .warn) ∧
      (clashingSettings .warn).collisionPolicy ≠ .overwrite ∧
      (∀ p ∈ [solePath, solePath, absentPath], p.hasZero = false) ∧
      ∃ r added, Run.ofDocuments (clashingSettings .warn) .memory ⟨[], clashingTree⟩
          [solePath, solePath, absentPath] = .ok r ∧
        r.report.diagnostics = added ∧ r.report.stubs = clashingStubs ++ clashingStubs ∧
        (∀ u ∈ clashingStubs, r.Retains u ∨ Reported added u) ∧
        r.Retains (soleService ⟨"bpmngen.runtime", "RuntimeService"⟩ solePath) ∧
        Reported added (mailerInterface "class") := by
  have frozen := Draft.freeze_meeting .warn clashingTree
  have loud : (clashingSettings .warn).collisionPolicy ≠ .overwrite := by decide
  obtain ⟨ends, kept⟩ := retained_or_reported frozen loud clashingTree
    [solePath, solePath, absentPath]
  obtain ⟨r, run⟩ := ends hasZero_clashing
  obtain ⟨added, diagnostics, documents, -⟩ := kept r run
  obtain ⟨entries, accounts⟩ := accounts_of_run frozen rfl _ run
  obtain ⟨stubs, told, -⟩ := accounts.clashing
  obtain ⟨read, made⟩ := stubsOf_clashingDocument (s := clashingSettings .warn) rfl rfl
  obtain ⟨stubs', made', all⟩ := documents solePath List.mem_cons_self _ read
  cases made.symm.trans made'
  obtain rfl : added = _ := diagnostics.symm.trans told
  obtain ⟨unnamed, named⟩ := reported_clashing
  exact ⟨frozen, loud, hasZero_clashing, r, _, run, diagnostics, stubs, all,
    (all _ List.mem_cons_self).resolve_right unnamed, named⟩

end ProcessStubs
