import ProcessStubs.Run
import Mathlib.Data.List.Induction

/-!
# Events of a run

An event is the turn of one stub in a run: the stub, what had been written last for its module when
its turn came, and its emission. A list of events is a history if each of them follows from those
before it by the rules in `Outcome`, which leave exactly one kind of emission open in each
situation.

Runs into memory and previews touch no files. Their `emit` is described once and for all by
`Emitted`, which says what a step does to each part of a run.

## Main results

* `Run.emitted_emit`: one stub is emitted as `Emitted` says.
* `EmittedAll.history`: the events of stubs that are emitted in order continue a history.
* `History.unique`: a history is known from its stubs.
* `EmittedAll.diagnostics`, `EmittedAll.errorCode`: a report grows by what its events tell.
-/

namespace ProcessStubs

/-- A destination that no file can get in the way of: writing there changes no files. -/
def Destination.leavesFiles : Destination → Bool
  | .preview | .memory => true
  | .directory _ _ => false

/-- What can be changed by writing, after a stub was written to a destination that leaves files. -/
def Destination.storeAfter (d : Destination) (store : Store) (s : Stub) : Store :=
  match d with
  | .memory =>
    { store with
      modules := Assoc.put (s.relativePath moduleSuffix) s.moduleText store.modules }
  | _ => store

/-- The stub of the last write for a module, if there was one. -/
def lastWritten (target : String × String) (writes : List Write) : Option Stub :=
  (writes.reverse.find? (·.stub.target = target)).map Write.stub

/-- Nothing was written for any module in the beginning. -/
@[simp] theorem lastWritten_nil (target : String × String) : lastWritten target [] = none := rfl

/-- Another write counts for its own module alone. -/
theorem lastWritten_append_singleton (target : String × String) (writes : List Write) (w : Write) :
    lastWritten target (writes ++ [w]) =
      if w.stub.target = target then some w.stub else lastWritten target writes := by
  by_cases h : w.stub.target = target <;> simp [lastWritten, h]

/-- What was written last stays in mind when another write is put in mind. -/
theorem get?_put_eq_lastWritten {latest : List ((String × String) × Stub)} {past : List Write}
    (h : ∀ target, Assoc.get? target latest = lastWritten target past) (w : Write)
    (target : String × String) :
    Assoc.get? target (Assoc.put w.stub.target w.stub latest) =
      lastWritten target (past ++ [w]) := by
  rw [lastWritten_append_singleton, ← h target]
  by_cases same : w.stub.target = target
  · rw [if_pos same, ← same, Assoc.get?_put_self]
  · rw [if_neg same, Assoc.get?_put_of_ne (Ne.symm same)]

/-- Nothing was written last for a module exactly if nothing was written for it. -/
theorem lastWritten_eq_none_iff {target : String × String} {writes : List Write} :
    lastWritten target writes = none ↔ ∀ w ∈ writes, w.stub.target ≠ target := by
  simp [lastWritten]

/-- The stub that was written last for a module is a stub of that module. -/
theorem target_of_lastWritten {target : String × String} {writes : List Write} {v : Stub}
    (h : lastWritten target writes = some v) : v.target = target := by
  obtain ⟨w, hw, rfl⟩ := Option.map_eq_some_iff.mp h
  simpa using List.find?_some hw

/-- **What becomes of a stub**, depending on the policy and on what was written last for its
module. A stub that was written last already is skipped, one that collides is rejected if the
policy says so, and all others are written if their names can be used. -/
inductive Outcome (policy : CollisionPolicy) (previous : Option Stub) (s : Stub) : Emission → Prop
  | written {w : Write} :
      (∀ p ∈ previous, p.withoutSource ≠ s.withoutSource ∧ policy ≠ .error) →
      s.unusableName? = none → w.stub = s → Outcome policy previous s (.written w)
  | skipped {p : Stub} :
      previous = some p → p.withoutSource = s.withoutSource → Outcome policy previous s .skipped
  | rejected {p : Stub} :
      previous = some p → p.withoutSource ≠ s.withoutSource → policy = .error →
      Outcome policy previous s (.rejected ⟨s, p.source⟩)
  | failed {problem : WriteProblem} :
      (∀ p ∈ previous, p.withoutSource ≠ s.withoutSource ∧ policy ≠ .error) →
      s.unusableName? = some problem → Outcome policy previous s (.failed problem)

/-- The turn of one stub: what had been written last for its module, and what became of it. -/
structure Event where
  stub : Stub
  previous : Option Stub
  emission : Emission
deriving DecidableEq

/-- The warning that the stub of a collision replaces another one. -/
def overwriteWarning (c : Collision) : Diagnostic :=
  ⟨.warning, c.message ++ "; overwritten", c.stub.source⟩

/-- The error that a stub cannot be written. -/
def writeError (u : Stub) (problem : WriteProblem) : Diagnostic :=
  ⟨.error, u.writeFailure problem.message, u.source⟩

/-- The warning that a stub is written over a different one, where the policy is to warn. -/
def collisionWarnings (policy : CollisionPolicy) (previous : Option Stub) (s : Stub) :
    List Diagnostic :=
  match previous with
  | some p =>
    if policy = .warn ∧ p.withoutSource ≠ s.withoutSource then
      [⟨.warning, (Collision.mk s p.source).message ++ "; overwritten", s.source⟩]
    else []
  | none => []

namespace Event

/-- The write of an event, if the stub was written. -/
def write? (e : Event) : Option Write := e.emission.write?

/-- The error of an event with its exit code, if the stub was rejected or failed. -/
def error? (e : Event) : Option (Diagnostic × ExitCode) :=
  match e.emission with
  | .rejected c => some (⟨.error, c.message, e.stub.source⟩, .collisionError)
  | .failed problem =>
    some (⟨.error, e.stub.writeFailure problem.message, e.stub.source⟩, .writeError)
  | _ => none

/-- What an event adds to the diagnostics of a report. -/
def diagnostics (policy : CollisionPolicy) (e : Event) : List Diagnostic :=
  collisionWarnings policy e.previous e.stub ++ (e.error?.map Prod.fst).toList

/-- The writes of events, in order. -/
def writes (l : List Event) : List Write := l.filterMap write?

/-- The errors of events with their exit codes, in order. -/
def errors (l : List Event) : List (Diagnostic × ExitCode) := l.filterMap error?

/-- The error of an event is of the severity of errors. -/
theorem severity_of_error? {e : Event} {x : Diagnostic × ExitCode} (h : e.error? = some x) :
    x.1.severity = .error := by
  rw [error?] at h
  split at h
  · cases h
    rfl
  · cases h
    rfl
  · cases h

/-- The exit code of an error stands for a failure. -/
theorem code_of_error? {e : Event} {x : Diagnostic × ExitCode} (h : e.error? = some x) :
    x.2 ≠ .success := by
  rw [error?] at h
  split at h
  · cases h
    exact ExitCode.noConfusion
  · cases h
    exact ExitCode.noConfusion
  · cases h

/-- A warning about a collision is of the severity of warnings. -/
theorem severity_of_mem_collisionWarnings {policy : CollisionPolicy} {previous : Option Stub}
    {s : Stub} {d : Diagnostic} (h : d ∈ collisionWarnings policy previous s) :
    d.severity = .warning := by
  unfold collisionWarnings at h
  split at h
  · split at h
    · rw [List.mem_singleton] at h
      rw [h]
    · cases h
  · cases h

/-- The errors among the diagnostics of an event are its own error. -/
theorem filter_diagnostics (policy : CollisionPolicy) (e : Event) :
    (e.diagnostics policy).filter (·.severity = .error) = (e.error?.map Prod.fst).toList := by
  have warnings :
      (collisionWarnings policy e.previous e.stub).filter (·.severity = .error) = [] := by
    rw [List.filter_eq_nil_iff]
    intro d hd
    simp [severity_of_mem_collisionWarnings hd]
  rw [diagnostics, List.filter_append, warnings, List.nil_append]
  cases he : e.error? with
  | none => rfl
  | some x => simp [severity_of_error? he]

end Event

/-- The rules hold for each event, given the events before it. -/
def History (policy : CollisionPolicy) (events : List Event) : Prop :=
  ∀ before e after, events = before ++ e :: after →
    e.previous = lastWritten e.stub.target (Event.writes before) ∧
      Outcome policy e.previous e.stub e.emission

/-- Nothing has happened yet. -/
theorem History.nil (policy : CollisionPolicy) : History policy [] := by
  intro before e after heq
  simp at heq

/-- Another event that follows the rules continues a history. -/
theorem History.concat {policy : CollisionPolicy} {events : List Event} {e : Event}
    (h : History policy events)
    (previous : e.previous = lastWritten e.stub.target (Event.writes events))
    (outcome : Outcome policy e.previous e.stub e.emission) : History policy (events ++ [e]) := by
  intro before f after heq
  rcases List.eq_nil_or_concat after with rfl | ⟨after, g, rfl⟩
  · obtain ⟨rfl, last⟩ := List.append_inj' heq rfl
    obtain rfl : e = f := List.singleton_inj.mp last
    exact ⟨previous, outcome⟩
  · have assoc : before ++ f :: after.concat g = (before ++ f :: after) ++ [g] := by simp
    obtain ⟨init, -⟩ := List.append_inj' (heq.trans assoc) rfl
    exact h before f after init

/-- The last event of a history follows the rules, and those before it are a history. -/
theorem History.of_concat {policy : CollisionPolicy} {events : List Event} {e : Event}
    (h : History policy (events ++ [e])) :
    History policy events ∧
      e.previous = lastWritten e.stub.target (Event.writes events) ∧
      Outcome policy e.previous e.stub e.emission := by
  refine ⟨?_, h events e [] rfl⟩
  intro before f after heq
  exact h before f (after ++ [e]) (by simp [heq])

/-- **Induction on histories**, from the first event to the last. -/
@[elab_as_elim]
theorem History.induction {policy : CollisionPolicy}
    {motive : (events : List Event) → History policy events → Prop}
    (nil : motive [] (.nil policy))
    (concat : ∀ (events : List Event) (e : Event) (past : History policy events)
      (previous : e.previous = lastWritten e.stub.target (Event.writes events))
      (outcome : Outcome policy e.previous e.stub e.emission),
      motive events past → motive (events ++ [e]) (past.concat previous outcome))
    {events : List Event} (h : History policy events) : motive events h := by
  induction events using List.reverseRecOn with
  | nil => exact nil
  | append_singleton events e ih =>
      obtain ⟨past, previous, outcome⟩ := h.of_concat
      exact concat events e past previous outcome (ih past)

/-- **One step of a run.** What becomes of a stub, and how each part of the run is changed by it. -/
structure Emitted (policy : CollisionPolicy) (d : Destination) (r : Run) (e : Event) (r' : Run) :
    Prop where
  previous_eq : e.previous = Assoc.get? e.stub.target r.latest
  outcome : Outcome policy e.previous e.stub e.emission
  latest_eq : r'.latest =
    if e.write?.isSome then Assoc.put e.stub.target e.stub r.latest else r.latest
  store_eq : r'.store = if e.write?.isSome then d.storeAfter r.store e.stub else r.store
  files_eq : r'.report.files = r.report.files
  diagnostics_eq : r'.report.diagnostics = r.report.diagnostics ++ e.diagnostics policy
  errorCode_eq : r'.report.errorCode =
    match e.error? with
    | some x => some (Report.firstCode r.report.errorCode x.2)
    | none => r.report.errorCode

/-! ### One step -/

/-- A stub with an unusable name is written nowhere. -/
theorem Destination.write_of_unusable {d : Destination} {store : Store} {s : Stub}
    {problem : WriteProblem} (h : s.unusableName? = some problem) :
    d.write store s = (.error problem, store) := by
  simp [Destination.write, Destination.writeText, h]

/-- An unusable name is no mistake about files. -/
theorem mistake?_of_unusableName? {s : Stub} {problem : WriteProblem}
    (h : s.unusableName? = some problem) : problem.mistake? = none := by
  rw [Stub.unusableName?] at h
  split at h
  · cases h
    rfl
  · obtain ⟨o, -, rfl⟩ := Option.map_eq_some_iff.mp h
    rfl

/-- A stub whose names can be used is written wherever no file can get in the way. -/
theorem Destination.write_of_usable {d : Destination} (hd : d.leavesFiles = true) (store : Store)
    {s : Stub} (h : s.unusableName? = none) :
    ∃ w : Write, w.stub = s ∧ w.path = s.relativePath moduleSuffix ∧
      d.write store s = (.ok w, d.storeAfter store s) := by
  cases d with
  | preview =>
      exact ⟨_, rfl, rfl, by simp [Destination.write, writeText, h, put, storeAfter]; rfl⟩
  | memory =>
      exact ⟨_, rfl, rfl, by simp [Destination.write, writeText, h, put, storeAfter]; rfl⟩
  | directory root packageMarkers => cases hd

/-- A usable stub is written and is from then on the last one of its module. -/
theorem Run.write_of_usable {d : Destination} (hd : d.leavesFiles = true) (r : Run) {s : Stub}
    (h : s.unusableName? = none) :
    ∃ w : Write, w.stub = s ∧
      r.write d s =
        (.written w,
          { r with
            latest := Assoc.put s.target s r.latest
            store := d.storeAfter r.store s
            log := (r.write d s).2.log }) := by
  obtain ⟨w, hstub, -, hw⟩ := Destination.write_of_usable hd r.store h
  refine ⟨w, hstub, ?_⟩
  rw [Run.write]
  rw [hw]

/-- A stub with an unusable name leaves an error in the report, and nothing else but the log
changes. -/
theorem Run.write_of_unusable (d : Destination) (r : Run) {s : Stub} {problem : WriteProblem}
    (h : s.unusableName? = some problem) :
    r.write d s =
      (.failed problem,
        { r with
          report := r.report.recordError (s.writeFailure problem.message) .writeError s.source
          log := (r.write d s).2.log }) := by
  rw [Run.write]
  rw [Destination.write_of_unusable h]
  simp only [mistake?_of_unusableName? h]
  rfl

/-- Writing a stub that is neither skipped nor rejected is a step, also if a warning about it was
noted just before. -/
theorem emitted_write (policy : CollisionPolicy) {d : Destination} (hd : d.leavesFiles = true)
    (r noted : Run) (s : Stub)
    (allowed : ∀ p ∈ Assoc.get? s.target r.latest,
      p.withoutSource ≠ s.withoutSource ∧ policy ≠ .error)
    (latest : noted.latest = r.latest) (store : noted.store = r.store)
    (report : noted.report = { r.report with
      diagnostics := r.report.diagnostics ++
        collisionWarnings policy (Assoc.get? s.target r.latest) s }) :
    Emitted policy d r ⟨s, Assoc.get? s.target r.latest, (noted.write d s).1⟩
      (noted.write d s).2 := by
  cases usable : s.unusableName? with
  | none =>
      obtain ⟨w, hstub, heq⟩ := noted.write_of_usable hd usable
      rw [heq]
      refine ⟨rfl, .written allowed usable hstub, ?_, ?_, ?_, ?_, ?_⟩
      all_goals simp [Event.write?, Emission.write?, Event.diagnostics, Event.error?, latest,
        store, report]
  | some problem =>
      rw [noted.write_of_unusable d usable]
      refine ⟨rfl, .failed allowed usable, ?_, ?_, ?_, ?_, ?_⟩
      all_goals simp [Event.write?, Emission.write?, Event.diagnostics, Event.error?,
        Report.recordError, latest, store, report]

namespace Run

/-- How a stub stands is a matter of what was written last for each module. -/
theorem standing_congr {r r' : Run} (h : r'.latest = r.latest) (u : Stub) :
    r'.standing u = r.standing u := by
  rw [standing, standing, h]

/-- The event of a stub that is emitted next. -/
def event (policy : CollisionPolicy) (d : Destination) (r : Run) (s : Stub) : Event :=
  ⟨s, Assoc.get? s.target r.latest, (r.emit policy d s).1⟩

/-- **The step lemma.** Where no files get in the way, a stub is emitted by the rules, and the run
changes by what its event tells. -/
theorem emitted_emit (policy : CollisionPolicy) {d : Destination} (hd : d.leavesFiles = true)
    (r : Run) (s : Stub) : Emitted policy d r (r.event policy d s) (r.emit policy d s).2 := by
  rw [event, emit, standing]
  cases previous : Assoc.get? s.target r.latest with
  | none =>
      have step : Emitted policy d r ⟨s, Assoc.get? s.target r.latest, (r.write d s).1⟩
          (r.write d s).2 :=
        emitted_write policy hd r r s (by simp [previous]) rfl rfl
          (by simp [collisionWarnings, previous])
      rwa [previous] at step
  | some p =>
      by_cases same : p.withoutSource = s.withoutSource
      · simp only [same, if_true]
        refine ⟨previous.symm, .skipped rfl same, ?_, ?_, ?_, ?_, ?_⟩
        all_goals simp [Event.write?, Emission.write?, Event.diagnostics, Event.error?,
          collisionWarnings, same]
      · simp only [same, if_false]
        cases policy with
        | error =>
            refine ⟨previous.symm, .rejected rfl same rfl, ?_, ?_, ?_, ?_, ?_⟩
            all_goals simp [Event.write?, Emission.write?, Event.diagnostics, Event.error?,
              collisionWarnings, recordError, note, Report.recordError]
        | warn =>
            have step := emitted_write .warn hd r
              ((r.note .warning ((Collision.mk s p.source).message ++
                "; overwriting")).recordWarning
                  ((Collision.mk s p.source).message ++ "; overwritten") s.source) s
              (by simp [previous, same]) rfl rfl
              (by simp [previous, same, collisionWarnings, recordWarning, note,
                Report.recordWarning])
            rwa [previous] at step
        | overwrite =>
            have step := emitted_write .overwrite hd r r s
              (by simp [previous, same]) rfl rfl (by simp [previous, collisionWarnings])
            rwa [previous] at step

/-- The events of stubs that are emitted in order. -/
def events (policy : CollisionPolicy) (d : Destination) (r : Run) : List Stub → List Event
  | [] => []
  | s :: rest => r.event policy d s :: events policy d (r.emit policy d s).2 rest

/-- The events of stubs are about these stubs, in order. -/
@[simp] theorem map_stub_events (policy : CollisionPolicy) (d : Destination) (r : Run)
    (l : List Stub) : (r.events policy d l).map Event.stub = l := by
  induction l generalizing r with
  | nil => rfl
  | cons s rest ih => rw [events, List.map_cons, ih, event]

/-- The emissions of stubs are those of their events. -/
theorem fst_emitAll (policy : CollisionPolicy) (d : Destination) (r : Run) (l : List Stub) :
    (emitAll policy d r l).1 = (r.events policy d l).map Event.emission := by
  induction l generalizing r with
  | nil => rfl
  | cons s rest ih =>
      rw [events, List.map_cons, ← ih]
      rfl

/-- The writes of stubs are those of their events. -/
theorem filterMap_write?_emitAll (policy : CollisionPolicy) (d : Destination) (r : Run)
    (l : List Stub) :
    (emitAll policy d r l).1.filterMap Emission.write? = Event.writes (r.events policy d l) := by
  rw [fst_emitAll, List.filterMap_map]
  rfl

/-- Another stub adds its own emission. -/
theorem fst_emitAll_append_singleton (policy : CollisionPolicy) (d : Destination) (r : Run)
    (l : List Stub) (s : Stub) :
    (emitAll policy d r (l ++ [s])).1 =
      (emitAll policy d r l).1 ++ [((emitAll policy d r l).2.emit policy d s).1] := by
  induction l generalizing r with
  | nil => rfl
  | cons x rest ih =>
      have tail := ih (r.emit policy d x).2
      rw [List.cons_append, emitAll, emitAll]
      simp [tail]

end Run

/-! ### Whole runs -/

/-- Steps of a run, one after the other. -/
inductive EmittedAll (policy : CollisionPolicy) (d : Destination) : Run → List Event → Run → Prop
  | nil {r : Run} : EmittedAll policy d r [] r
  | cons {r r' r'' : Run} {e : Event} {rest : List Event} :
      Emitted policy d r e r' → EmittedAll policy d r' rest r'' →
      EmittedAll policy d r (e :: rest) r''

/-- **The run lemma.** Where no files get in the way, stubs that are emitted in order make steps. -/
theorem emittedAll_emitAll (policy : CollisionPolicy) {d : Destination}
    (hd : d.leavesFiles = true) (r : Run) (l : List Stub) :
    EmittedAll policy d r (r.events policy d l) (Run.emitAll policy d r l).2 := by
  induction l generalizing r with
  | nil => exact .nil
  | cons s rest ih => exact .cons (Run.emitted_emit policy hd r s) (ih _)

/-- What was written last for each module is known from the events so far. -/
def Run.Remembers (r : Run) (events : List Event) : Prop :=
  ∀ target, Assoc.get? target r.latest = lastWritten target (Event.writes events)

/-- The writes of events and of another one. -/
theorem Event.writes_concat (events : List Event) (e : Event) :
    Event.writes (events ++ [e]) = Event.writes events ++ e.write?.toList := by
  rw [Event.writes, List.filterMap_append]
  cases h : e.write? <;> simp [Event.writes, h]

/-- **What a write tells**: it is the write of the stub itself, the names of the stub can be used,
and a stub that was written before for its module differs from it and may be written over. -/
theorem Outcome.of_write? {policy : CollisionPolicy} {previous : Option Stub} {s : Stub}
    {emission : Emission} {w : Write} (h : Outcome policy previous s emission)
    (hw : emission.write? = some w) :
    w.stub = s ∧ s.unusableName? = none ∧
      ∀ p ∈ previous, p.withoutSource ≠ s.withoutSource ∧ policy ≠ .error := by
  cases h with
  | written allowed usable hstub =>
      cases hw
      exact ⟨hstub, usable, allowed⟩
  | skipped => cases hw
  | rejected => cases hw
  | failed => cases hw

/-- What was written last for a module is a matter of the stubs that were written. -/
theorem lastWritten_congr {writes writes' : List Write}
    (h : writes.map Write.stub = writes'.map Write.stub) (target : String × String) :
    lastWritten target writes = lastWritten target writes' := by
  have among (l : List Write) :
      lastWritten target l = (l.map Write.stub).reverse.find? (·.target = target) := by
    rw [lastWritten, ← List.map_reverse, List.find?_map]
    rfl
  rw [among, among, h]

/-- The errors of events and of another one. -/
theorem Event.errors_concat (events : List Event) (e : Event) :
    Event.errors (events ++ [e]) = Event.errors events ++ e.error?.toList := by
  rw [Event.errors, List.filterMap_append]
  cases h : e.error? <;> simp [Event.errors, h]

/-- **The rules leave one outcome open**: what becomes of a stub is known from what was written last
for its module, but for where a write went to and whether it changed anything. -/
theorem Outcome.unique {policy : CollisionPolicy} {previous : Option Stub} {s : Stub}
    {x y : Emission} (hx : Outcome policy previous s x) (hy : Outcome policy previous s y) :
    Event.error? ⟨s, previous, x⟩ = Event.error? ⟨s, previous, y⟩ ∧
      x.write?.map Write.stub = y.write?.map Write.stub := by
  cases hx with
  | written allowed usable stub =>
      cases hy with
      | written _ _ stub' => exact ⟨rfl, congrArg some (stub.trans stub'.symm)⟩
      | skipped last same => exact absurd same (allowed _ last).1
      | rejected last _ rejects => exact absurd rejects (allowed _ last).2
      | failed _ unusable => cases usable.symm.trans unusable
  | skipped last same =>
      cases hy with
      | written allowed => exact absurd same (allowed _ last).1
      | skipped => exact ⟨rfl, rfl⟩
      | rejected last' differs =>
          cases last.symm.trans last'
          exact absurd same differs
      | failed allowed => exact absurd same (allowed _ last).1
  | rejected last differs rejects =>
      cases hy with
      | written allowed => exact absurd rejects (allowed _ last).2
      | skipped last' same =>
          cases last.symm.trans last'
          exact absurd same differs
      | rejected last' =>
          cases last.symm.trans last'
          exact ⟨rfl, rfl⟩
      | failed allowed => exact absurd rejects (allowed _ last).2
  | failed allowed unusable =>
      cases hy with
      | written _ usable => cases usable.symm.trans unusable
      | skipped last same => exact absurd same (allowed _ last).1
      | rejected last _ rejects => exact absurd rejects (allowed _ last).2
      | failed _ unusable' =>
          cases unusable.symm.trans unusable'
          exact ⟨rfl, rfl⟩

/-- **A history is known from its stubs**: two histories of the same stubs tell the same, have the
same errors, and write the same stubs. -/
theorem History.unique {policy : CollisionPolicy} {events events' : List Event}
    (h : History policy events) (h' : History policy events')
    (same : events.map Event.stub = events'.map Event.stub) :
    events.flatMap (Event.diagnostics policy) = events'.flatMap (Event.diagnostics policy) ∧
      Event.errors events = Event.errors events' ∧
      (Event.writes events).map Write.stub = (Event.writes events').map Write.stub := by
  induction h using History.induction generalizing events' with
  | nil =>
      rw [List.map_eq_nil_iff.mp same.symm]
      exact ⟨rfl, rfl, rfl⟩
  | concat events e past previous outcome ih =>
      rw [List.map_append] at same
      obtain ⟨before, last, rfl, hbefore, hlast⟩ := List.map_eq_append_iff.mp same.symm
      obtain ⟨⟨stub, previous', emission⟩, rfl, hstub⟩ := List.map_eq_singleton_iff.mp hlast
      obtain ⟨past', hprevious, outcome'⟩ := h'.of_concat
      obtain ⟨told, errors, wrote⟩ := ih past' hbefore.symm
      dsimp only at hstub hprevious outcome'
      obtain rfl : previous' = e.previous := by
        rw [hprevious, previous, hstub]
        exact (lastWritten_congr wrote _).symm
      subst hstub
      obtain ⟨error, write⟩ := outcome.unique outcome'
      change e.error? = _ at error
      change e.write?.map Write.stub = _ at write
      refine ⟨?_, ?_, ?_⟩
      · simp [told, Event.diagnostics, error]
      · rw [Event.errors_concat, Event.errors_concat, errors, error]
      · rw [Event.writes_concat, Event.writes_concat, List.map_append, List.map_append, wrote,
          ← Option.toList_map, ← Option.toList_map, write]
        rfl

/-- Where no files get in the way no mistake is made. -/
theorem Outcome.mistake? {policy : CollisionPolicy} {previous : Option Stub} {s : Stub}
    {emission : Emission} (h : Outcome policy previous s emission) :
    emission.mistake? = none := by
  cases h <;> rfl

/-- Steps make no mistakes. -/
theorem EmittedAll.mistake? {policy : CollisionPolicy} {d : Destination} {r r' : Run}
    {events : List Event} (h : EmittedAll policy d r events r') {e : Event} (he : e ∈ events) :
    e.emission.mistake? = none := by
  induction h with
  | nil => cases he
  | cons step _ ih =>
      rcases List.mem_cons.mp he with rfl | he
      · exact step.outcome.mistake?
      · exact ih he

/-- A step keeps in mind what was written last. -/
theorem Emitted.remembers {policy : CollisionPolicy} {d : Destination} {r r' : Run} {e : Event}
    {prior : List Event} (h : Emitted policy d r e r') (hr : r.Remembers prior) :
    r'.Remembers (prior ++ [e]) := by
  intro target
  rw [h.latest_eq, Event.writes_concat]
  cases hw : e.write? with
  | none => simpa using hr target
  | some w =>
      have hstub : w.stub = e.stub := (h.outcome.of_write? hw).1
      rw [Option.toList_some, Option.isSome_some, if_pos rfl, ← hstub]
      exact get?_put_eq_lastWritten hr w target

/-- **Steps continue a history**, and what was written last stays in mind. -/
theorem EmittedAll.history {policy : CollisionPolicy} {d : Destination} {r r' : Run}
    {prior events : List Event} (h : EmittedAll policy d r events r') (past : History policy prior)
    (hr : r.Remembers prior) :
    History policy (prior ++ events) ∧ r'.Remembers (prior ++ events) := by
  induction h generalizing prior with
  | nil => simpa using ⟨past, hr⟩
  | @cons r r₁ r₂ e rest step _ ih =>
      have previous : e.previous = lastWritten e.stub.target (Event.writes prior) :=
        step.previous_eq.trans (hr _)
      have next := ih (past.concat previous step.outcome) (step.remembers hr)
      simpa [List.append_assoc] using next

/-- The events of a run that has not done anything yet are a history. -/
theorem Run.history_events (policy : CollisionPolicy) {d : Destination} (hd : d.leavesFiles = true)
    (diagnostics : List Diagnostic) (store : Store) (l : List Stub) :
    History policy ((start diagnostics store).events policy d l) :=
  ((emittedAll_emitAll policy hd (start diagnostics store) l).history (.nil policy)
    fun _ => rfl).1

/-- Steps do not change which documents a report is about. -/
theorem EmittedAll.files {policy : CollisionPolicy} {d : Destination} {r r' : Run}
    {events : List Event} (h : EmittedAll policy d r events r') :
    r'.report.files = r.report.files := by
  induction h with
  | nil => rfl
  | cons step _ ih => rw [ih, step.files_eq]

/-- **The diagnostics of steps** are added to the report in order. -/
theorem EmittedAll.diagnostics {policy : CollisionPolicy} {d : Destination} {r r' : Run}
    {events : List Event} (h : EmittedAll policy d r events r') :
    r'.report.diagnostics = r.report.diagnostics ++ events.flatMap (Event.diagnostics policy) := by
  induction h with
  | nil => simp
  | cons step _ ih => rw [ih, step.diagnostics_eq, List.flatMap_cons, List.append_assoc]

/-- The exit code of a list of errors is that of the first one. -/
def firstErrorCode (errors : List (Diagnostic × ExitCode)) : Option ExitCode :=
  errors.head?.map Prod.snd

/-- Another error counts if it is the first one. -/
theorem firstErrorCode_append_singleton {errors : List (Diagnostic × ExitCode)}
    (h : ∀ x ∈ errors, x.2 ≠ .success) (x : Diagnostic × ExitCode) :
    firstErrorCode (errors ++ [x]) = some (Report.firstCode (firstErrorCode errors) x.2) := by
  cases errors with
  | nil => rfl
  | cons y rest =>
      have failed : y.2 ≠ .success := h y List.mem_cons_self
      obtain ⟨diagnostic, code⟩ := y
      cases code
      · exact absurd rfl failed
      all_goals rfl

/-- The errors of events stand for failures. -/
theorem Event.code_of_mem_errors {events : List Event} {x : Diagnostic × ExitCode}
    (h : x ∈ Event.errors events) : x.2 ≠ .success := by
  obtain ⟨e, -, he⟩ := List.mem_filterMap.mp h
  exact Event.code_of_error? he

/-- **The exit code of steps** is that of the first error, be it from before or from a step. -/
theorem EmittedAll.errorCode {policy : CollisionPolicy} {d : Destination} {r r' : Run}
    {events : List Event} (h : EmittedAll policy d r events r')
    {errors : List (Diagnostic × ExitCode)} (failed : ∀ x ∈ errors, x.2 ≠ .success)
    (code : r.report.errorCode = firstErrorCode errors) :
    r'.report.errorCode = firstErrorCode (errors ++ Event.errors events) := by
  induction h generalizing errors with
  | nil => simpa [Event.errors] using code
  | @cons r r₁ r₂ e rest step _ ih =>
      have now := step.errorCode_eq
      cases he : e.error? with
      | none =>
          rw [he] at now
          have next := ih failed (now.trans code)
          simpa [Event.errors, he] using next
      | some x =>
          rw [he, code] at now
          have failed' : ∀ y ∈ errors ++ [x], y.2 ≠ .success := by
            intro y hy
            rcases List.mem_append.mp hy with hy | hy
            · exact failed y hy
            · rw [List.mem_singleton.mp hy]
              exact Event.code_of_error? he
          have next := ih failed' (now.trans (firstErrorCode_append_singleton failed x).symm)
          simpa [Event.errors, he, List.append_assoc] using next

/-- Steps change no files. -/
theorem EmittedAll.store_files {policy : CollisionPolicy} {d : Destination}
    (hd : d.leavesFiles = true) {r r' : Run} {events : List Event}
    (h : EmittedAll policy d r events r') : r'.store.files = r.store.files := by
  induction h with
  | nil => rfl
  | cons step _ ih =>
      rw [ih, step.store_eq]
      split
      · cases d with
        | preview => rfl
        | memory => rfl
        | directory root packageMarkers => cases hd
      · rfl

end ProcessStubs
