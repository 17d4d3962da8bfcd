import ProcessStubs.Proofs.Event

/-!
# Where the policies differ

A collision is written over under two of the policies, of which one warns of it, and rejected under
the third. So a run that warns and one that does not take the same steps: whatever is decided later
depends on what was written last for each module, and the warnings are no part of that. A run that
rejects takes the same steps until the first collision, and then goes its own way.

## Main results

* `Run.diagnostics_emitAll`: what a run tells is what its events tell, to every destination.
* `Run.InStep.emitAll`: a run that warns and one that does not stay in step.
* `Run.emitAll_error_eq`: without a collision, rejecting is the same as warning.
* `Run.policies_emitAll`: all of it together.
-/

namespace ProcessStubs

/-! ### What an event tells -/

namespace Event

/-- The warnings of collisions among events. -/
def warnings (l : List Event) : List Diagnostic :=
  l.flatMap fun e => collisionWarnings .warn e.previous e.stub

/-- Only one policy is to warn. -/
theorem collisionWarnings_of_ne {policy : CollisionPolicy} (h : policy ≠ .warn)
    (previous : Option Stub) (u : Stub) : collisionWarnings policy previous u = [] := by
  cases previous with
  | none => rfl
  | some p => exact if_neg fun both => h both.1

/-- The warnings among the diagnostics of an event are those of its collision. -/
theorem filter_warning_diagnostics (e : Event) :
    (e.diagnostics .warn).filter (·.severity = .warning) =
      collisionWarnings .warn e.previous e.stub := by
  have kept : (collisionWarnings .warn e.previous e.stub).filter (·.severity = .warning) =
      collisionWarnings .warn e.previous e.stub := by
    rw [List.filter_eq_self]
    intro x hx
    simp [severity_of_mem_collisionWarnings hx]
  have left : (e.error?.map Prod.fst).toList.filter (·.severity = .warning) = [] := by
    cases he : e.error? with
    | none => rfl
    | some x => simp [severity_of_error? he]
  rw [diagnostics, List.filter_append, kept, left, List.append_nil]

/-- Without its warning, an event tells what it tells where nobody is warned. -/
theorem filter_other_diagnostics (e : Event) :
    (e.diagnostics .warn).filter (·.severity ≠ .warning) = e.diagnostics .overwrite := by
  have left : (collisionWarnings .warn e.previous e.stub).filter (·.severity ≠ .warning) = [] := by
    rw [List.filter_eq_nil_iff]
    intro x hx
    simp [severity_of_mem_collisionWarnings hx]
  have kept : (e.error?.map Prod.fst).toList.filter (·.severity ≠ .warning) =
      (e.error?.map Prod.fst).toList := by
    cases he : e.error? with
    | none => rfl
    | some x => simp [severity_of_error? he]
  rw [diagnostics, diagnostics, List.filter_append, left, kept,
    collisionWarnings_of_ne (by decide)]

end Event

namespace Run

variable {d : Destination} {r r' : Run}

/-- A stub that is written, or cannot be, tells no more than its error. -/
theorem diagnostics_write (d : Destination) (r : Run) (u : Stub) (previous : Option Stub) :
    (r.write d u).2.report.diagnostics =
      r.report.diagnostics ++
        ((Event.error? ⟨u, previous, (r.write d u).1⟩).map Prod.fst).toList := by
  rw [write]
  split
  · simp [Event.error?]
  · dsimp only
    split
    · simp [Event.error?]
    · rfl

/-- **What a step tells** is what its event tells, to every destination. -/
theorem diagnostics_emit (policy : CollisionPolicy) (d : Destination) (r : Run) (u : Stub) :
    (r.emit policy d u).2.report.diagnostics =
      r.report.diagnostics ++ (r.event policy d u).diagnostics policy := by
  rw [event, Event.diagnostics]
  dsimp only
  rw [emit, standing]
  cases previous : Assoc.get? u.target r.latest with
  | none => exact diagnostics_write d r u none
  | some p =>
      by_cases same : p.withoutSource = u.withoutSource
      · simp [same, collisionWarnings, Event.error?]
      · simp only [same, if_false]
        cases policy with
        | error => simp [collisionWarnings, Event.error?, recordError, note, Report.recordError]
        | warn =>
            dsimp only
            rw [diagnostics_write d _ u (some p), recordWarning, Report.recordWarning, note]
            simp [collisionWarnings, same]
        | overwrite => simpa [collisionWarnings] using diagnostics_write d r u (some p)

/-- **What a run tells** is what its events tell, in order. -/
theorem diagnostics_emitAll (policy : CollisionPolicy) (d : Destination) (r : Run)
    (stubs : List Stub) :
    (emitAll policy d r stubs).2.report.diagnostics =
      r.report.diagnostics ++ (r.events policy d stubs).flatMap (Event.diagnostics policy) := by
  induction stubs generalizing r with
  | nil => simp [emitAll, events]
  | cons u rest ih =>
      rw [emitAll, events, List.flatMap_cons, ← List.append_assoc, ← diagnostics_emit]
      exact ih _

/-! ### Warning or not -/

/-- **Runs in step**: they differ at most in what they tell. -/
structure InStep (r r' : Run) : Prop where
  latest_eq : r'.latest = r.latest
  store_eq : r'.store = r.store
  files_eq : r'.report.files = r.report.files
  errorCode_eq : r'.report.errorCode = r.report.errorCode

/-- A run is in step with itself. -/
theorem InStep.refl (r : Run) : InStep r r := ⟨rfl, rfl, rfl, rfl⟩

/-- **Writing a stub** keeps runs in step. -/
theorem InStep.write (h : InStep r r') (u : Stub) :
    (r'.write d u).1 = (r.write d u).1 ∧ InStep (r.write d u).2 (r'.write d u).2 := by
  rw [Run.write, Run.write, h.store_eq, h.latest_eq]
  rcases d.write r.store u with ⟨problem | w, store⟩
  · dsimp only
    split
    · exact ⟨rfl, rfl, rfl, h.files_eq, h.errorCode_eq⟩
    · refine ⟨rfl, rfl, rfl, h.files_eq, ?_⟩
      simp only [recordError, note, Report.recordError, h.errorCode_eq]
  · exact ⟨rfl, rfl, rfl, h.files_eq, h.errorCode_eq⟩

/-- **Emitting a stub** with a warning, and without one, keeps runs in step. -/
theorem InStep.emit (h : InStep r r') (u : Stub) :
    (r'.emit .overwrite d u).1 = (r.emit .warn d u).1 ∧
      InStep (r.emit .warn d u).2 (r'.emit .overwrite d u).2 := by
  have standing := standing_congr h.latest_eq u
  rw [Run.emit, Run.emit, standing]
  cases r.standing u with
  | new => exact h.write u
  | repeated => exact ⟨rfl, h⟩
  | colliding c =>
      have noted : InStep ((r.note .warning (c.message ++ "; overwriting")).recordWarning
          (c.message ++ "; overwritten") u.source) r' :=
        ⟨h.latest_eq, h.store_eq, h.files_eq, h.errorCode_eq⟩
      exact noted.write u

/-- **Stubs that are emitted in order**, with warnings and without, keep runs in step, and their
events are the same. -/
theorem InStep.emitAll (h : InStep r r') (d : Destination) (stubs : List Stub) :
    r'.events .overwrite d stubs = r.events .warn d stubs ∧
      InStep (Run.emitAll .warn d r stubs).2 (Run.emitAll .overwrite d r' stubs).2 := by
  induction stubs generalizing r r' with
  | nil => exact ⟨rfl, h⟩
  | cons u rest ih =>
      obtain ⟨emission, on⟩ := h.emit (d := d) u
      obtain ⟨later, done⟩ := ih on
      have first : r'.event .overwrite d u = r.event .warn d u := by
        rw [event, event, emission, h.latest_eq]
      exact ⟨by rw [events, events, first, later], done⟩

/-! ### Rejecting -/

/-- Where no collision is warned of, rejecting is the same as warning. -/
theorem emit_error_eq {u : Stub}
    (none : collisionWarnings .warn (r.event .warn d u).previous u = []) :
    r.emit .error d u = r.emit .warn d u := by
  rw [event] at none
  rw [emit, emit, standing]
  cases previous : Assoc.get? u.target r.latest with
  | none => rfl
  | some p =>
      by_cases same : p.withoutSource = u.withoutSource
      · simp [same]
      · rw [previous] at none
        simp [collisionWarnings, same] at none

/-- **A run without a collision** is the same whether collisions are rejected or warned of. -/
theorem emitAll_error_eq {stubs : List Stub}
    (none : Event.warnings (r.events .warn d stubs) = []) :
    emitAll .error d r stubs = emitAll .warn d r stubs := by
  induction stubs generalizing r with
  | nil => rfl
  | cons u rest ih =>
      obtain ⟨first, later⟩ := List.append_eq_nil_iff.mp (List.flatMap_cons.symm.trans none)
      rw [emitAll, emitAll, emit_error_eq first]
      simp only [ih later]

/-- **The policies differ only in collisions**, whatever stubs are emitted, from any state and to
any destination. A run that does not warn writes and reports the same as one that does, and tells
the same but for the warnings; and if there are none, a run that rejects is the same run. -/
theorem policies_emitAll (d : Destination) (r : Run) (stubs : List Stub) :
    let warning := emitAll .warn d r stubs
    let silent := emitAll .overwrite d r stubs
    let collisions := Event.warnings (r.events .warn d stubs)
    silent.1 = warning.1 ∧ silent.2.store = warning.2.store ∧
      silent.2.report.errorCode = warning.2.report.errorCode ∧
      (∃ added, warning.2.report.diagnostics = r.report.diagnostics ++ added ∧
        added.filter (·.severity = .warning) = collisions ∧
        silent.2.report.diagnostics =
          r.report.diagnostics ++ added.filter (·.severity ≠ .warning) ∧
        silent.2.report.diagnostics.filter (·.severity = .error) =
          warning.2.report.diagnostics.filter (·.severity = .error)) ∧
      (collisions = [] → emitAll .error d r stubs = warning) := by
  intro warning silent collisions
  obtain ⟨same, done⟩ := (InStep.refl r).emitAll d stubs
  have told : warning.2.report.diagnostics =
      r.report.diagnostics ++ (r.events .warn d stubs).flatMap (Event.diagnostics .warn) :=
    diagnostics_emitAll .warn d r stubs
  have silence : ((r.events .warn d stubs).flatMap (Event.diagnostics .warn)).filter
      (·.severity ≠ .warning) =
        (r.events .warn d stubs).flatMap (Event.diagnostics .overwrite) := by
    rw [List.filter_flatMap]
    simp only [Event.filter_other_diagnostics]
  have untold : silent.2.report.diagnostics = r.report.diagnostics ++
      ((r.events .warn d stubs).flatMap (Event.diagnostics .warn)).filter
        (·.severity ≠ .warning) := by
    rw [silence, ← same]
    exact diagnostics_emitAll .overwrite d r stubs
  refine ⟨?_, done.store_eq, done.errorCode_eq, ⟨_, told, ?_, untold, ?_⟩, emitAll_error_eq⟩
  · rw [fst_emitAll, fst_emitAll, same]
  · rw [List.filter_flatMap]
    simp only [Event.filter_warning_diagnostics]
    rfl
  · rw [told, untold, List.filter_append, List.filter_append, List.filter_filter]
    congr 1
    refine List.filter_congr fun x _ => ?_
    cases x.severity <;> rfl

end Run

end ProcessStubs
