import ProcessStubs.Proofs.Event
import ProcessStubs.Proofs.Frozen
import ProcessStubs.Proofs.KeyedList
import ProcessStubs.Proofs.ModulePath

/-!
# The ledger of a run into memory

A run keeps what it wrote in three places: the writes that its emissions report, the stub that was
written last for each module, and the modules in memory, each at its path. Within one package the
three always agree, whatever is emitted and whatever fails.

The invariant that carries the proof is `Mirrored`: memory is the image of what was written last,
pair by pair. A step puts a pair in both places, and since the paths of modules tell their targets
apart, it is put in the same place.

## Main results

* `Mirrored.step`: one step keeps memory the image of what was written last.
* `nodup_targets_of_history`: under the policy that rejects, no module is written twice.
* `ledger_emitAll`: the ledger of every run into memory.
-/

namespace ProcessStubs

/-- **The ledger.** What a run into memory remembers and holds, against the writes so far. -/
structure Ledger (policy : CollisionPolicy) (r : Run) (writes : List Write) : Prop where
  /-- Each module is remembered once. -/
  nodup_latest : (Assoc.keys r.latest).Nodup
  /-- The modules that are remembered are those of the writes. -/
  mem_latest : ∀ target, target ∈ Assoc.keys r.latest ↔ ∃ w ∈ writes, w.stub.target = target
  /-- The stub that is remembered for a module is that of the last write for it. -/
  latest_eq : ∀ target, Assoc.get? target r.latest = lastWritten target writes
  /-- Each path is in memory once. -/
  nodup_modules : (Assoc.keys r.store.modules).Nodup
  /-- There are as many texts in memory as modules that are remembered. -/
  length_modules : r.store.modules.length = r.latest.length
  /-- Memory holds the text of each stub that is remembered, at its path, and nothing else. -/
  mem_modules : ∀ path text, (path, text) ∈ r.store.modules ↔
    ∃ target s, Assoc.get? target r.latest = some s ∧
      path = s.relativePath moduleSuffix ∧ text = s.moduleText
  /-- Where collisions are rejected, no two writes are for one module. -/
  written_once : policy = .error → (writes.map (·.stub.target)).Nodup

/-- Where the module of a stub is in memory, and what text it has. -/
def moduleEntry (e : (String × String) × Stub) : Path × String :=
  (e.2.relativePath moduleSuffix, e.2.moduleText)

/-- Memory is the image of what was written last, all of it for usable types of one package. -/
structure Mirrored (package : String) (r : Run) : Prop where
  keyed : ∀ e ∈ r.latest, e.1 = e.2.target
  package_eq : ∀ e ∈ r.latest, e.2.packageName = package
  usable : ∀ e ∈ r.latest, Text.isUsableName e.2.typeName = true
  nodup : (Assoc.keys r.latest).Nodup
  modules_eq : r.store.modules = r.latest.map moduleEntry

/-- A run that has not done anything yet is mirrored by empty memory. -/
theorem Mirrored.start (package : String) (diagnostics : List Diagnostic) (files : FileTree) :
    Mirrored package (.start diagnostics ⟨[], files⟩) := by
  refine ⟨?_, ?_, ?_, .nil, rfl⟩
  all_goals
    intro e he
    cases he

/-- Usable types of one package have one path exactly if they are one module. -/
theorem relativePath_eq_iff_target_eq {s t : Stub} (package : s.packageName = t.packageName)
    (hs : Text.isUsableName s.typeName = true) (ht : Text.isUsableName t.typeName = true) :
    s.relativePath moduleSuffix = t.relativePath moduleSuffix ↔ s.target = t.target := by
  rw [Stub.relativePath_eq_iff_typeName_eq package hs ht]
  simp [Stub.target, package]

/-- **The step lemma of the ledger.** A step for a stub of the package keeps memory the image of
what was written last. -/
theorem Mirrored.step {package : String} {policy : CollisionPolicy} {r r' : Run} {e : Event}
    (h : Mirrored package r) (step : Emitted policy .memory r e r')
    (hp : e.stub.packageName = package) : Mirrored package r' := by
  have latest := step.latest_eq
  have store := step.store_eq
  cases hw : e.write? with
  | none =>
      simp only [hw, Option.isSome_none, Bool.false_eq_true, if_false] at latest store
      exact ⟨latest ▸ h.keyed, latest ▸ h.package_eq, latest ▸ h.usable, latest ▸ h.nodup,
        by rw [store, latest, h.modules_eq]⟩
  | some w =>
      simp only [hw, Option.isSome_some, if_true] at latest store
      have usable : Text.isUsableName e.stub.typeName = true :=
        Stub.isUsableName_of_unusableName?_eq_none (step.outcome.of_write? hw).2.1
      have all {P : (String × String) × Stub → Prop} (new : P (e.stub.target, e.stub))
          (old : ∀ x ∈ r.latest, P x) : ∀ x ∈ r'.latest, P x :=
        latest ▸ Assoc.forall_mem_put new old
      refine ⟨all rfl h.keyed, all hp h.package_eq, all usable h.usable,
        latest ▸ Assoc.nodup_keys_put h.nodup, ?_⟩
      -- The path of a remembered stub is that of the new one exactly if its module is.
      have apart : ∀ x ∈ r.latest,
          (moduleEntry x).1 = (moduleEntry (e.stub.target, e.stub)).1 ↔ x.1 = e.stub.target := by
        intro x hx
        rw [h.keyed x hx]
        exact relativePath_eq_iff_target_eq ((h.package_eq x hx).trans hp.symm)
          (h.usable x hx) usable
      rw [store, latest, Assoc.map_put moduleEntry apart, ← h.modules_eq]
      rfl

/-- Steps for stubs of the package keep memory the image of what was written last. -/
theorem Mirrored.steps {package : String} {policy : CollisionPolicy} {r r' : Run}
    {events : List Event} (steps : EmittedAll policy .memory r events r')
    (h : Mirrored package r) (hp : ∀ e ∈ events, e.stub.packageName = package) :
    Mirrored package r' := by
  induction steps with
  | nil => exact h
  | cons step _ ih =>
      refine ih (h.step step (hp _ List.mem_cons_self)) ?_
      intro e he
      exact hp e (List.mem_cons_of_mem _ he)

/-- Paths in memory are distinct. -/
theorem Mirrored.nodup_modules {package : String} {r : Run} (h : Mirrored package r) :
    (Assoc.keys r.store.modules).Nodup := by
  have paths : Assoc.keys r.store.modules =
      r.latest.map fun e => e.2.relativePath moduleSuffix := by
    rw [h.modules_eq, Assoc.keys, List.map_map]
    rfl
  have distinct := h.nodup
  rw [Assoc.keys, List.Nodup, List.pairwise_map] at distinct
  rw [paths, List.Nodup, List.pairwise_map]
  refine distinct.imp_of_mem ?_
  intro x y hx hy hne heq
  refine hne ?_
  rw [h.keyed x hx, h.keyed y hy]
  exact (relativePath_eq_iff_target_eq ((h.package_eq x hx).trans (h.package_eq y hy).symm)
    (h.usable x hx) (h.usable y hy)).mp heq

/-- What is in memory is the text of a remembered stub at its path. -/
theorem Mirrored.mem_modules {package : String} {r : Run} (h : Mirrored package r) (path : Path)
    (text : String) :
    (path, text) ∈ r.store.modules ↔
      ∃ target s, Assoc.get? target r.latest = some s ∧
        path = s.relativePath moduleSuffix ∧ text = s.moduleText := by
  rw [h.modules_eq, List.mem_map]
  constructor
  · rintro ⟨⟨target, s⟩, hmem, heq⟩
    obtain ⟨rfl, rfl⟩ := Prod.mk.inj heq
    exact ⟨target, s, (Assoc.get?_eq_some_iff h.nodup).mpr hmem, rfl, rfl⟩
  · rintro ⟨target, s, hget, rfl, rfl⟩
    exact ⟨(target, s), (Assoc.get?_eq_some_iff h.nodup).mp hget, rfl⟩

/-- **Nothing is written twice** for one module where collisions are rejected: a stub is only
written if nothing was written for its module before. -/
theorem nodup_targets_of_history {events : List Event} (h : History .error events) :
    ((Event.writes events).map (·.stub.target)).Nodup := by
  induction h using History.induction with
  | nil => exact .nil
  | concat events e _ previous outcome ih =>
      rw [Event.writes_concat, List.map_append]
      cases hw : e.write? with
      | none => simpa using ih
      | some w =>
          obtain ⟨hstub, -, allowed⟩ := outcome.of_write? hw
          have first : e.previous = none := by
            rw [Option.eq_none_iff_forall_not_mem]
            intro p hp
            exact (allowed p hp).2 rfl
          have fresh := lastWritten_eq_none_iff.mp (previous.symm.trans first)
          rw [List.nodup_append]
          refine ⟨ih, by simp, ?_⟩
          intro target hmem target' hmem' heq
          obtain ⟨x, hx, rfl⟩ := List.mem_map.mp hmem
          have last : target' = w.stub.target := by simpa using hmem'
          exact fresh x hx (heq.trans (last.trans (congrArg Stub.target hstub)))

/-- What was written last for a module is known exactly if something was written for it. -/
theorem isSome_lastWritten {target : String × String} {writes : List Write} :
    (lastWritten target writes).isSome ↔ ∃ w ∈ writes, w.stub.target = target := by
  simp [lastWritten]

/-- A mirrored run that follows from a history keeps the ledger of it. -/
theorem Mirrored.ledger {package : String} {policy : CollisionPolicy} {r : Run}
    {events : List Event} (h : Mirrored package r) (history : History policy events)
    (remembers : r.Remembers events) : Ledger policy r (Event.writes events) where
  nodup_latest := h.nodup
  mem_latest := by
    intro target
    rw [← Assoc.isSome_get?, remembers target, isSome_lastWritten]
  latest_eq := remembers
  nodup_modules := h.nodup_modules
  length_modules := by rw [h.modules_eq, List.length_map]
  mem_modules := h.mem_modules
  written_once := by
    rintro rfl
    exact nodup_targets_of_history history

/-- A stub that fails leaves memory and what was written last as they were. -/
theorem Emitted.unchanged_of_failed {policy : CollisionPolicy} {d : Destination} {r r' : Run}
    {e : Event} (h : Emitted policy d r e r') {problem : WriteProblem}
    (failed : e.emission = .failed problem) :
    r'.latest = r.latest ∧ r'.store = r.store ∧ e.write? = none := by
  have hw : e.write? = none := by
    rw [Event.write?, failed]
    rfl
  refine ⟨?_, ?_, hw⟩
  · rw [h.latest_eq, hw]
    rfl
  · rw [h.store_eq, hw]
    rfl

/-- **The ledger of a run into memory**, whatever stubs of the package are emitted in whatever
order. Writes, what was written last, and memory agree, no mistake is made, and a stub that fails
next leaves all three as they are. -/
theorem ledger_emitAll (s : Settings) (policy : CollisionPolicy) (files : FileTree)
    (stubs : List Stub) (package : ∀ u ∈ stubs, u.packageName = s.packageName) :
    let run := Run.emitAll policy .memory (.start s.diagnostics ⟨[], files⟩) stubs
    Ledger policy run.2 (run.1.filterMap Emission.write?) ∧
      (∀ e ∈ run.1, e.mistake? = none) ∧
      ∀ (u : Stub) (problem : WriteProblem),
        (run.2.emit policy .memory u).1 = .failed problem →
          (run.2.emit policy .memory u).2.latest = run.2.latest ∧
          (run.2.emit policy .memory u).2.store = run.2.store ∧
          (Run.emitAll policy .memory (.start s.diagnostics ⟨[], files⟩)
            (stubs ++ [u])).1.filterMap Emission.write? = run.1.filterMap Emission.write? := by
  intro run
  have steps := emittedAll_emitAll policy (d := .memory) rfl
    (.start s.diagnostics ⟨[], files⟩) stubs
  obtain ⟨history, remembers⟩ := steps.history (.nil policy) fun target => rfl
  have mirrored : Mirrored s.packageName run.2 := by
    refine (Mirrored.start s.packageName s.diagnostics files).steps steps ?_
    intro e he
    have hmem : e.stub ∈ stubs := by
      rw [← Run.map_stub_events policy .memory (.start s.diagnostics ⟨[], files⟩) stubs]
      exact List.mem_map_of_mem he
    exact package e.stub hmem
  refine ⟨?_, ?_, ?_⟩
  · rw [Run.filterMap_write?_emitAll]
    exact mirrored.ledger history remembers
  · intro e he
    rw [Run.fst_emitAll] at he
    obtain ⟨event, hevent, rfl⟩ := List.mem_map.mp he
    exact steps.mistake? hevent
  · intro u problem failed
    obtain ⟨latest, store, hw⟩ :=
      (run.2.emitted_emit policy (d := .memory) rfl u).unchanged_of_failed failed
    refine ⟨latest, store, ?_⟩
    have none : ((run.2.emit policy .memory u).1).write? = none := hw
    rw [Run.fst_emitAll_append_singleton, List.filterMap_append, List.filterMap_cons_none none,
      List.filterMap_nil, List.append_nil]

/-- Two processes of one name collide and the second one is rejected, and then one without a name
fails: the ledger stands. -/
theorem ledger_emitAll_rejected_failed :
    let stub := Stub.ofProcess Settings.standard.packageName
      ⟨"bpmngen.runtime", "RuntimeService"⟩ none
    let stubs := [stub "orders" "Orders", stub "others" "Orders"]
    let run :=
      Run.emitAll .error .memory (.start Settings.standard.diagnostics ⟨[], ⟨[], []⟩⟩) stubs
    run.1.map (·.write?.isSome) = [true, false] ∧
      Ledger .error run.2 (run.1.filterMap Emission.write?) ∧
      (run.2.emit .error .memory (stub "none" "0")).2.latest = run.2.latest := by
  intro stub stubs run
  obtain ⟨ledger, -, unchanged⟩ := ledger_emitAll Settings.standard .error ⟨[], []⟩ stubs (by
    intro u hu
    rcases List.mem_cons.mp hu with rfl | hu
    · rfl
    · rw [List.mem_singleton.mp hu]
      rfl)
  have failed : (run.2.emit .error .memory (stub "none" "0")).1 =
      .failed (.unusableName .type "0ProcessService") := by decide +kernel
  exact ⟨by decide +kernel, ledger, (unchanged _ _ failed).1⟩

end ProcessStubs
