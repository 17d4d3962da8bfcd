import ProcessStubs.Proofs.Foretold

/-!
# Warnings of what is overwritten

A run that warns of collisions tells that a module is overwritten before it tries to write it. The
course of a run keeps this order: it is the list of what the run tells and of what it writes, deed
by deed, each of them a change from one state of the run to the next.

The course has the form of a `Chronicle`: a write that replaces a different stub stands right after
its warning, and a warning right before the write that it is about. The one exception is a stub that
collides and has an operation whose name cannot be used. Its warning stands as well, and what
follows is the error that it cannot be written; nothing is overwritten then. Chronicles collect
these stubs, so warnings and replacements agree exactly if there are none.

## Main results

* `Run.Course.trans`, `Chronicle.append`: courses and chronicles, one after the other.
* `Run.stretch_emit`, `Run.stretch_emitAll`: the course of one stub, and of stubs in order.
* `Chronicle.warnings_eq_iff`: warnings are replacements exactly if no stub was missed.
* `Run.chronicle_ofDocuments`: the chronicle of every run over documents into memory.
-/

namespace ProcessStubs

open Text

/-- What a run does that its report shows: it tells something, or it writes a module. -/
inductive Deed where
  | tell (x : Diagnostic)
  | write (w : Write)

namespace Deed

/-- What is told, if the deed is that. -/
def tell? : Deed → Option Diagnostic
  | tell x => some x
  | write _ => none

/-- What is written, if the deed is that. -/
def write? : Deed → Option Write
  | tell _ => none
  | write w => some w

/-- All that is told, in order. -/
def tellings (l : List Deed) : List Diagnostic := l.filterMap tell?

/-- All that is written, in order. -/
def writes (l : List Deed) : List Write := l.filterMap write?

/-- The warnings among what is told. -/
def warnings (l : List Deed) : List Diagnostic := (tellings l).filter (·.severity = .warning)

variable (l l' : List Deed)

/-- Nothing is told without deeds. -/
@[simp] theorem tellings_nil : tellings [] = [] := rfl

/-- Nothing is written without deeds. -/
@[simp] theorem writes_nil : writes [] = [] := rfl

/-- What is told before other deeds. -/
@[simp] theorem tellings_tell (x : Diagnostic) : tellings (tell x :: l) = x :: tellings l := rfl

/-- A write tells nothing. -/
@[simp] theorem tellings_write (w : Write) : tellings (write w :: l) = tellings l := rfl

/-- What is written before other deeds. -/
@[simp] theorem writes_write (w : Write) : writes (write w :: l) = w :: writes l := rfl

/-- What is told is not written. -/
@[simp] theorem writes_tell (x : Diagnostic) : writes (tell x :: l) = writes l := rfl

/-- What is written one after the other. -/
theorem writes_append : writes (l ++ l') = writes l ++ writes l' := List.filterMap_append

/-- A write warns of nothing. -/
@[simp] theorem warnings_write (w : Write) : warnings (write w :: l) = warnings l := rfl

/-- An error is no warning. -/
theorem warnings_error {x : Diagnostic} (h : x.severity = .error) :
    warnings (tell x :: l) = warnings l := by
  simp [warnings, h]

end Deed

/-! ### Courses -/

namespace Run

/-- **The course of a run** from one state to another: its deeds, one after the other. Between them
only the log grows, and documents are closed. -/
inductive Course (d : Destination) : Run → List Deed → Run → Prop
  | refl (r : Run) : Course d r [] r
  | quiet {r r' r'' : Run} {l : List Deed} :
      r'.latest = r.latest → r'.store = r.store → r'.report.diagnostics = r.report.diagnostics →
      Course d r' l r'' → Course d r l r''
  | tell {r r' r'' : Run} {x : Diagnostic} {l : List Deed} :
      r'.latest = r.latest → r'.store = r.store →
      r'.report.diagnostics = r.report.diagnostics ++ [x] →
      Course d r' l r'' → Course d r (.tell x :: l) r''
  | write {r r' r'' : Run} {w : Write} {l : List Deed} :
      r.write d w.stub = (.written w, r') → Course d r' l r'' → Course d r (.write w :: l) r''

variable {d : Destination} {r r' r'' : Run} {l l' : List Deed}

/-- Courses, one after the other. -/
theorem Course.trans (h : Course d r l r') (h' : Course d r' l' r'') :
    Course d r (l ++ l') r'' := by
  induction h with
  | refl => exact h'
  | quiet latest store diagnostics _ ih => exact .quiet latest store diagnostics (ih h')
  | tell latest store diagnostics _ ih => exact .tell latest store diagnostics (ih h')
  | write written _ ih => exact .write written (ih h')

/-- A document that is closed is no deed. -/
theorem Course.addFile (d : Destination) (r : Run) (f : FileResult) : Course d r [] (r.addFile f) :=
  .quiet (show (r.addFile f).latest = r.latest from rfl) rfl rfl (.refl _)

/-- An entry in the log is no deed. -/
theorem Course.note (d : Destination) (r : Run) (severity : Severity) (message : String) :
    Course d r [] (r.note severity message) :=
  .quiet (show (r.note severity message).latest = r.latest from rfl) rfl rfl (.refl _)

/-- An error is told when it is recorded. -/
theorem Course.error (d : Destination) (r : Run) (message : String) (code : ExitCode)
    (path : Option Path) (log : List LogEntry) :
    Course d r [.tell ⟨.error, message, path⟩]
      { r with report := r.report.recordError message code path, log := log } :=
  .tell (show Run.latest { r with report := r.report.recordError message code path, log := log } =
    r.latest from rfl) rfl rfl (.refl _)

/-- A stub that is written is the last one of its module, and the report is as before. -/
theorem latest_of_write {w : Write} {u : Stub} (h : r.write d u = (.written w, r')) :
    r'.latest = Assoc.put u.target u r.latest ∧ r'.report = r.report := by
  rw [Run.write] at h
  split at h
  · cases h
    exact ⟨rfl, rfl⟩
  · dsimp only at h
    split at h
    · cases h
    · cases h

/-- **What a course tells** is added to the diagnostics. -/
theorem Course.diagnostics (h : Course d r l r') :
    r'.report.diagnostics = r.report.diagnostics ++ Deed.tellings l := by
  induction h with
  | refl => simp
  | quiet _ _ diagnostics _ ih => rw [ih, diagnostics]
  | tell _ _ diagnostics _ ih => simp [ih, diagnostics]
  | write written _ ih =>
      rw [ih, (latest_of_write written).2, Deed.tellings_write]

/-- A run has in mind what was written last for each module. -/
def RemembersWrites (r : Run) (past : List Write) : Prop :=
  ∀ target, Assoc.get? target r.latest = lastWritten target past

/-- **What a course writes** is kept in mind. -/
theorem Course.remembersWrites {past : List Write} (h : Course d r l r')
    (hr : r.RemembersWrites past) : r'.RemembersWrites (past ++ Deed.writes l) := by
  induction h generalizing past with
  | refl => simpa using hr
  | quiet latest _ _ _ ih => exact ih fun target => by rw [latest, hr]
  | tell latest _ _ _ ih => exact ih fun target => by rw [latest, hr]
  | @write r r₁ r₂ w l written _ ih =>
      have step : r₁.RemembersWrites (past ++ [w]) := by
        intro target
        rw [(latest_of_write written).1]
        exact get?_put_eq_lastWritten hr w target
      have later := ih step
      rwa [List.append_assoc] at later

end Run

/-! ### Chronicles -/

/-- The collision of a stub with what was written: the last write for its module was for a different
stub. -/
def collisionAfter (past : List Write) (u : Stub) : Option Collision :=
  match lastWritten u.target past with
  | some p => if p.withoutSource = u.withoutSource then none else some ⟨u, p.source⟩
  | none => none

/-- Such a warning is one of the warnings. -/
@[simp] theorem Deed.warnings_overwriteWarning (c : Collision) (l : List Deed) :
    warnings (tell (overwriteWarning c) :: l) = overwriteWarning c :: warnings l := rfl

/-- The collisions of writes with those before them: each is a write that replaced a different
stub. -/
def replacements (past : List Write) : List Write → List Collision
  | [] => []
  | w :: rest => (collisionAfter past w.stub).toList ++ replacements (past ++ [w]) rest

/-- A write that replaces nothing is no collision. -/
theorem replacements_of_none {past : List Write} {w : Write}
    (h : collisionAfter past w.stub = none) (rest : List Write) :
    replacements past (w :: rest) = replacements (past ++ [w]) rest := by
  rw [replacements, h]
  rfl

/-- The collision of the first write is the first one. -/
theorem replacements_of_some {past : List Write} {w : Write} {c : Collision}
    (h : collisionAfter past w.stub = some c) (rest : List Write) :
    replacements past (w :: rest) = c :: replacements (past ++ [w]) rest := by
  rw [replacements, h]
  rfl

/-- Writes for different modules replace nothing. -/
theorem replacements_of_nodup {past l : List Write}
    (distinct : (((past ++ l).map Write.stub).map Stub.target).Nodup) :
    replacements past l = [] := by
  induction l generalizing past with
  | nil => rfl
  | cons w rest ih =>
      have new : lastWritten w.stub.target past = none := by
        refine lastWritten_eq_none_iff.mpr fun v hv same => ?_
        rw [List.map_append, List.map_append] at distinct
        exact (List.nodup_append.mp distinct).2.2 _ (List.mem_map_of_mem (List.mem_map_of_mem hv)) _
          List.mem_cons_self same
      rw [replacements_of_none (by rw [collisionAfter, new])]
      exact ih (by simpa using distinct)

/-- **The chronicle of a run** that warns, after what was written before. A write that replaces
nothing stands alone, and one that replaces a different stub right after its warning. The stubs
that were warned of and not written are collected: right after the warning of such a stub stands
the error that the name of one of its operations cannot be used. -/
inductive Chronicle : List Write → List Deed → List Stub → Prop
  | nil (past : List Write) : Chronicle past [] []
  | error {past : List Write} {x : Diagnostic} {l : List Deed} {missed : List Stub} :
      x.severity = .error → Chronicle past l missed → Chronicle past (.tell x :: l) missed
  | fresh {past : List Write} {w : Write} {l : List Deed} {missed : List Stub} :
      collisionAfter past w.stub = none → Chronicle (past ++ [w]) l missed →
      Chronicle past (.write w :: l) missed
  | replaced {past : List Write} {w : Write} {c : Collision} {l : List Deed}
      {missed : List Stub} :
      collisionAfter past w.stub = some c → Chronicle (past ++ [w]) l missed →
      Chronicle past (.tell (overwriteWarning c) :: .write w :: l) missed
  | missed {past : List Write} {u : Stub} {c : Collision} {name : String} {l : List Deed}
      {missed : List Stub} :
      collisionAfter past u = some c →
      u.unusableName? = some (.unusableName .operation name) → Chronicle past l missed →
      Chronicle past (.tell (overwriteWarning c) ::
        .tell (writeError u (.unusableName .operation name)) :: l) (u :: missed)

/-- Chronicles, one after the other. -/
theorem Chronicle.append {past : List Write} {l l' : List Deed} {missed missed' : List Stub}
    (h : Chronicle past l missed) (h' : Chronicle (past ++ Deed.writes l) l' missed') :
    Chronicle past (l ++ l') (missed ++ missed') := by
  induction h with
  | nil => simpa using h'
  | error severity _ ih => exact .error severity (ih h')
  | fresh new _ ih =>
      refine .fresh new (ih ?_)
      rwa [List.append_assoc]
  | replaced colliding _ ih =>
      refine .replaced colliding (ih ?_)
      rwa [List.append_assoc]
  | missed colliding unusable _ ih => exact .missed colliding unusable (ih h')

/-- Each replacement of a chronicle has its warning, in the same order. -/
theorem Chronicle.sublist_warnings {past : List Write} {l : List Deed} {missed : List Stub}
    (h : Chronicle past l missed) :
    ((replacements past (Deed.writes l)).map overwriteWarning).Sublist (Deed.warnings l) := by
  induction h with
  | nil => exact .slnil
  | error severity _ ih => rwa [Deed.warnings_error _ severity, Deed.writes_tell]
  | fresh new _ ih => rwa [Deed.warnings_write, Deed.writes_write, replacements_of_none new]
  | replaced colliding _ ih =>
      rw [Deed.warnings_overwriteWarning, Deed.warnings_write, Deed.writes_tell, Deed.writes_write,
        replacements_of_some colliding, List.map_cons]
      exact ih.cons_cons _
  | missed _ _ _ ih =>
      rw [Deed.warnings_overwriteWarning, Deed.warnings_error _ rfl, Deed.writes_tell,
        Deed.writes_tell]
      exact ih.cons _

/-- There are as many warnings as replacements and missed stubs. -/
theorem Chronicle.length_warnings {past : List Write} {l : List Deed} {missed : List Stub}
    (h : Chronicle past l missed) :
    (Deed.warnings l).length = (replacements past (Deed.writes l)).length + missed.length := by
  induction h with
  | nil => rfl
  | error severity _ ih => rwa [Deed.warnings_error _ severity, Deed.writes_tell]
  | fresh new _ ih => rwa [Deed.warnings_write, Deed.writes_write, replacements_of_none new]
  | replaced colliding _ ih =>
      rw [Deed.warnings_overwriteWarning, Deed.warnings_write, Deed.writes_tell, Deed.writes_write,
        replacements_of_some colliding, List.length_cons, List.length_cons, ih]
      omega
  | missed _ _ _ ih =>
      rw [Deed.warnings_overwriteWarning, Deed.warnings_error _ rfl, Deed.writes_tell,
        Deed.writes_tell, List.length_cons, List.length_cons, ih]
      omega

/-- **Warnings are replacements**, one for one and in order, exactly if no stub was missed. -/
theorem Chronicle.warnings_eq_iff {past : List Write} {l : List Deed} {missed : List Stub}
    (h : Chronicle past l missed) :
    Deed.warnings l = (replacements past (Deed.writes l)).map overwriteWarning ↔ missed = [] := by
  have length := h.length_warnings
  constructor
  · intro eq
    rw [eq, List.length_map] at length
    exact List.length_eq_zero_iff.mp (by omega)
  · rintro rfl
    refine (h.sublist_warnings.eq_of_length ?_).symm
    rw [List.length_map, length]
    rfl

/-! ### Runs that warn -/

namespace Run

variable {d : Destination} {r r' r'' : Run} {l l' : List Deed} {past : List Write}
  {missed missed' : List Stub}

/-- **A run after what was written before**: it has this in mind, and all of it was for types with
usable names. -/
structure Follows (past : List Write) (r : Run) : Prop where
  remembers : r.RemembersWrites past
  usable : ∀ w ∈ past, isUsableName w.stub.typeName = true

/-- Nothing was written before a run. -/
theorem Follows.start (diagnostics : List Diagnostic) (store : Store) :
    Follows [] (.start diagnostics store) where
  remembers := fun _ => rfl
  usable := by simp

/-- A stub collides with what was written exactly if the run finds that it does. -/
theorem Follows.collisionAfter_eq (h : Follows past r) (u : Stub) :
    collisionAfter past u =
      match r.standing u with
      | .colliding c => some c
      | _ => none := by
  rw [standing, h.remembers u.target, collisionAfter]
  cases lastWritten u.target past with
  | none => rfl
  | some p => by_cases same : p.withoutSource = u.withoutSource <;> simp [same]

/-- The collision that a run finds is that of the stub. -/
theorem stub_of_colliding {u : Stub} {c : Collision} (h : r.standing u = .colliding c) :
    c.stub = u := by
  rw [standing] at h
  split at h
  · cases h
  · split at h
    · cases h
    · cases h
      rfl

/-- A stub that collides has the name of a type that was written, so what cannot be used is the name
of one of its operations. -/
theorem Follows.operation_of_collision (h : Follows past r) {u : Stub} {c : Collision}
    (colliding : collisionAfter past u = some c) {problem : WriteProblem}
    (unusable : u.unusableName? = some problem) :
    ∃ name, problem = .unusableName .operation name := by
  have last : ∃ p, lastWritten u.target past = some p := by
    rw [collisionAfter] at colliding
    split at colliding
    · next p hp => exact ⟨p, hp⟩
    · cases colliding
  obtain ⟨p, hp⟩ := last
  obtain ⟨w, hw, rfl⟩ := Option.map_eq_some_iff.mp hp
  have target : w.stub.target = u.target := target_of_lastWritten hp
  have typeName : w.stub.typeName = u.typeName := congrArg Prod.snd target
  have type := h.usable w (List.mem_reverse.mp (List.mem_of_find?_eq_some hw))
  rw [typeName] at type
  rw [Stub.unusableName?, type] at unusable
  obtain ⟨o, -, rfl⟩ := Option.map_eq_some_iff.mp unusable
  exact ⟨o.name, rfl⟩

/-- **A stretch of a run that warns**, after what was written before: its course is a chronicle, and
it writes types with usable names. -/
structure Stretch (d : Destination) (past : List Write) (r : Run) (l : List Deed)
    (missed : List Stub) (r' : Run) : Prop where
  course : Course d r l r'
  chronicle : Chronicle past l missed
  usable : ∀ w ∈ Deed.writes l, isUsableName w.stub.typeName = true

/-- After a stretch, a run follows what was written before and in the stretch. -/
theorem Stretch.follows (h : Stretch d past r l missed r') (before : Follows past r) :
    Follows (past ++ Deed.writes l) r' where
  remembers := h.course.remembersWrites before.remembers
  usable := by
    intro w hw
    rcases List.mem_append.mp hw with hw | hw
    · exact before.usable w hw
    · exact h.usable w hw

/-- Stretches, one after the other. -/
theorem Stretch.trans (h : Stretch d past r l missed r')
    (h' : Stretch d (past ++ Deed.writes l) r' l' missed' r'') :
    Stretch d past r (l ++ l') (missed ++ missed') r'' where
  course := h.course.trans h'.course
  chronicle := h.chronicle.append h'.chronicle
  usable := by
    intro w hw
    rw [Deed.writes_append] at hw
    rcases List.mem_append.mp hw with hw | hw
    · exact h.usable w hw
    · exact h'.usable w hw

/-! ### One stub -/

/-- A stub whose names can be used is written. -/
theorem course_write_of_usable (hd : d.leavesFiles = true) (r : Run) {u : Stub}
    (usable : u.unusableName? = none) :
    ∃ w, w.stub = u ∧ (r.write d u).1 = .written w ∧ Course d r [.write w] (r.write d u).2 := by
  obtain ⟨w, rfl, written⟩ := r.write_of_usable hd usable
  have emission : (r.write d w.stub).1 = .written w := congrArg Prod.fst written
  exact ⟨w, rfl, emission, .write (Prod.ext emission rfl) (.refl _)⟩

/-- Of a stub with an unusable name it is told that it cannot be written. -/
theorem course_write_of_unusable (d : Destination) (r : Run) {u : Stub} {problem : WriteProblem}
    (unusable : u.unusableName? = some problem) :
    (r.write d u).1 = .failed problem ∧
      Course d r [.tell (writeError u problem)] (r.write d u).2 := by
  have failed := r.write_of_unusable d unusable
  have course := Course.error d r (u.writeFailure problem.message) .writeError u.source
    (r.write d u).2.log
  have after : (r.write d u).2 = { r with
      report := r.report.recordError (u.writeFailure problem.message) .writeError u.source
      log := (r.write d u).2.log } := congrArg Prod.snd failed
  rw [← after] at course
  exact ⟨congrArg Prod.fst failed, course⟩

/-- The course of a stub whose module is new. -/
theorem stretch_write (hd : d.leavesFiles = true) (past : List Write) (r : Run) {u : Stub}
    (fresh : collisionAfter past u = none) :
    ∃ l, Stretch d past r l [] (r.write d u).2 ∧
      Deed.writes l = (r.write d u).1.write?.toList := by
  cases names : u.unusableName? with
  | none =>
      obtain ⟨w, rfl, emission, course⟩ := course_write_of_usable hd r names
      refine ⟨_, ⟨course, .fresh fresh (.nil _), ?_⟩, ?_⟩
      · simpa using Stub.isUsableName_of_unusableName?_eq_none names
      · simp [emission, Emission.write?]
  | some problem =>
      obtain ⟨emission, course⟩ := course_write_of_unusable d r names
      refine ⟨_, ⟨course, .error rfl (.nil _), ?_⟩, ?_⟩
      · simp
      · simp [emission, Emission.write?]

/-- The course of a stub that collides: the warning stands in the report before the write is
tried. -/
theorem stretch_warned (hd : d.leavesFiles = true) (before : Follows past r) {c : Collision}
    (collision : collisionAfter past c.stub = some c) (log : List LogEntry) :
    let warned := { r.recordWarning (c.message ++ "; overwritten") c.stub.source with log := log }
    ∃ l missed, Stretch d past r l missed (warned.write d c.stub).2 ∧
      Deed.writes l = (warned.write d c.stub).1.write?.toList ∧ missed.Sublist [c.stub] := by
  intro warned
  have warning {l : List Deed} {r' : Run} (later : Course d warned l r') :
      Course d r (.tell (overwriteWarning c) :: l) r' :=
    .tell (show warned.latest = r.latest from rfl) rfl rfl later
  cases names : c.stub.unusableName? with
  | none =>
      obtain ⟨w, same, emission, course⟩ := course_write_of_usable hd warned names
      rw [← same] at collision names
      refine ⟨_, [], ⟨warning course, .replaced collision (.nil _), ?_⟩, ?_, List.nil_sublist _⟩
      · simpa using Stub.isUsableName_of_unusableName?_eq_none names
      · simp [emission, Emission.write?]
  | some problem =>
      obtain ⟨name, rfl⟩ := before.operation_of_collision collision names
      obtain ⟨emission, course⟩ := course_write_of_unusable d warned names
      refine ⟨_, [c.stub], ⟨warning course, .missed collision names (.nil _), ?_⟩, ?_,
        List.Sublist.refl _⟩
      · simp
      · simp [emission, Emission.write?]

/-- **The course of one stub** of a run that warns. -/
theorem stretch_emit (hd : d.leavesFiles = true) (before : Follows past r) (u : Stub) :
    ∃ l missed, Stretch d past r l missed (r.emit .warn d u).2 ∧
      Deed.writes l = (r.emit .warn d u).1.write?.toList ∧ missed.Sublist [u] := by
  have collision := before.collisionAfter_eq u
  rw [emit]
  cases standing : r.standing u with
  | new =>
      rw [standing] at collision
      obtain ⟨l, stretch, wrote⟩ := stretch_write hd past r collision
      exact ⟨l, [], stretch, wrote, List.nil_sublist _⟩
  | repeated =>
      exact ⟨[], [], ⟨.refl r, .nil _, by simp⟩, rfl, List.nil_sublist _⟩
  | colliding c =>
      rw [standing] at collision
      obtain rfl := stub_of_colliding standing
      exact stretch_warned hd before collision _

/-! ### Stubs and documents -/

/-- **The course of stubs** that are emitted in order by a run that warns. -/
theorem stretch_emitAll (hd : d.leavesFiles = true) (before : Follows past r)
    (stubs : List Stub) :
    ∃ l missed, Stretch d past r l missed (emitAll .warn d r stubs).2 ∧
      Deed.writes l = (emitAll .warn d r stubs).1.filterMap Emission.write? ∧
      missed.Sublist stubs := by
  induction stubs generalizing r past with
  | nil => exact ⟨[], [], ⟨.refl r, .nil _, by simp⟩, rfl, .slnil⟩
  | cons u rest ih =>
      obtain ⟨l, missed, first, wrote, among⟩ := stretch_emit hd before u
      obtain ⟨l', missed', later, wrote', among'⟩ := ih (first.follows before)
      refine ⟨l ++ l', missed ++ missed', first.trans later, ?_, among.append among'⟩
      rw [Deed.writes_append, wrote, wrote', emitAll]
      cases written : (r.emit .warn d u).1.write? with
      | none => exact (List.filterMap_cons_none written).symm
      | some w => exact (List.filterMap_cons_some written).symm

variable {s : Settings}

/-- **The course of one document** of a run that warns. -/
theorem stretch_addDocument {runtime : RuntimeReference}
    (hr : runtimeOf s.runtimeService = .ok runtime) (warns : s.collisionPolicy = .warn)
    (hd : d.leavesFiles = true) (before : Follows past r) {p : Path}
    (possible : p.hasZero = false) :
    ∃ r' f l missed, addDocument s d r p = .ok r' ∧ Stretch d past r l missed r' ∧
      r'.report.files = r.report.files ++ [f] ∧ f.writes = Deed.writes l ∧
      missed.Sublist f.stubs := by
  cases read : ProcessDocument.ofFile r.store.files p with
  | error fault =>
      obtain ⟨log, added⟩ := addDocument_unread (s := s) (d := d) possible read
      have course := (Course.addFile d r ⟨p, .unread fault⟩).trans
        (.error d _ fault.message .parseError (some p) log)
      exact ⟨_, _, _, [], added, ⟨course, .error rfl (.nil _), by simp⟩, rfl, rfl,
        List.nil_sublist _⟩
  | ok document =>
      have hs := Settings.stubsOf_eq hr document
      obtain ⟨noted, hnoted, added⟩ := addDocument_read hd read hs
      have latest : noted.latest = r.latest := by rw [hnoted]
      have store : noted.store = r.store := by rw [hnoted]
      have report : noted.report = r.report := by rw [hnoted]
      have before' : Follows past noted :=
        ⟨fun target => by rw [latest, before.remembers], before.usable⟩
      obtain ⟨l, missed, stretch, wrote, among⟩ :=
        stretch_emitAll hd before' (Stub.ofDocument s.packageName runtime document)
      have files := (emittedAll_emitAll .warn hd noted
        (Stub.ofDocument s.packageName runtime document)).files
      let f : FileResult := ⟨p, .read (Stub.ofDocument s.packageName runtime document)
        (Event.writes (noted.events .warn d (Stub.ofDocument s.packageName runtime document)))⟩
      have course := Course.quiet latest store (congrArg Report.diagnostics report)
        (stretch.course.trans (.addFile d _ f))
      rw [List.append_nil] at course
      rw [warns] at added
      refine ⟨_, f, l, missed, added, ⟨course, stretch.chronicle, stretch.usable⟩, ?_, ?_, among⟩
      · rw [addFile, Report.addFile, files, report]
      · rw [wrote, filterMap_write?_emitAll]
        rfl

/-- **The course of documents** of a run that warns, in order. -/
theorem stretch_foldlM {runtime : RuntimeReference}
    (hr : runtimeOf s.runtimeService = .ok runtime) (warns : s.collisionPolicy = .warn)
    (hd : d.leavesFiles = true) (before : Follows past r) {paths : List Path}
    (possible : ∀ p ∈ paths, p.hasZero = false) :
    ∃ r' files l missed, paths.foldlM (addDocument s d) r = .ok r' ∧
      Stretch d past r l missed r' ∧ r'.report.files = r.report.files ++ files ∧
      files.flatMap FileResult.writes = Deed.writes l ∧
      missed.Sublist (files.flatMap FileResult.stubs) := by
  induction paths generalizing r past with
  | nil =>
      exact ⟨r, [], [], [], rfl, ⟨.refl r, .nil _, by simp⟩, (List.append_nil _).symm, rfl, .slnil⟩
  | cons p rest ih =>
      obtain ⟨r₁, f, l, missed, step, first, closed, wrote, among⟩ :=
        stretch_addDocument hr warns hd before (possible p List.mem_cons_self)
      obtain ⟨r₂, files, l', missed', steps, later, closed', wrote', among'⟩ :=
        ih (first.follows before) fun q hq => possible q (List.mem_cons_of_mem _ hq)
      refine ⟨r₂, f :: files, l ++ l', missed ++ missed', ?_, first.trans later, ?_, ?_, ?_⟩
      · rw [List.foldlM_cons, step]
        exact steps
      · rw [closed', closed, List.append_assoc]
        rfl
      · rw [List.flatMap_cons, wrote, wrote', Deed.writes_append]
      · rw [List.flatMap_cons]
        exact among.append among'

/-! ### Runs over documents -/

/-- Where something can be at each path, a run that warns ends, and it has a course. -/
theorem stretch_ofDocuments {draft : Draft} {tree : FileTree} (frozen : draft.freeze tree = .ok s)
    (warns : s.collisionPolicy = .warn) (hd : d.leavesFiles = true) (store : Store)
    {paths : List Path} (possible : ∀ p ∈ paths, p.hasZero = false) :
    ∃ ended l missed, ofDocuments s d store paths = .ok ended ∧
      Stretch d [] (.start s.diagnostics store) l missed ended ∧
      ended.report.writes = Deed.writes l ∧ missed.Sublist ended.report.stubs := by
  obtain ⟨-, runtime, hr⟩ := Draft.freeze_ok frozen
  obtain ⟨r, files, l, missed, run, stretch, closed, wrote, among⟩ :=
    stretch_foldlM hr warns hd (.start s.diagnostics store) possible
  have course := stretch.course.trans (.note d r .info (summary r.report))
  rw [List.append_nil] at course
  have files_eq : (r.note .info (summary r.report)).report.files = files := closed
  refine ⟨r.note .info (summary r.report), l, missed, ?_,
    ⟨course, stretch.chronicle, stretch.usable⟩, ?_, ?_⟩
  · rw [ofDocuments, run]
    rfl
  · rw [Report.writes, files_eq, wrote]
  · rw [Report.stubs, files_eq]
    exact among

/-- **The chronicle of a run that warns** of collisions, with frozen settings and to a destination
that leaves files. It ends with a report if something can be at each path. Whenever it does, its
course from the start is the list of all that it tells and writes; a warning of what is overwritten
stands right before the write that replaces a different stub for the same module, and such a write
right after its warning. The exception is a stub that collides and has an operation whose name
cannot be used: it is one of the stubs of the documents, warned of and then reported as an error.
Warnings and replacements agree, one for one and in order, exactly if there is no such stub. -/
theorem chronicle_ofDocuments {draft : Draft} {tree : FileTree}
    (frozen : draft.freeze tree = .ok s) (warns : s.collisionPolicy = .warn)
    (hd : d.leavesFiles = true) (store : Store) (paths : List Path) :
    ((∀ p ∈ paths, p.hasZero = false) → ∃ ended, ofDocuments s d store paths = .ok ended) ∧
      ∀ ended, ofDocuments s d store paths = .ok ended →
        ∃ l missed, Course d (.start s.diagnostics store) l ended ∧
          ended.report.diagnostics = s.diagnostics ++ Deed.tellings l ∧
          ended.report.writes = Deed.writes l ∧ Chronicle [] l missed ∧
          missed.Sublist ended.report.stubs ∧
          (Deed.warnings l = (replacements [] ended.report.writes).map overwriteWarning ↔
            missed = []) := by
  constructor
  · intro possible
    obtain ⟨ended, l, missed, run, -⟩ := stretch_ofDocuments frozen warns hd store possible
    exact ⟨ended, run⟩
  · intro ended run
    obtain ⟨ended', l, missed, run', stretch, wrote, among⟩ :=
      stretch_ofDocuments frozen warns hd store (possible_of_ofDocuments frozen hd run)
    rw [run] at run'
    cases run'
    rw [wrote]
    exact ⟨l, missed, stretch.course, stretch.course.diagnostics, rfl, stretch.chronicle, among,
      stretch.chronicle.warnings_eq_iff⟩

/-- A run over the document whose stubs collide, which it reads twice. Each time it warns of the
second interface and then fails to write it. -/
theorem chronicle_ofDocuments_clashing :
    let collision : Collision := ⟨mailerInterface "class", some solePath⟩
    let failure := writeError collision.stub (.unusableName .operation "class")
    (Draft.meeting .warn).freeze clashingTree = .ok (clashingSettings .warn) ∧
      (clashingSettings .warn).collisionPolicy = .warn ∧ Destination.memory.leavesFiles = true ∧
      (∀ p ∈ [solePath, solePath, absentPath], p.hasZero = false) ∧
      ∃ ended l missed, ofDocuments (clashingSettings .warn) .memory ⟨[], clashingTree⟩
          [solePath, solePath, absentPath] = .ok ended ∧
        Course .memory (.start [] ⟨[], clashingTree⟩) l ended ∧ Chronicle [] l missed ∧
        Deed.tellings l =
          [overwriteWarning collision, failure, overwriteWarning collision, failure, absentError] ∧
        (Deed.writes l).map Write.stub = clashingStubs.take 2 ∧
        replacements [] (Deed.writes l) = [] ∧ missed.length = 2 := by
  intro collision failure
  have frozen := Draft.freeze_meeting .warn clashingTree
  obtain ⟨ends, chronicle⟩ := chronicle_ofDocuments frozen rfl (d := .memory) rfl
    ⟨[], clashingTree⟩ [solePath, solePath, absentPath]
  obtain ⟨ended, run⟩ := ends hasZero_clashing
  obtain ⟨l, missed, course, told, wrote, chronicle, -⟩ := chronicle ended run
  obtain ⟨entries, accounts⟩ := accounts_of_run frozen rfl _ run
  obtain ⟨-, told', -, wrote'⟩ := accounts.clashing
  have tellings : Deed.tellings l =
      [overwriteWarning collision, failure, overwriteWarning collision, failure, absentError] :=
    told.symm.trans (told'.trans (by decide +kernel))
  have stubs : (Deed.writes l).map Write.stub = clashingStubs.take 2 := by
    rw [← wrote, wrote']
    decide +kernel
  have distinct : replacements [] (Deed.writes l) = [] := by
    refine replacements_of_nodup ?_
    rw [List.nil_append, stubs]
    decide +kernel
  have length := chronicle.length_warnings
  rw [distinct, Deed.warnings, tellings] at length
  exact ⟨frozen, rfl, rfl, hasZero_clashing, ended, l, missed, run, course, chronicle, tellings, stubs,
    distinct, by simpa [overwriteWarning, failure, writeError, absentError] using length.symm⟩

/-! ### A warning without a replacement -/

/-- **A warning without a replacement**: the run over the document ends with the warning that the
interface of the bean was overwritten and the error that it was not, and the interface that was
written is the first one. -/
theorem not_warnings_eq_replacements_class :
    Draft.empty.freeze clashingTree = .ok Settings.standard ∧
      Settings.standard.collisionPolicy = .warn ∧
      ∃ ended, ofDocuments Settings.standard .memory ⟨[], clashingTree⟩ [solePath] = .ok ended ∧
        ended.report.diagnostics =
          [overwriteWarning ⟨mailerInterface "class", some solePath⟩,
            writeError (mailerInterface "class") (.unusableName .operation "class")] ∧
        ended.report.writes.map Write.stub = clashingStubs.take 2 ∧
        replacements [] ended.report.writes = [] := by
  obtain ⟨read, made⟩ := stubsOf_clashingDocument (s := Settings.standard) rfl rfl
  have possible : ∀ p ∈ [solePath], p.hasZero = false := by simp [solePath, Path.hasZero]
  obtain ⟨ended, entries, run, accounts⟩ :=
    exists_accounts (d := .memory) Draft.freeze_empty rfl ⟨[], clashingTree⟩ possible
  obtain ⟨x, rfl, hx⟩ := List.map_eq_singleton_iff.mp accounts.paths_eq
  obtain ⟨events, rfl, hevents⟩ :=
    (accounts.faithful x (List.mem_singleton_self _)).exists_events hx read made
  have history : History .warn events := by
    have all : History .warn _ := accounts.history
    simpa [Entry.events] using all
  obtain ⟨told, -, wrote⟩ := history.unique
    (history_events .warn (d := .memory) rfl [] ⟨[], clashingTree⟩ clashingStubs)
    (by rw [hevents, map_stub_events])
  have diagnostics : ended.report.diagnostics = events.flatMap (Event.diagnostics .warn) :=
    accounts.diagnostics_eq.trans (List.append_nil _)
  have writes : ended.report.writes = Event.writes events := by
    rw [Report.writes, accounts.files_eq]
    exact List.append_nil _
  have stubs : ended.report.writes.map Write.stub = clashingStubs.take 2 := by
    rw [writes, wrote]
    decide +kernel
  refine ⟨Draft.freeze_empty, rfl, ended, run, ?_, stubs, replacements_of_nodup ?_⟩
  · rw [diagnostics, told]
    decide +kernel
  · rw [List.nil_append, stubs]
    decide +kernel

end Run

end ProcessStubs
