import ProcessStubs.Proofs.Isolation

/-!
# Runs in lockstep

Two runs over the same documents, to different destinations or over different files, go in lockstep
if each stub has the same turn in both. What decides a turn is what was written last for each module
and whether the stub can be written; where a module goes, what is there already, and how much is
written does not count for what comes next. Why a stub cannot be written may be told in two ways
that count as near to each other.

## Main definitions

* `Attempt`, `Emission.Matches`: the same became of a stub, at corresponding paths.
* `Report.Matches`: two reports that say the same but for the statuses of writes and for problems
  that are near to each other, and `Report.Agrees` where no two problems are.
* `Run.Lockstep`: two runs that have the same in mind and have reported the same.

## Main results

* `Run.Lockstep.emit`: runs stay in lockstep over a stub that can be written alike in both.
* `Run.Lockstep.emitAll`: runs stay in lockstep over stubs whose turns go alike.
* `Run.Lockstep.addDocument`: runs stay in lockstep over a document that reads the same in both.
-/

namespace ProcessStubs

/-- Outcomes that agree in one way agree in each weaker one. -/
theorem Alike.mono {ε α β : Type} {related related' : α → β → Prop} {x : Except ε α}
    {y : Except ε β} (h : Alike related x y) (weaker : ∀ a b, related a b → related' a b) :
    Alike related' x y := by
  cases h with
  | ok hab => exact .ok (weaker _ _ hab)
  | error fault => exact .error fault

/-- Where the first outcome is a result, the second one is a related result. -/
theorem Alike.exists_of_ok_left {ε α β : Type} {related : α → β → Prop} {y : Except ε β} {a : α}
    (h : Alike related (.ok a) y) : ∃ b, y = .ok b ∧ related a b := by
  cases h with
  | ok hab => exact ⟨_, rfl, hab⟩

/-- Where the second outcome is a result, the first one is a related result. -/
theorem Alike.exists_of_ok {ε α β : Type} {related : α → β → Prop} {x : Except ε α} {b : β}
    (h : Alike related x (.ok b)) : ∃ a, x = .ok a ∧ related a b := by
  cases h with
  | ok hab => exact ⟨_, rfl, hab⟩

/-- Where the second outcome is a fault, the first one is the same. -/
theorem Alike.eq_error {ε α β : Type} {related : α → β → Prop} {x : Except ε α} {fault : ε}
    (h : Alike related x (.error fault)) : x = (.error fault : Except ε α) := by
  cases h
  rfl

/-- Steps for the members of a list keep a relation if each step does at its turn, after the second
steps for the members before it. -/
theorem Alike.foldlM_of_turns {ε α β γ : Type} {related : α → β → Prop} {f : α → γ → Except ε α}
    {g : β → γ → Except ε β} {l : List γ} {a : α} {b : β} (h : related a b)
    (turn : ∀ before c after a' b', l = before ++ c :: after → before.foldlM g b = .ok b' →
      related a' b' → Alike related (f a' c) (g b' c)) :
    Alike related (l.foldlM f a) (l.foldlM g b) := by
  induction l generalizing a b with
  | nil => exact .ok h
  | cons c rest ih =>
      have first := turn [] c rest a b rfl rfl h
      rw [List.foldlM_cons, List.foldlM_cons]
      cases second : g b c with
      | error fault =>
          rw [second] at first
          rw [first.eq_error]
          exact .error fault
      | ok b' =>
          rw [second] at first
          obtain ⟨a', one, related'⟩ := first.exists_of_ok
          rw [one]
          refine ih related' ?_
          intro before c' after a'' b'' split walked
          refine turn (c :: before) c' after a'' b'' (by rw [split, List.cons_append]) ?_
          rw [List.foldlM_cons, second]
          exact walked

variable {wrote : Write → Write → Prop} {near : WriteProblem → WriteProblem → Prop}

/-- No two problems are near to each other. -/
def NoneNear (_ _ : WriteProblem) : Prop := False

/-- **Writes that match**: the same stub was written to corresponding paths. -/
structure Write.Matches (place : Path → Path) (w w' : Write) : Prop where
  stub : w'.stub = w.stub
  path : w'.path = place w.path

/-- **Attempts to write a stub that match**: the stub was written in ways that `wrote` relates, or
it was not, because of the same problem or of problems that are near to each other and no
mistakes. -/
inductive Attempt (wrote : Write → Write → Prop) (near : WriteProblem → WriteProblem → Prop) :
    Except WriteProblem Write → Except WriteProblem Write → Prop
  | ok {w w' : Write} : wrote w w' → Attempt wrote near (.ok w) (.ok w')
  | error (problem : WriteProblem) : Attempt wrote near (.error problem) (.error problem)
  | near {problem problem' : WriteProblem} : near problem problem' → problem.mistake? = none →
      problem'.mistake? = none → Attempt wrote near (.error problem) (.error problem')

/-- **Emissions that match**: a stub was written in both, it was not because of problems that are
near to each other, or the same else became of it. -/
inductive Emission.Matches (wrote : Write → Write → Prop)
    (near : WriteProblem → WriteProblem → Prop) :
    Emission → Emission → Prop
  | written {w w' : Write} : wrote w w' → Matches wrote near (.written w) (.written w')
  | failed {problem problem' : WriteProblem} : near problem problem' →
      Matches wrote near (.failed problem) (.failed problem')
  | same {e : Emission} : e.write? = none → Matches wrote near e e

/-- **Diagnostics that match**: they are the same, or say that a stub cannot be written because of
problems that are near to each other. -/
inductive Diagnostic.Matches (near : WriteProblem → WriteProblem → Prop) :
    Diagnostic → Diagnostic → Prop
  | same (d : Diagnostic) : Matches near d d
  | failed {problem problem' : WriteProblem} (u : Stub) : near problem problem' →
      Matches near ⟨.error, u.writeFailure problem.message, u.source⟩
        ⟨.error, u.writeFailure problem'.message, u.source⟩

/-- **Results of a document that match**: it was read in both or in neither, for the same reason, it
gave the same stubs, and what was written of them matches. -/
structure FileResult.Matches (wrote : Write → Write → Prop) (x x' : FileResult) : Prop where
  path : x'.path = x.path
  fault? : x'.fault? = x.fault?
  stubs : x'.stubs = x.stubs
  writes : List.Forall₂ wrote x.writes x'.writes

/-- **Reports that match**: document by document, and in their diagnostics and their exit code. -/
structure Report.Matches (wrote : Write → Write → Prop) (near : WriteProblem → WriteProblem → Prop)
    (r r' : Report) : Prop where
  files : List.Forall₂ (FileResult.Matches wrote) r.files r'.files
  diagnostics : List.Forall₂ (Diagnostic.Matches near) r.diagnostics r'.diagnostics
  errorCode : r'.errorCode = r.errorCode

/-- **Reports that agree**: they match, with the same stubs written to corresponding paths, and
their diagnostics are the same. -/
structure Report.Agrees (place : Path → Path) (r r' : Report) : Prop where
  files : List.Forall₂ (FileResult.Matches (Write.Matches place)) r.files r'.files
  diagnostics : r'.diagnostics = r.diagnostics
  errorCode : r'.errorCode = r.errorCode

/-- Emissions that match have writes that match. -/
theorem Emission.Matches.writes {es es' : List Emission}
    (h : List.Forall₂ (Emission.Matches wrote near) es es') :
    List.Forall₂ wrote (es.filterMap Emission.write?)
      (es'.filterMap Emission.write?) := by
  induction h with
  | nil => exact .nil
  | cons first _ ih =>
      cases first with
      | written hw => exact .cons hw ih
      | failed => exact ih
      | same none => simpa [none] using ih

/-- Emissions that match make the same mistakes. -/
theorem Emission.Matches.mistakes {es es' : List Emission}
    (h : List.Forall₂ (Emission.Matches wrote near) es es') :
    es'.findSome? Emission.mistake? = es.findSome? Emission.mistake? := by
  induction h with
  | nil => rfl
  | cons first _ ih =>
      cases first with
      | written hw => simpa [List.findSome?_cons, Emission.mistake?] using ih
      | failed => simpa [List.findSome?_cons, Emission.mistake?] using ih
      | same none => simp only [List.findSome?_cons, ih]

namespace Report.Matches

variable {r r' : Report}

/-- A report matches itself. -/
theorem refl (same : ∀ w, wrote w w) (r : Report) : r.Matches wrote near r where
  files := List.forall₂_same.mpr fun _ _ => ⟨rfl, rfl, rfl, List.forall₂_same.mpr fun w _ => same w⟩
  diagnostics := List.forall₂_same.mpr fun d _ => .same d
  errorCode := rfl

/-- Reports match in the beginning. -/
theorem start (wrote : Write → Write → Prop) (near : WriteProblem → WriteProblem → Prop)
    (diagnostics : List Diagnostic) :
    (Report.start diagnostics).Matches wrote near (Report.start diagnostics) :=
  ⟨.nil, List.forall₂_same.mpr fun d _ => .same d, rfl⟩

/-- Errors that match keep reports matching. -/
theorem recordError (h : r.Matches wrote near r') {message message' : String} {code : ExitCode}
    {path : Option Path}
    (told : Diagnostic.Matches near ⟨.error, message, path⟩ ⟨.error, message', path⟩) :
    (r.recordError message code path).Matches wrote near (r'.recordError message' code path) where
  files := h.files
  diagnostics := List.rel_append h.diagnostics (.cons told .nil)
  errorCode := by rw [Report.recordError, Report.recordError, h.errorCode]

/-- The same warning keeps reports matching. -/
theorem recordWarning (h : r.Matches wrote near r') (message : String) (path : Option Path) :
    (r.recordWarning message path).Matches wrote near (r'.recordWarning message path) where
  files := h.files
  diagnostics := List.rel_append h.diagnostics (.cons (.same _) .nil)
  errorCode := h.errorCode

/-- Results that match keep reports matching. -/
theorem addFile (h : r.Matches wrote near r') {x x' : FileResult} (hx : x.Matches wrote x') :
    (r.addFile x).Matches wrote near (r'.addFile x') where
  files := List.rel_append h.files (.cons hx .nil)
  diagnostics := h.diagnostics
  errorCode := h.errorCode

/-- Reports that match have writes that match. -/
theorem writes (h : r.Matches wrote near r') : List.Forall₂ wrote r.writes r'.writes := by
  have told := h.files
  rw [Report.writes, Report.writes]
  generalize r.files = files, r'.files = files' at told
  induction told with
  | nil => exact .nil
  | cons first _ ih => exact List.rel_append first.writes ih

/-- Where only a problem itself is near to it, reports that match have the same diagnostics. -/
theorem diagnostics_eq (h : r.Matches wrote near r')
    (same : ∀ problem problem', near problem problem' → problem' = problem) :
    r'.diagnostics = r.diagnostics := by
  have told : List.Forall₂ (· = ·) r'.diagnostics r.diagnostics := by
    refine List.Forall₂.imp (fun d d' told => ?_) h.diagnostics.flip
    cases told with
    | same => rfl
    | failed _ close => rw [same _ _ close]
  exact List.forall₂_eq_eq_eq ▸ told

/-- Reports agree if they match and no problems are near to each other. -/
theorem agrees {place : Path → Path} (h : r.Matches (Write.Matches place) NoneNear r') :
    r.Agrees place r' where
  files := h.files
  diagnostics := h.diagnostics_eq fun _ _ close => close.elim
  errorCode := h.errorCode

end Report.Matches

namespace Run

variable {s : Settings} {d d' : Destination} {policy : CollisionPolicy} {r r' : Run} {u : Stub}

/-- **Runs in lockstep**: they have the same in mind, and their reports match. -/
structure Lockstep (wrote : Write → Write → Prop) (near : WriteProblem → WriteProblem → Prop)
    (r r' : Run) :
    Prop where
  latest_eq : r'.latest = r.latest
  report : r.report.Matches wrote near r'.report

/-- What becomes of a stub that is written is a matter of the store alone. -/
theorem fst_write_congr (h : r.store = r'.store) : (r.write d u).1 = (r'.write d u).1 := by
  rw [Run.write, Run.write, h]
  rcases d.write r'.store u with ⟨problem | w, store⟩
  · dsimp only
    split <;> rfl
  · rfl

namespace Lockstep

/-- The log and the store are no matter of the lockstep. -/
theorem leave (h : Lockstep wrote near r r') (store store' : Store) (log log' : List LogEntry) :
    Lockstep wrote near { r with store := store, log := log }
      { r' with store := store', log := log' } :=
  ⟨h.latest_eq, h.report⟩

/-- **Writing a stub** that can be written alike keeps runs in lockstep. -/
theorem write (h : Lockstep wrote near r r')
    (alike : Attempt wrote near (d.write r.store u).1 (d'.write r'.store u).1) :
    (r.write d u).1.Matches wrote near (r'.write d' u).1 ∧
      Lockstep wrote near (r.write d u).2 (r'.write d' u).2 := by
  rw [Run.write, Run.write]
  generalize d.write r.store u = done at alike ⊢
  generalize d'.write r'.store u = done' at alike ⊢
  obtain ⟨result, store⟩ := done
  obtain ⟨result', store'⟩ := done'
  cases alike with
  | ok hw => exact ⟨.written hw, congrArg (Assoc.put u.target u) h.latest_eq, h.report⟩
  | error problem =>
      dsimp only
      split
      · exact ⟨.same rfl, h.leave _ _ _ _⟩
      · exact ⟨.same rfl, h.latest_eq, h.report.recordError (.same _)⟩
  | near close own own' =>
      simp only [own, own']
      exact ⟨.failed close, h.latest_eq, h.report.recordError (.failed u close)⟩

/-- **Emitting a stub** that can be written alike, if it comes to that, keeps runs in lockstep. -/
theorem emit (h : Lockstep wrote near r r')
    (alike : (r'.emit policy d' u).1 = (r'.write d' u).1 →
      Attempt wrote near (d.write r.store u).1 (d'.write r'.store u).1) :
    (r.emit policy d u).1.Matches wrote near (r'.emit policy d' u).1 ∧
      Lockstep wrote near (r.emit policy d u).2 (r'.emit policy d' u).2 := by
  have standing := standing_congr h.latest_eq u
  rw [Run.emit, standing] at alike
  rw [Run.emit, Run.emit, standing]
  cases hs : r.standing u with
  | new =>
      rw [hs] at alike
      exact h.write (alike rfl)
  | repeated => exact ⟨.same rfl, h⟩
  | colliding c =>
      rw [hs] at alike
      cases policy with
      | error => exact ⟨.same rfl, h.latest_eq, h.report.recordError (.same _)⟩
      | overwrite => exact h.write (alike rfl)
      | warn =>
          -- The warning that comes first changes neither the store nor what is written.
          have warned : Lockstep wrote near
              ((r.note .warning (c.message ++ "; overwriting")).recordWarning
                (c.message ++ "; overwritten") u.source)
              ((r'.note .warning (c.message ++ "; overwriting")).recordWarning
                (c.message ++ "; overwritten") u.source) :=
            ⟨h.latest_eq, h.report.recordWarning _ _⟩
          exact warned.write (alike (fst_write_congr rfl))

end Lockstep

/-- Stubs that come after others are emitted from where those have led. -/
theorem emitAll_append (policy : CollisionPolicy) (d : Destination) (r : Run)
    (before after : List Stub) :
    emitAll policy d r (before ++ after) =
      ((emitAll policy d r before).1 ++ (emitAll policy d (emitAll policy d r before).2 after).1,
        (emitAll policy d (emitAll policy d r before).2 after).2) := by
  induction before generalizing r with
  | nil => rfl
  | cons u rest ih => simp only [List.cons_append, emitAll, ih]

/-- What becomes of a stub when its turn comes is one of the emissions. -/
theorem emit_mem_emitAll (policy : CollisionPolicy) (d : Destination) (r : Run)
    (before after : List Stub) (u : Stub) :
    ((emitAll policy d r before).2.emit policy d u).1 ∈
      (emitAll policy d r (before ++ u :: after)).1 := by
  rw [emitAll_append, emitAll]
  exact List.mem_append_right _ List.mem_cons_self

/-- **What was done alike** with the stubs of a document: their emissions match, the runs are still
in lockstep, and what they have left is still related. -/
structure DoneAlike (wrote : Write → Write → Prop) (near : WriteProblem → WriteProblem → Prop)
    (related : Store → Store → Prop) (done done' : List Emission × Run) : Prop where
  emissions : List.Forall₂ (Emission.Matches wrote near) done.1 done'.1
  lockstep : Lockstep wrote near done.2 done'.2
  related : related done.2.store done'.2.store

/-- **A turn that goes alike** in two runs: the stub can be written alike if it comes to that, and
what is left is related. -/
structure TurnAlike (wrote : Write → Write → Prop) (near : WriteProblem → WriteProblem → Prop)
    (related : Store → Store → Prop) (policy : CollisionPolicy) (d d' : Destination) (u : Stub)
    (r r' : Run) : Prop where
  attempt : (r'.emit policy d' u).1 = (r'.write d' u).1 →
    Attempt wrote near (d.write r.store u).1 (d'.write r'.store u).1
  related : related (r.emit policy d u).2.store (r'.emit policy d' u).2.store

variable {related : Store → Store → Prop}

/-- What was done alike with the stubs of a document is reported alike. -/
theorem DoneAlike.finishDocument {done done' : List Emission × Run}
    (h : DoneAlike wrote near related done done') (p : Path) (stubs : List Stub) :
    Alike (fun a a' => Lockstep wrote near a a' ∧ related a.store a'.store)
      (Run.finishDocument p stubs done) (Run.finishDocument p stubs done') := by
  rw [Run.finishDocument, Run.finishDocument, Emission.Matches.mistakes h.emissions]
  split
  · exact .error _
  · have result : FileResult.Matches wrote
        ⟨p, .read stubs (done.1.filterMap Emission.write?)⟩
        ⟨p, .read stubs (done'.1.filterMap Emission.write?)⟩ :=
      ⟨rfl, rfl, rfl, Emission.Matches.writes h.emissions⟩
    exact .ok ⟨⟨h.lockstep.latest_eq, h.lockstep.report.addFile result⟩, h.related⟩

namespace Lockstep

/-- **Emitting stubs in order** keeps runs in lockstep if each turn goes alike, after the turns of
the stubs before it in the second run. -/
theorem emitAll (h : Lockstep wrote near r r') (stores : related r.store r'.store)
    (stubs : List Stub)
    (turns : ∀ before u after a, stubs = before ++ u :: after →
      Lockstep wrote near a (Run.emitAll policy d' r' before).2 →
      related a.store (Run.emitAll policy d' r' before).2.store →
      TurnAlike wrote near related policy d d' u a (Run.emitAll policy d' r' before).2) :
    DoneAlike wrote near related (Run.emitAll policy d r stubs)
      (Run.emitAll policy d' r' stubs) := by
  induction stubs generalizing r r' with
  | nil => exact ⟨.nil, h, stores⟩
  | cons u rest ih =>
      have turn := turns [] u rest r rfl h stores
      obtain ⟨emission, on⟩ := h.emit turn.attempt
      have done := ih on turn.related fun before v after a split =>
        turns (u :: before) v after a (congrArg (u :: ·) split)
      exact ⟨.cons emission done.emissions, done.lockstep, done.related⟩

/-- **A document** that reads the same keeps runs in lockstep if its stubs are emitted alike. -/
theorem addDocument (related : Store → Store → Prop) (h : Lockstep wrote near r r')
    (stores : related r.store r'.store) {p : Path}
    (read : ProcessDocument.ofFile r'.store.files p = ProcessDocument.ofFile r.store.files p)
    (emitted : ∀ document stubs log log',
      ProcessDocument.ofFile r.store.files p = .ok document → s.stubsOf document = .ok stubs →
      Run.addDocument s d' r' p = finishDocument p stubs
        (Run.emitAll s.collisionPolicy d' { r' with log := log' } stubs) →
      DoneAlike wrote near related (Run.emitAll s.collisionPolicy d { r with log := log } stubs)
        (Run.emitAll s.collisionPolicy d' { r' with log := log' } stubs)) :
    Alike (fun a a' => Lockstep wrote near a a' ∧ related a.store a'.store)
      (Run.addDocument s d r p) (Run.addDocument s d' r' p) := by
  cases first : ProcessDocument.ofFile r.store.files p with
  | error fault =>
      have second := read.trans first
      cases own : fault.mistake? with
      | some mistake =>
          rw [Run.addDocument, Run.addDocument]
          simp only [store_note, first, second, own]
          exact .error _
      | none =>
          obtain ⟨log, added⟩ := addDocument_of_unread (s := s) (d := d) own first
          obtain ⟨log', added'⟩ := addDocument_of_unread (s := s) (d := d') own second
          rw [added, added']
          have result : FileResult.Matches wrote ⟨p, .unread fault⟩ ⟨p, .unread fault⟩ :=
            ⟨rfl, rfl, rfl, .nil⟩
          exact .ok ⟨⟨h.latest_eq, (h.report.addFile result).recordError (.same _)⟩, stores⟩
  | ok document =>
      have second := read.trans first
      cases hstubs : s.stubsOf document with
      | error fault =>
          rw [Run.addDocument, Run.addDocument]
          simp only [store_note, first, second, hstubs]
          exact .error _
      | ok stubs =>
          obtain ⟨log, added⟩ := addDocument_of_stubs (d := d) first hstubs
          obtain ⟨log', added'⟩ := addDocument_of_stubs (d := d') second hstubs
          have done := emitted document stubs log log' first hstubs added'
          rw [added, added']
          exact done.finishDocument p stubs

end Lockstep

end Run

end ProcessStubs
