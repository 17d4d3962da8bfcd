import ProcessStubs.Report
import ProcessStubs.Settings.Policy
import ProcessStubs.Text.Words

/-!
# Runs

A run writes stubs one after the other and remembers which stub was written last for each module. A
stub whose module is new is written. One that was written last for its module, whatever document it
came from, is skipped. Any other stub for the same module is a collision, and the policy decides.

What becomes of a stub is its *emission*. A stub that cannot be written leaves what was written
before as it is.

Main definitions: `Run.emit` gives the emission of a stub and the run after it, and `Run.emitAll`
those of stubs in order.
-/

namespace ProcessStubs

/-- A stub for a module that was written from a different stub. -/
structure Collision where
  stub : Stub
  previousSource : Option Path
deriving Repr, DecidableEq

/-- The wording of a collision of the stub with a qualified name. -/
def collisionText (qualifiedName : String) (previousSource : Option Path) : String :=
  "'" ++ qualifiedName ++ "' was already generated in this run" ++
    ((previousSource.map fun p => " (first generated from " ++ p.toString ++ ")").getD "")

/-- The wording of a collision. -/
def Collision.message (c : Collision) : String :=
  collisionText c.stub.qualifiedName c.previousSource

/-- How a stub stands to what was written before. -/
inductive Standing where
  | new
  | repeated
  | colliding (collision : Collision)
deriving Repr, DecidableEq

/-- What became of a stub. After a mistake there is no report. -/
inductive Emission where
  | written (write : Write)
  | skipped
  | rejected (collision : Collision)
  | failed (problem : WriteProblem)
  | mistaken (fault : FileFault)
deriving Repr, DecidableEq

/-- The write, if the stub was written. -/
def Emission.write? : Emission → Option Write
  | written w => some w
  | _ => none

/-- The mistake, if one was made. -/
def Emission.mistake? : Emission → Option FileFault
  | mistaken fault => some fault
  | _ => none

/-- The name of a kind of stub. -/
def StubKind.name : StubKind → String
  | service => "service"
  | interface => "interface"

/-- A run: its report, the stub that was written last for each module, what can be changed by
writing, and what has been logged. -/
structure Run where
  report : Report
  latest : List ((String × String) × Stub)
  store : Store
  log : List LogEntry

namespace Run

/-- A run that has not done anything yet. -/
def start (diagnostics : List Diagnostic) (store : Store) : Run :=
  ⟨.start diagnostics, [], store, []⟩

/-- The run with another entry in its log. -/
def note (r : Run) (severity : Severity) (message : String) : Run :=
  { r with log := r.log ++ [⟨severity, message⟩] }

/-- The run with another error in its report. -/
def recordError (r : Run) (message : String) (code : ExitCode) (path : Option Path) : Run :=
  { r with report := r.report.recordError message code path }

/-- The run with another warning in its report. -/
def recordWarning (r : Run) (message : String) (path : Option Path) : Run :=
  { r with report := r.report.recordWarning message path }

/-- The run with what became of another document. -/
def addFile (r : Run) (result : FileResult) : Run :=
  { r with report := r.report.addFile result }

/-- How a stub stands to what was written before. -/
def standing (r : Run) (s : Stub) : Standing :=
  match Assoc.get? s.target r.latest with
  | none => .new
  | some previous =>
    if previous.withoutSource = s.withoutSource then .repeated
    else .colliding ⟨s, previous.source⟩

/-- Writes a stub, whatever was written before. -/
def write (r : Run) (d : Destination) (s : Stub) : Emission × Run :=
  match d.write r.store s with
  | (.ok w, store) =>
    (.written w,
      { r with
        latest := Assoc.put s.target s r.latest
        store := store
        log := r.log ++ [⟨.info, Text.capitalized w.status.name ++ " " ++ s.qualifiedName ++
          " -> " ++ w.path.toString⟩] })
  | (.error problem, store) =>
    let r := { r with store := store }
    match problem.mistake? with
    | some fault => (.mistaken fault, r)
    | none =>
      let message := s.writeFailure problem.message
      (.failed problem,
        (r.note .error ("Failed to write generated " ++ s.kind.name ++ ": " ++ message)).recordError
          message .writeError s.source)

/-- Writes a stub unless it was written before or the policy rejects it. -/
def emit (r : Run) (policy : CollisionPolicy) (d : Destination) (s : Stub) : Emission × Run :=
  match r.standing s with
  | .new => r.write d s
  | .repeated => (.skipped, r)
  | .colliding c =>
    match policy with
    | .error =>
      (.rejected c, (r.note .error c.message).recordError c.message .collisionError s.source)
    | .warn =>
      ((r.note .warning (c.message ++ "; overwriting")).recordWarning
        (c.message ++ "; overwritten") s.source).write d s
    | .overwrite => r.write d s

/-- Writes stubs in order. -/
def emitAll (policy : CollisionPolicy) (d : Destination) (r : Run) :
    List Stub → List Emission × Run
  | [] => ([], r)
  | s :: rest =>
    let (e, r) := r.emit policy d s
    let (es, r) := emitAll policy d r rest
    (e :: es, r)

/-- Every stub has one emission. -/
theorem length_emitAll (policy : CollisionPolicy) (d : Destination) (r : Run) (l : List Stub) :
    (emitAll policy d r l).1.length = l.length := by
  induction l generalizing r with
  | nil => rfl
  | cons s rest ih => simp [emitAll, ih]

end Run

end ProcessStubs
