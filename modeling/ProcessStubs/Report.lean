import ProcessStubs.Destination
import ProcessStubs.Diagnostic
import ProcessStubs.Document.Read
import ProcessStubs.ExitCode

/-!
# Reports

A report tells what became of each document of a run, what went wrong, and how the run went: its
exit code is that of the first error.

Main statement: an error leaves an exit code that stands for a failure as it is
(`recordError_errorCode_of_failed`).
-/

namespace ProcessStubs

/-- What became of a document: it could not be read, or it gave stubs, of which some were
written. -/
inductive FileOutcome where
  | unread (fault : DocumentFault)
  | read (stubs : List Stub) (writes : List Write)
deriving Repr, DecidableEq

/-- What became of the document at a path. -/
structure FileResult where
  path : Path
  outcome : FileOutcome
deriving Repr, DecidableEq

namespace FileResult

/-- The stubs of a document. -/
def stubs (r : FileResult) : List Stub :=
  match r.outcome with
  | .read stubs _ => stubs
  | .unread _ => []

/-- The stubs of a document that were written. -/
def writes (r : FileResult) : List Write :=
  match r.outcome with
  | .read _ writes => writes
  | .unread _ => []

/-- Why a document could not be read. -/
def fault? (r : FileResult) : Option DocumentFault :=
  match r.outcome with
  | .read _ _ => none
  | .unread fault => some fault

/-- How it is said that a document could not be read. -/
def failure? (r : FileResult) : Option String :=
  r.fault?.map fun f => parseFailure (some r.path) f.message

end FileResult

/-- The outcome of a run. -/
structure Report where
  files : List FileResult
  diagnostics : List Diagnostic
  errorCode : Option ExitCode
deriving Repr, DecidableEq

namespace Report

/-- The report of a run that has not done anything yet. -/
def start (diagnostics : List Diagnostic) : Report := ⟨[], diagnostics, none⟩

/-- The exit code after another error: the first one that stands for a failure stays. -/
def firstCode (current : Option ExitCode) (next : ExitCode) : ExitCode :=
  match current with
  | none | some .success => next
  | some code => code

/-- The report with another error. -/
def recordError (r : Report) (message : String) (code : ExitCode) (path : Option Path) : Report :=
  { r with
    diagnostics := r.diagnostics ++ [⟨.error, message, path⟩]
    errorCode := some (firstCode r.errorCode code) }

/-- The report with another warning. -/
def recordWarning (r : Report) (message : String) (path : Option Path) : Report :=
  { r with diagnostics := r.diagnostics ++ [⟨.warning, message, path⟩] }

/-- An error leaves an exit code that stands for a failure as it is. -/
theorem recordError_errorCode_of_failed {r : Report} {code : ExitCode}
    (h : r.errorCode = some code) (failed : code ≠ .success) (message : String) (next : ExitCode)
    (path : Option Path) : (r.recordError message next path).errorCode = some code := by
  cases code <;> simp_all [recordError, firstCode]

/-- The report with what became of another document. -/
def addFile (r : Report) (result : FileResult) : Report := { r with files := r.files ++ [result] }

/-- The stubs of all documents. -/
def stubs (r : Report) : List Stub := r.files.flatMap FileResult.stubs

/-- All writes, in order. -/
def writes (r : Report) : List Write := r.files.flatMap FileResult.writes

/-- How it is said of each document that was not read. -/
def failures (r : Report) : List String := r.files.filterMap FileResult.failure?

/-- The number of writes that ended in a status. -/
def count (r : Report) (status : WriteStatus) : Nat := r.writes.countP (·.status = status)

/-- The number of errors. -/
def errorCount (r : Report) : Nat := countSeverity .error r.diagnostics

end Report

end ProcessStubs
