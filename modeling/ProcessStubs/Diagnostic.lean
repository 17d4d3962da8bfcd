import ProcessStubs.Path

/-!
# Diagnostics

What a run has to tell: a diagnostic has a severity, a message and perhaps the file it is about. Log
entries tell what a run does while it does it.
-/

namespace ProcessStubs

/-- How much a message matters. -/
inductive Severity where
  | info
  | warning
  | error
deriving Repr, DecidableEq

/-- The name of a severity. -/
def Severity.name : Severity → String
  | info => "info"
  | warning => "warning"
  | error => "error"

/-- A message about a file or about nothing in particular. -/
structure Diagnostic where
  severity : Severity
  message : String
  path : Option Path
deriving Repr, DecidableEq

namespace Diagnostic

/-- The severity of a diagnostic in brackets. -/
def label (d : Diagnostic) : String := "[" ++ d.severity.name ++ "]"

/-- The line of a diagnostic, its label painted by `paint`. -/
def textWith (d : Diagnostic) (paint : String → String) : String :=
  paint d.label ++ ((d.path.map fun p => " " ++ p.toString ++ ":").getD "") ++ " " ++ d.message

/-- The line of a diagnostic. -/
def text (d : Diagnostic) : String := d.textWith id

end Diagnostic

/-- The number of diagnostics of a severity. -/
def countSeverity (severity : Severity) (l : List Diagnostic) : Nat :=
  l.countP (·.severity = severity)

/-- An entry of the log. -/
structure LogEntry where
  severity : Severity
  message : String
deriving Repr, DecidableEq

end ProcessStubs
