import ProcessStubs.Generation
import ProcessStubs.Log.Line
import ProcessStubs.Terminal.Console

/-!
# The text of a report

A report is shown as its writes, if they were asked for or nothing was really written, its
diagnostics, and a summary.
-/

namespace ProcessStubs

open Terminal

/-- A text with blanks before it, up to a width. -/
def padLeft (width : Nat) (text : String) : String :=
  String.ofList (List.replicate (width - text.length) ' ') ++ text

/-- The line of a write. -/
def Write.line (c : Console) (w : Write) : String :=
  c.styled Colour.green.style (padLeft 9 w.status.name) ++ "  " ++ w.stub.qualifiedName ++ "  (" ++
    w.path.toString ++ ")"

namespace Report

/-- The summary of a report. -/
def summary (r : Report) (s : Settings) : String :=
  let files := toString r.files.length
  let done :=
    if s.dryRun then
      "Would generate " ++ toString (r.count .previewed) ++ " unit(s) from " ++ files ++
        " file(s) (dry run)."
    else
      "Generated " ++ toString (r.count .written) ++ " unit(s) (" ++
        toString (r.count .unchanged) ++ " unchanged) from " ++ files ++ " file(s) into " ++
        s.packagePath.toString ++ "."
  if r.errorCount = 0 then done else done ++ " " ++ toString r.errorCount ++ " error(s)."

/-- Shows a diagnostic. -/
def showDiagnostic (c : Console) (painted : Bool) (screen : Screen) (d : Diagnostic) : Screen :=
  let text := d.line (painted && c.coloured)
  if d.severity = .error then c.error text true screen else c.warn text true screen

/-- Shows a report. `detail` says how much more detail was asked for than less. -/
def display (r : Report) (s : Settings) (c : Console) (painted : Bool) (detail : Int)
    (screen : Screen) : Screen :=
  let writes := if detail > 0 || s.dryRun then r.writes else []
  let screen := writes.foldl (fun screen w => c.print (w.line c) true screen) screen
  let screen := r.diagnostics.foldl (showDiagnostic c painted) screen
  c.print (c.styled boldStyle (r.summary s)) true screen

end Report

end ProcessStubs
