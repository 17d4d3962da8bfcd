import ProcessStubs.Log.Level
import ProcessStubs.Path
import ProcessStubs.Terminal.Pen

/-!
# Log lines

A log line names the level of its entry before the message. Below the level of what a run does, it
also names the place in the program. The colour of a line goes by its level.
-/

namespace ProcessStubs.Log

open ProcessStubs.Terminal

/-- The layouts of log lines. -/
inductive Layout where
  | brief
  | located
deriving Repr, DecidableEq

/-- The layout of the lines when a level is in force. -/
def Layout.ofLevel (l : Level) : Layout := if l ≥ infoLevel then .brief else .located

/-- The template of a layout. -/
def Layout.template : Layout → String
  | .brief => "[%(levelname)s] %(message)s"
  | .located => "[%(levelname)s] [%(filename)s:%(lineno)d] [%(funcName)s] %(message)s"

/-- A place in a program. -/
structure Site where
  file : String
  line : Int
  function : String
deriving Repr, DecidableEq

/-- The last name of the file of a place. -/
def Site.fileName (s : Site) : String :=
  String.ofList (s.file.toList.reverse.takeWhile (· != '/')).reverse

/-- The text of a log line in a layout. -/
def plainLine (layout : Layout) (level : Level) (site : Site) (message : String) : String :=
  match layout with
  | .brief => "[" ++ levelName level ++ "] " ++ message
  | .located =>
    "[" ++ levelName level ++ "] [" ++ site.fileName ++ ":" ++ toString site.line ++ "] [" ++
      site.function ++ "] " ++ message

/-- The pen for the lines of a level. -/
def penOf (l : Level) : Pen :=
  if l ≥ criticalLevel then .brightRed
  else if l ≥ errorLevel then .red
  else if l ≥ warningLevel then .yellow
  else if l ≥ infoLevel then .green
  else if l ≥ debugLevel then .gray
  else if l ≥ traceLevel then .blue
  else .dimRed

/-- A log line, painted if `painted` holds. -/
def line (painted : Bool) (layout : Layout) (level : Level) (site : Site) (message : String) :
    String :=
  let text := plainLine layout level site message
  if painted then (penOf level).paint text else text

/-- The lines of the entries that are shown when a level is in force. -/
def shownLines (painted : Bool) (inForce : Level) (entries : List LogEntry) : List String :=
  (entries.filter fun e => ofSeverity e.severity ≥ inForce).map fun e =>
    line painted .brief (ofSeverity e.severity) ⟨"", 0, ""⟩ e.message

end ProcessStubs.Log

namespace ProcessStubs

/-- The pen for the labels of a severity. -/
def Severity.pen : Severity → Terminal.Pen
  | info => .blue
  | warning => .yellow
  | error => .brightRed

/-- The line of a diagnostic, its label painted if `painted` holds. -/
def Diagnostic.line (painted : Bool) (d : Diagnostic) : String :=
  d.textWith fun label => if painted then d.severity.pen.paint label else label

end ProcessStubs
