import ProcessStubs.Data.Assoc
import ProcessStubs.Data.Value
import ProcessStubs.Diagnostic
import ProcessStubs.Text.Blank
import ProcessStubs.Text.CaseMap
import ProcessStubs.Text.Numeral

/-!
# Log levels

Log entries have a level, and only those at or above the level in force are shown. The level can be
given by a name or a number in the environment, or else by how often the caller asked for more or
less detail.
-/

namespace ProcessStubs.Log

open ProcessStubs.Text

/-- How much an entry matters; a higher level matters more. -/
abbrev Level := Int

/-- The level of the finest detail. -/
def traceLevel : Level := 5

/-- The level of details for finding errors. -/
def debugLevel : Level := 10

/-- The level of what a run does. -/
def infoLevel : Level := 20

/-- The level of warnings. -/
def warningLevel : Level := 30

/-- The level of errors. -/
def errorLevel : Level := 40

/-- The level of errors that end a run. -/
def criticalLevel : Level := 50

/-- The level that sets no limit. -/
def unsetLevel : Level := 0

/-- The level of a severity. -/
def ofSeverity : Severity → Level
  | .info => infoLevel
  | .warning => warningLevel
  | .error => errorLevel

/-- The levels with names. -/
def namedLevels : List (Level × String) := [
  (unsetLevel, "NOTSET"), (traceLevel, "TRACE"), (debugLevel, "DEBUG"), (infoLevel, "INFO"),
  (warningLevel, "WARNING"), (errorLevel, "ERROR"), (criticalLevel, "CRITICAL")]

/-- The name of a level, or its number if it has none. -/
def levelName (l : Level) : String :=
  (Assoc.get? l namedLevels).getD ("Level " ++ toString l)

/-- The names that a level can be given by. -/
def levelAliases : List (String × Level) := [
  ("TRACE", traceLevel), ("DEBUG", debugLevel), ("INFO", infoLevel), ("WARNING", warningLevel),
  ("WARN", warningLevel), ("ERROR", errorLevel), ("CRITICAL", criticalLevel),
  ("FATAL", criticalLevel), ("NOTSET", unsetLevel)]

/-- Why there is no level.

* `notNumber`: a text of digits is no number, because one of them has no decimal value or there are
  too many of them.
* `unknownName`: a level is given by a name that none has.
* `wrongType`: a level is given by something that is no number. -/
inductive LevelFault where
  | notNumber (digits : String)
  | unknownName (name : String)
  | wrongType
deriving Repr, DecidableEq

/-- The number that a text of digits denotes. -/
def levelNumber (cs : List Char) : Except LevelFault Level :=
  match decimalNumber? cs with
  | some n => if cs.length ≤ maxDecimalDigits then .ok n else .error (.notNumber (.ofList cs))
  | none => .error (.notNumber (.ofList cs))

/-- The level that a text gives, if it gives one: a number, or a name in upper or lower case, with
blanks around it. -/
def levelOfText (given : String) : Except LevelFault (Option Level) :=
  let name := upperText (strip given)
  let cs := name.toList
  if !cs.isEmpty && cs.all isDigit then do return some (← levelNumber cs)
  else .ok (Assoc.get? name levelAliases)

/-- The level that the environment gives, if it gives one. -/
def environmentLevel (given : Option String) : Except LevelFault (Option Level) :=
  match given with
  | none => .ok none
  | some text => levelOfText text

/-- The level in force when nothing but the environment can give it. A level that sets no limit
counts as none. -/
def defaultLevel (given : Option String) : Except LevelFault Level := do
  return ((← environmentLevel given).filter (· ≠ unsetLevel)).getD warningLevel

/-- The level that a caller gives. Unlike the environment, a caller gives it as a number: a name is
not taken, whether it is known or not. -/
def levelOfValue (given : Value) : Except LevelFault Level :=
  match given.integer?, given with
  | some n, _ => .ok n
  | none, .text name =>
    if (Assoc.get? name levelAliases).isSome then .error .wrongType else .error (.unknownName name)
  | none, _ => .error .wrongType

/-- The level in force: the one that a caller gives, or else the one that the environment gives. -/
def levelInForce (given : Option Value) (environment : Option String) : Except LevelFault Level :=
  match given with
  | some v => levelOfValue v
  | none => defaultLevel environment

/-- The level of how often more and less detail was asked for. There is none if both were. -/
def detailLevel (more less : Int) : Option Level :=
  if more > 0 && less > 0 then none
  else if more ≥ 3 then some traceLevel
  else if more = 2 then some debugLevel
  else if more = 1 then some infoLevel
  else if less ≥ 1 then some errorLevel
  else some warningLevel

/-- What is said when both more and less detail was asked for. -/
def detailConflict : String := "The '--verbose' and '--quiet' options are mutually exclusive."

end ProcessStubs.Log
