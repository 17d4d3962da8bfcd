import ProcessStubs.CommandLine.Request
import ProcessStubs.ReportText
import ProcessStubs.Settings.Load

/-!
# Sessions

A session is one call of the program: what it writes to the two streams, how it ends, and the files
it leaves. The options before the command say how much is logged and whether there are colours; the
environment can set the log level instead.

Main definition: `Session.run` runs the program on arguments.
-/

namespace ProcessStubs.CommandLine

open Terminal

/-- What a session finds when it begins: the log level that the environment gives, and whether log
lines and labels are painted. -/
structure Surroundings where
  logLevel : Option String
  painted : Bool
deriving Repr, DecidableEq

/-- A fault that the program does not handle. -/
inductive Crash where
  | logLevel (fault : Log.LevelFault)
  | setup (fault : SetupFault)
  | generation (fault : GenerationFault)
  | mistake (fault : FileFault)
  | unwritable (fault : Toml.PrintFault)
deriving Repr, BEq

/-- How a session ends: with an exit code, or with a fault that is not handled. -/
inductive Ending where
  | exit (code : Nat)
  | crash (fault : Crash)
deriving Repr, BEq

/-- The exit code of a session whose call cannot be understood. -/
def misuseCode : Nat := 2

/-- A session after it has ended. -/
structure Session where
  ending : Ending
  screen : Screen
  files : FileTree
  logLevel : Log.Level

/-- How a session goes on after the options before the command. -/
structure Manner where
  console : Console
  painted : Bool
  logLevel : Log.Level
  detail : Int
deriving Repr, DecidableEq

/-- How a session goes on until the options before the command are taken. -/
def Manner.initial : Manner := ⟨⟨false⟩, false, Log.warningLevel, 0⟩

namespace Session

/-- The session that ends with an exit code. -/
def exits (m : Manner) (files : FileTree) (code : Nat) (screen : Screen) : Session :=
  ⟨.exit code, screen, files, m.logLevel⟩

/-- The session that ends with a fault that is not handled. -/
def crashes (m : Manner) (files : FileTree) (fault : Crash) (screen : Screen) : Session :=
  ⟨.crash fault, screen, files, m.logLevel⟩

/-- The session that writes a text as its result. -/
def prints (m : Manner) (files : FileTree) (text : String) : Session :=
  exits m files ExitCode.success.number (m.console.print text true .empty)

/-- The screen with an error message. -/
def refuse (m : Manner) (text : String) (screen : Screen) : Screen :=
  screen.addErr (m.console.ended text true)

/-- The session of a call that cannot be understood. -/
def misused (m : Manner) (files : FileTree) (t : Topic) (fault : UsageFault) : Session :=
  exits m files misuseCode (refuse m (fault.text t) .empty)

/-- The session that ends with one of the program's own errors. -/
def fails (m : Manner) (files : FileTree) (code : ExitCode) (message : String) (screen : Screen) :
    Session :=
  exits m files code.number (refuse m ("Error: " ++ message) screen)

/-- The screen with the entries of a log. -/
def logged (m : Manner) (entries : List LogEntry) (screen : Screen) : Screen :=
  (Log.shownLines m.painted m.logLevel entries).foldl (fun s line => s.addErr (line ++ "\n")) screen

/-- The session whose settings cannot be used. -/
def unusable (m : Manner) (files : FileTree) (fault : SetupFault) (screen : Screen) : Session :=
  match fault with
  | .settings .wrongType => crashes m files (.setup fault) screen
  | .settings f => fails m files .configError f.message screen
  | _ => crashes m files (.setup fault) screen

/-- The session that goes on with the settings of all layers. -/
def withSettings (m : Manner) (files : FileTree) (file : Option String) (overrides : Overrides)
    (next : Settings → Screen → Session) : Session :=
  let (draft, fault) := Draft.loadMerged files (file.map Path.ofString) overrides none
  let screen := logged m draft.log .empty
  match fault with
  | some f => unusable m files f screen
  | none =>
    match draft.freeze files with
    | .error f => unusable m files (.settings f) screen
    | .ok s => next s screen

/-- The session that shows the settings. -/
def showSettings (m : Manner) (files : FileTree) (file : Option String) : Session :=
  withSettings m files file [] fun s screen =>
    let screen := s.diagnostics.foldl (fun screen d => m.console.warn d.text true screen) screen
    let names := Text.joinWith ", " (s.configFiles.map Path.toString)
    let screen :=
      if s.configFiles.isEmpty then screen
      else m.console.print ("# Config files: " ++ names) true screen
    match s.toToml with
    | .error fault => crashes m files (.unwritable fault) screen
    | .ok text => exits m files ExitCode.success.number (m.console.print text false screen)

/-- The session that generates modules. -/
def generates (m : Manner) (files : FileTree) (file : Option String) (overrides : Overrides) :
    Session :=
  withSettings m files file overrides fun s screen =>
    let (result, log) := generate s ⟨[], files⟩
    let screen := logged m log screen
    match result with
    | .error (.discovery fault) =>
      match fault.scanFailure? with
      | some message => fails m files .discoveryError message screen
      | none => crashes m files (.generation (.discovery fault)) screen
    | .error fault => crashes m files (.generation fault) screen
    | .ok r =>
      exits m r.store.files ((r.report.errorCode.map ExitCode.number).getD ExitCode.success.number)
        (r.report.display s m.console m.painted m.detail screen)

/-- The session of a command. -/
def ofCommand (m : Manner) (files : FileTree) (command : Topic) (arguments : List String) :
    Session :=
  match Request.ofArguments files command arguments with
  | .error (.mistake fault) => crashes m files (.mistake fault) .empty
  | .error fault => misused m files command fault
  | .ok (.help t) => prints m files t.help
  | .ok .version => prints m files ("bpmngen " ++ programVersion)
  | .ok (.showSettings file) => showSettings m files file
  | .ok (.generate file overrides) => generates m files file overrides

/-- The session after the options before the command, which say how it goes on. -/
def begins (s : Surroundings) (files : FileTree) (given : List (GivenOption ProgramOption))
    (next : Manner → Session) : Session :=
  let more : Int := countGiven given .verbose
  let less : Int := countGiven given .quiet
  match Log.detailLevel more less with
  | none => fails .initial files .usageError Log.detailConflict .empty
  | some level =>
    match Log.environmentLevel s.logLevel with
    | .error fault => crashes .initial files (.logLevel fault) .empty
    | .ok given? =>
      next ⟨⟨!isGiven given .plain⟩, s.painted, given?.getD level, more - less⟩

/-- The session of a call with an unknown command. If the name looks like an option, it is said what
is wrong with it as such. -/
def unknown (files : FileTree) (name : String) (rest : List String) : Session :=
  match readOptions programOptions false (name :: rest) with
  | .error fault => misused .initial files .program (.option fault)
  | .ok (given, _) =>
    if isGiven given .help then prints .initial files Topic.program.help
    else
      let close := Text.closeMatches name (commands.map (·.1))
      misused .initial files .program (.unknownCommand name close)

/-- Runs the program. -/
def run (s : Surroundings) (files : FileTree) (arguments : List String) : Session :=
  match readOptions programOptions false arguments with
  | .error fault => misused .initial files .program (.option fault)
  | .ok (given, rest) =>
    if isGiven given .help then prints .initial files Topic.program.help
    else
      match rest with
      | [] =>
        begins s files given fun m =>
          prints m files (commandHint ++ "\n\n" ++ Topic.program.help)
      | name :: rest =>
        match Assoc.get? name commands with
        | none => unknown files name rest
        | some command => begins s files given fun m => ofCommand m files command rest

/-- The directories that a call works on, as far as the files that are known tell. -/
def directories (files : FileTree) (arguments : List String) : List Path :=
  let settings : Option Settings := do
    let (_, rest) ← (readOptions programOptions false arguments).toOption
    let command ← rest.head?.bind fun name => Assoc.get? name commands
    let .generate file overrides ← (Request.ofArguments files command rest.tail).toOption | none
    ((Draft.loadMerged files (file.map Path.ofString) overrides none).1.freeze files).toOption
  (settings.map fun s => [s.sourceDirectory, s.outputDirectory]).getD []

end Session

end ProcessStubs.CommandLine
