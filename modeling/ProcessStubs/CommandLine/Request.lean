import ProcessStubs.CommandLine.Manual
import ProcessStubs.CommandLine.Options
import ProcessStubs.FileTree.Basic
import ProcessStubs.Settings.Draft

/-!
# Requests

A request is what a command is asked for. Help comes before everything else that could be said about
the arguments of a command, except that they cannot be read. Then the values of the options are
checked in the order in which the options were given, and last that no argument is left over.
-/

namespace ProcessStubs.CommandLine

open Text

/-- Why a call cannot be understood. For a command that is unknown, `close` are the names that are
close to its own. A path that nothing can be at is a mistake of the caller. -/
inductive UsageFault where
  | option (fault : OptionFault)
  | unknownCommand (name : String) (close : List String)
  | badValue (optionNames : String) (reason : String)
  | leftOver (arguments : List String)
  | mistake (fault : FileFault)
deriving Repr, DecidableEq

namespace UsageFault

/-- What is suggested instead of an unknown name. -/
def suggestion : List String → String
  | [] => ""
  | [name] => " Did you mean " ++ quoted name ++ "?"
  | names => " (Did you mean one of: " ++ joinWith ", " (names.map quoted) ++ "?)"

/-- The wording of a fault. -/
def message : UsageFault → String
  | option (.unknown name close) => "No such option " ++ quoted name ++ "." ++ suggestion close
  | option (.missingValue name) => "Option " ++ quoted name ++ " requires an argument."
  | option (.unexpectedValue name) => "Option " ++ quoted name ++ " does not take a value."
  | unknownCommand name close => "No such command " ++ quoted name ++ "." ++ suggestion close
  | badValue names reason => "Invalid value for " ++ names ++ ": " ++ reason
  | leftOver arguments =>
    "Got unexpected extra argument" ++ (if arguments.length = 1 then " (" else "s (") ++
      joinWith " " arguments ++ ")"
  | mistake fault => fault.message

/-- Whether the usage is shown with a fault. -/
def showsUsage : UsageFault → Bool
  | option (.missingValue _) | option (.unexpectedValue _) | mistake _ => false
  | _ => true

/-- What is said about a fault in the call of a topic. -/
def text (t : Topic) (f : UsageFault) : String :=
  (if f.showsUsage then t.usage ++ "\nTry '" ++ t.call ++ " --help' for help.\n\n" else "") ++
    "Error: " ++ f.message

end UsageFault

/-! ### Values of options -/

/-- The mistake that nothing can be at a path as it is written. -/
def mistake? (written : String) : Option UsageFault :=
  let p := Path.ofString written
  if p.hasZero then some (.mistake ⟨.zeroCharacter, p⟩) else none

/-- What a path leads to as it is written; one that ends in a slash leads to a directory or
nowhere, and one that ends in a dot to a directory that can be entered. -/
def entryAsWritten? (t : FileTree) (written : String) : Option FileEntry :=
  if written = "" then none
  else
    match t.locate .target (Path.ofString written) with
    | .ok (.taken _ e) =>
      let last := (split '/' written).getLast?.getD ""
      if !e.isDirectory ∧ last = "" ∨ e ≠ .directory ∧ last = "." then none else some e
    | _ => none

/-- Why a file for settings cannot be used. -/
def settingFileProblem? (t : FileTree) (written : String) : Option String :=
  match entryAsWritten? t written with
  | none => some ("File " ++ quoted written ++ " does not exist.")
  | some .directory | some .closed => some ("File " ++ quoted written ++ " is a directory.")
  | some .sealed => some ("File " ++ quoted written ++ " is not readable.")
  | some _ => none

/-- Why a directory for modules cannot be used. -/
def outputProblem? (t : FileTree) (written : String) : Option String :=
  match entryAsWritten? t written with
  | some (.file _) | some .sealed => some ("Directory " ++ quoted written ++ " is a file.")
  | some .closed => some ("Directory " ++ quoted written ++ " is not readable.")
  | _ => none

/-- Why a path cannot be used as the source of documents. -/
def sourceProblem? (t : FileTree) (written : String) : Option String :=
  match entryAsWritten? t written with
  | some .sealed | some .closed => some ("Path " ++ quoted written ++ " is not readable.")
  | _ => none

/-- Why a policy cannot be used. -/
def policyProblem? (name : String) : Option String :=
  let names := CollisionPolicy.all.map CollisionPolicy.name
  if names.contains name then none
  else some (quoted name ++ " is not one of " ++ joinWith ", " (names.map quoted) ++ ".")

/-- The first fault in the values of options, each checked as it was given last. -/
def badValue? {α : Type} [DecidableEq α] (problem? : α → String → Option UsageFault)
    (given : List (GivenOption α)) : Option UsageFault :=
  (givenOnce given).findSome? fun o => (valueOf? given o).bind (problem? o)

/-! ### Requests of commands -/

/-- The options of the program itself. -/
inductive ProgramOption where
  | quiet
  | verbose
  | plain
  | help
deriving Repr, DecidableEq

/-- How the options of the program are written. -/
def programOptions : List (OptionForm ProgramOption) := [
  ⟨.quiet, ['q'], ["--quiet"], false⟩,
  ⟨.verbose, ['v'], ["--verbose"], false⟩,
  ⟨.plain, [], ["--no-color"], false⟩,
  ⟨.help, ['h'], ["--help"], false⟩]

/-- The options of the commands. -/
inductive CommandOption where
  | settingFile
  | output
  | package
  | runtime
  | exclude
  | policy
  | dryRun
  | noMarkers
  | help
deriving Repr, DecidableEq

/-- How help is asked for. -/
def helpOption : OptionForm CommandOption := ⟨.help, ['h'], ["--help"], false⟩

/-- How a file of settings is named. -/
def settingFileOption : OptionForm CommandOption := ⟨.settingFile, [], ["--config"], true⟩

/-- How the options of a command are written. -/
def commandOptions : Topic → List (OptionForm CommandOption)
  | .program => []
  | .version => [helpOption]
  | .config => [settingFileOption, helpOption]
  | .generate => [
    settingFileOption,
    ⟨.output, ['o'], ["--output-dir"], true⟩,
    ⟨.package, ['p'], ["--package"], true⟩,
    ⟨.runtime, [], ["--runtime-service"], true⟩,
    ⟨.exclude, ['e'], ["--exclude"], true⟩,
    ⟨.policy, [], ["--on-collision"], true⟩,
    ⟨.dryRun, [], ["--dry-run"], false⟩,
    ⟨.noMarkers, [], ["--no-init-files"], false⟩,
    helpOption]

/-- The commands by name. -/
def commands : List (String × Topic) := [
  ("generate", .generate), ("config", .config), ("version", .version)]

/-- How many arguments a command takes besides its options. -/
def takenArguments : Topic → Nat
  | .generate => 1
  | _ => 0

/-- What is wrong with the value of a command's option. -/
def commandProblem? (t : FileTree) (o : CommandOption) (value : String) : Option UsageFault :=
  match o with
  | .settingFile =>
    (mistake? value).or ((settingFileProblem? t value).map (.badValue "'--config'"))
  | .output =>
    (mistake? value).or ((outputProblem? t value).map (.badValue "'-o' / '--output-dir'"))
  | .policy => (policyProblem? value).map (.badValue "'--on-collision'")
  | _ => none

/-- What is wrong with the value of a command's argument. -/
def argumentProblem? (t : FileTree) (value : String) : Option UsageFault :=
  (mistake? value).or ((sourceProblem? t value).map (.badValue "'[SOURCE_DIR]'"))

/-- The overrides of a call of `generate`. -/
def overridesOf (given : List (GivenOption CommandOption)) (source : Option String) : Overrides :=
  let written (key : String) (value : Option String) : Overrides :=
    (value.map fun v => (key, Value.text v)).toList
  let flag (key : String) (o : CommandOption) (value : Bool) : Overrides :=
    if isGiven given o then [(key, .boolean value)] else []
  written "source_dir" source ++
  written "output_dir" (valueOf? given .output) ++
  written "package_name" (valueOf? given .package) ++
  written "runtime_service" (valueOf? given .runtime) ++
  [("exclude_patterns", .list ((valuesOf given .exclude).map .text))] ++
  written "collision_policy" (valueOf? given .policy) ++
  flag "dry_run" .dryRun true ++
  flag "write_init_files" .noMarkers false

/-- What a command is asked for. -/
inductive Request where
  | help (t : Topic)
  | version
  | showSettings (file : Option String)
  | generate (file : Option String) (overrides : Overrides)

/-- The request of a command with arguments. -/
def Request.ofArguments (t : FileTree) (command : Topic) (arguments : List String) :
    Except UsageFault Request := do
  let (given, others) ←
    (readOptions (commandOptions command) true arguments).mapError UsageFault.option
  if isGiven given .help then return .help command
  if let some fault := badValue? (commandProblem? t) given then throw fault
  let taken := others.take (takenArguments command)
  if let some fault := taken.findSome? (argumentProblem? t) then throw fault
  let extra := others.drop (takenArguments command)
  if !extra.isEmpty then throw (.leftOver extra)
  let file := valueOf? given .settingFile
  match command with
  | .program => return .help command
  | .version => return .version
  | .config => return .showSettings file
  | .generate => return .generate file (overridesOf given taken.head?)

end ProcessStubs.CommandLine
