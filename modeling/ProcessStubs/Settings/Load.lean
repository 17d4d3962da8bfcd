import ProcessStubs.Settings.Draft
import ProcessStubs.Toml.Reader

/-!
# Loading settings

A setting file is `bpmngen.toml`, or the section `tool.bpmngen` of a `pyproject.toml`. A file that
cannot be read or is malformed counts as empty, and a warning says so. Unless a file is named, the
one in the working directory is used, `bpmngen.toml` first.
-/

namespace ProcessStubs

/-- The name of setting files. -/
def settingFileName : String := "bpmngen.toml"

/-- The name of files with a section of settings. -/
def projectFileName : String := "pyproject.toml"

/-- The keys that lead to the section of settings. -/
def sectionKeys : List String := ["tool", "bpmngen"]

/-- The fields of a file, and what is to be said about it. -/
structure LoadedFields where
  fields : List (String × Value)
  diagnostics : List Diagnostic
  log : List LogEntry

/-- No fields, and a warning why. -/
def LoadedFields.refused (file : Path) (message logMessage : String) : LoadedFields :=
  ⟨[], [⟨.warning, message, some file⟩], [⟨.warning, logMessage⟩]⟩

/-- The fields at the top level of a file. -/
def loadFields (t : FileTree) (file : Path) : Except SetupFault LoadedFields :=
  match t.readText file with
  | .error (.unusable f) =>
    if f.isMistake then .error (.unusableFile f)
    else
      .ok (.refused file ("Cannot read config file: " ++ f.message)
        ("Cannot read config file " ++ file.toString ++ ": " ++ f.message))
  | .error (.notText f) => .error (.notText f)
  | .ok text =>
    match Toml.readToml text with
    | .ok fields => .ok ⟨fields, [], []⟩
    | .error (.unplaced c) => .error (.clash c)
    | .error fault =>
      .ok (.refused file ("Invalid TOML: " ++ fault.message)
        ("Invalid TOML in " ++ file.toString ++ ": " ++ fault.message))

/-- The table that keys lead to, if each leads to a table. -/
def tableAt? (fields : List (String × Value)) : List String → Option (List (String × Value))
  | [] => some fields
  | key :: keys =>
    match Assoc.get? key fields with
    | some (.table inner) => tableAt? inner keys
    | _ => none

/-- The section of settings among the fields of a project file. -/
def toolSection? (fields : List (String × Value)) : Option (List (String × Value)) :=
  tableAt? fields sectionKeys

/-- The settings in a file: those of the section in a project file, and all of any other file. -/
def loadSettingFields (t : FileTree) (file : Path) : Except SetupFault LoadedFields := do
  let loaded ← loadFields t file
  if file.name = projectFileName then
    return { loaded with fields := (toolSection? loaded.fields).getD [] }
  else return loaded

/-- Whether a path leads to a file. -/
def isSettingFile (t : FileTree) (file : Path) : Except SetupFault Bool :=
  (t.isFile file).mapError .unusableFile

/-- The setting file of a directory, if it has one, and what looking for it has logged. A project
file counts if it has the section. -/
def findSettingFile (t : FileTree) (directory : Path) :
    Except SetupFault (Option Path × List LogEntry) := do
  let file := directory.child settingFileName
  if ← isSettingFile t file then return (some file, [])
  let file := directory.child projectFileName
  if ← isSettingFile t file then
    let loaded ← loadFields t file
    return (if (toolSection? loaded.fields).isSome then some file else none, loaded.log)
  else return (none, [])

/-- The draft with the settings of a file. -/
def Draft.loadFile (d : Draft) (t : FileTree) (file : Path) : Draft × Option SetupFault :=
  match loadSettingFields t file with
  | .error f => (d, some f)
  | .ok loaded =>
    let d := { d with
      diagnostics := d.diagnostics ++ loaded.diagnostics
      log := d.log ++ loaded.log }
    match d.applyFields t file loaded.fields with
    | (d, some f) => (d, some f)
    | (d, none) =>
      ({ d with log := d.log ++ [⟨.info, "Using config file " ++ file.toString⟩] }, none)

/-- A draft of all layers: the defaults, a setting file, and overrides. On a fault, the draft is
what was made before. -/
def Draft.loadMerged (t : FileTree) (configFile : Option Path) (overrides : Overrides)
    (directory : Option Path) : Draft × Option SetupFault :=
  match Draft.baseOf t directory with
  | .error f => (.empty, some f)
  | .ok base =>
    let d := Draft.defaults base
    let found : Except SetupFault (Option Path × List LogEntry) :=
      match configFile with
      | some file => .ok (some file, [])
      | none => findSettingFile t base
    match found with
    | .error f => (d, some f)
    | .ok (file, log) =>
      let d := { d with log := d.log ++ log }
      let (d, fault) := match file with
        | some file => d.loadFile t file
        | none => (d, none)
      match fault with
      | some f => (d, some f)
      | none => d.applyOverrides t (some base) overrides

end ProcessStubs
