import ProcessStubs.FileTree.ReadText
import ProcessStubs.FileTree.RealPath
import ProcessStubs.Settings.Basic
import ProcessStubs.Toml.Fault

/-!
# Drafts of settings

A draft collects settings in layers: the defaults, then a setting file, then overrides. What is not
set stays open until the draft is frozen. A field of a file that is unknown or of the wrong type is
reported and skipped; an override that cannot be used ends the layer, and what was set before stays.

Paths in a file are taken from the directory of the file, those of overrides from the directory that
is given with them.
-/

namespace ProcessStubs

/-- Why a draft cannot be made or frozen: its settings cannot be used, a path has no real path, a
file cannot be looked for or holds no text, or definitions inside of a table of a file clash. -/
inductive SetupFault where
  | settings (fault : SettingsFault)
  | noRealPath (fault : FileFault)
  | unusableFile (fault : FileFault)
  | notText (fault : Text.Utf8Fault)
  | clash (clash : Toml.Clash)
deriving Repr, BEq

/-- The settings given instead of those in files. Nothing under a name leaves the setting as it
is. -/
abbrev Overrides := List (String × Value)

/-- The value given under a name, if it is not nothing. -/
def Overrides.given? (o : Overrides) (key : String) : Option Value :=
  (Assoc.get? key o).filter fun v => !v.isNull

/-- Settings that are being made, and what has been logged about them. -/
structure Draft where
  sourceDirectory : Option Path
  outputDirectory : Option Path
  packageName : Option String
  runtimeService : Option String
  excludePatterns : List Value
  collisionPolicy : Option CollisionPolicy
  packageMarkers : Option Bool
  dryRun : Option Bool
  configFiles : List Path
  diagnostics : List Diagnostic
  log : List LogEntry
deriving Repr

namespace Draft

/-- The draft in which nothing is set. -/
def empty : Draft :=
  ⟨none, none, none, none, [], none, none, none, [], [], []⟩

/-- The draft with the defaults, taken from a directory. -/
def defaults (base : Path) : Draft :=
  { empty with
    sourceDirectory := some (base / Settings.defaultSource)
    outputDirectory := some (base / Settings.defaultOutput)
    packageName := some Settings.defaultPackage
    runtimeService := some Settings.defaultRuntime
    collisionPolicy := some .warn
    packageMarkers := some true
    dryRun := some false }

/-- The real path of a path, or else the fault that it has none. -/
def realPath (t : FileTree) (p : Path) : Except SetupFault Path :=
  (t.realPath p).mapError .noRealPath

/-- The real path of the working directory, or of another path instead. -/
def baseOf (t : FileTree) (directory : Option Path) : Except SetupFault Path :=
  realPath t (directory.getD ⟨.root, t.workingDirectory⟩)

/-- The draft with the defaults, taken from the working directory or another one. -/
def ofDefaults (t : FileTree) (base : Option Path) : Except SetupFault Draft := do
  return defaults (← baseOf t base)

/-- The draft after steps, as far as they succeed, and the fault of the step that did not. -/
def through (d : Draft) : List (Draft → Except SetupFault Draft) → Draft × Option SetupFault
  | [] => (d, none)
  | step :: steps =>
    match step d with
    | .ok d' => through d' steps
    | .error f => (d, some f)

/-! ### Fields of files -/

/-- The draft with a warning about a file. -/
def warn (d : Draft) (file : Path) (message : String) : Draft :=
  { d with
    diagnostics := d.diagnostics ++ [⟨.warning, message, some file⟩]
    log := d.log ++ [⟨.warning, file.toString ++ ": " ++ message⟩] }

/-- What is said of a value that should have been a text. -/
def notString (key : String) (v : Value) : String :=
  "'" ++ key ++ "' must be a string, got " ++ v.typeName

/-- The draft with a field of a file. `base` is where the file's paths are taken from. -/
def applyField (t : FileTree) (file base : Path) (key : String) (v : Value) (d : Draft) :
    Except SetupFault Draft :=
  match key with
  | "source_dir" =>
    match v.text? with
    | some s => do
      let p ← realPath t (base / Path.ofString s)
      return { d with sourceDirectory := some p }
    | none => .ok (d.warn file (notString key v))
  | "output_dir" =>
    match v.text? with
    | some s => do
      let p ← realPath t (base / Path.ofString s)
      return { d with outputDirectory := some p }
    | none => .ok (d.warn file (notString key v))
  | "package_name" =>
    match v.text? with
    | some s => .ok { d with packageName := some s }
    | none => .ok (d.warn file (notString key v))
  | "runtime_service" =>
    match v.text? with
    | some s => .ok { d with runtimeService := some s }
    | none => .ok (d.warn file (notString key v))
  | "exclude_patterns" =>
    match v.texts? with
    | some patterns =>
      .ok { d with excludePatterns := d.excludePatterns ++ patterns.map .text }
    | none => .ok (d.warn file "'exclude_patterns' must be a list of strings")
  | "collision_policy" =>
    match v.text?.bind CollisionPolicy.ofName? with
    | some p => .ok { d with collisionPolicy := some p }
    | none => .error (.settings (.invalidFilePolicy file v))
  | "write_init_files" =>
    match v.boolean? with
    | some b => .ok { d with packageMarkers := some b }
    | none => .ok (d.warn file "'write_init_files' must be a boolean")
  | _ => .ok (d.warn file ("Unknown config key '" ++ key ++ "' ignored"))

/-- The draft with the fields of a file. -/
def applyFields (d : Draft) (t : FileTree) (file : Path) (fields : List (String × Value)) :
    Draft × Option SetupFault :=
  match realPath t file with
  | .error f => (d, some f)
  | .ok real =>
    through { d with configFiles := d.configFiles ++ [file] }
      (fields.map fun (key, v) => applyField t file real.parent key v)

/-! ### Overrides -/

/-- The path in an override. -/
def overridePath (t : FileTree) (base : Path) (v : Value) : Except SetupFault Path :=
  match v.text? with
  | some s => realPath t (base / Path.ofString s)
  | none => .error (.settings .wrongType)

/-- The items that an override adds to a list: those of a list, the keys of a table or the
characters of a text. -/
def overrideItems : Value → Except SetupFault (List Value)
  | .list items => .ok items
  | .table fields => .ok (fields.map fun (key, _) => .text key)
  | .text s => .ok (s.toList.map fun c => .text c.toString)
  | _ => .error (.settings .wrongType)

/-- A step that takes an override into a draft, if it is given. -/
def override (o : Overrides) (key : String) (take : Value → Draft → Except SetupFault Draft)
    (d : Draft) : Except SetupFault Draft :=
  match o.given? key with
  | some v => take v d
  | none => .ok d

/-- The steps that take overrides into a draft. -/
def overrideSteps (t : FileTree) (base : Path) (o : Overrides) :
    List (Draft → Except SetupFault Draft) := [
  override o "source_dir" fun v d => do
    let p ← overridePath t base v
    return { d with sourceDirectory := some p },
  override o "output_dir" fun v d => do
    let p ← overridePath t base v
    return { d with outputDirectory := some p },
  override o "package_name" fun v d => .ok { d with packageName := some v.shown },
  override o "runtime_service" fun v d => .ok { d with runtimeService := some v.shown },
  override o "exclude_patterns" fun v d => do
    if v.isTrue then
      let items ← overrideItems v
      return { d with excludePatterns := d.excludePatterns ++ items }
    else return d,
  override o "collision_policy" fun v d =>
    match CollisionPolicy.ofName? v.shown with
    | some p => .ok { d with collisionPolicy := some p }
    | none => .error (.settings (.invalidPolicy v)),
  override o "write_init_files" fun v d => .ok { d with packageMarkers := some v.isTrue },
  override o "dry_run" fun v d => .ok { d with dryRun := some v.isTrue }]

/-- The draft with overrides, whose paths are taken from a directory. -/
def applyOverrides (d : Draft) (t : FileTree) (directory : Option Path) (o : Overrides) :
    Draft × Option SetupFault :=
  match baseOf t directory with
  | .error f => (d, some f)
  | .ok base => d.through (overrideSteps t base o)

/-! ### Freezing -/

/-- The values, each once. -/
def distinctEntries (l : List Value) : List Value :=
  l.foldl (fun kept v => if kept.any (·.sameEntry v) then kept else kept ++ [v]) []

/-- The settings of a draft, with the defaults for what is not set. -/
def freeze (d : Draft) (t : FileTree) : Except SettingsFault Settings := do
  let base : Path := ⟨.root, t.workingDirectory⟩
  let package := d.packageName.getD Settings.defaultPackage
  if !isPackageName package then throw (.invalidPackage package)
  let runtime := (d.runtimeService.filter (· ≠ "")).getD Settings.defaultRuntime
  let _ ← runtimeOf runtime
  if !d.excludePatterns.all Value.isHashable then throw .wrongType
  return {
    sourceDirectory := d.sourceDirectory.getD (base / Settings.defaultSource)
    outputDirectory := d.outputDirectory.getD (base / Settings.defaultOutput)
    packageName := package
    runtimeService := runtime
    excludePatterns := distinctEntries d.excludePatterns
    collisionPolicy := d.collisionPolicy.getD .warn
    packageMarkers := d.packageMarkers.getD true
    dryRun := d.dryRun.getD false
    configFiles := d.configFiles
    diagnostics := d.diagnostics }

end Draft

/-- A draft that is set as settings are. -/
def Settings.thaw (s : Settings) : Draft where
  sourceDirectory := some s.sourceDirectory
  outputDirectory := some s.outputDirectory
  packageName := some s.packageName
  runtimeService := some s.runtimeService
  excludePatterns := s.excludePatterns
  collisionPolicy := some s.collisionPolicy
  packageMarkers := some s.packageMarkers
  dryRun := some s.dryRun
  configFiles := s.configFiles
  diagnostics := s.diagnostics
  log := []

end ProcessStubs
