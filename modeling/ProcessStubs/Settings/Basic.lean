import ProcessStubs.Data.Value
import ProcessStubs.Diagnostic
import ProcessStubs.RuntimeReference
import ProcessStubs.Settings.Policy
import ProcessStubs.Stub.Mapping
import ProcessStubs.Toml.Printer

/-!
# Settings

The settings of a run. They are made by freezing a draft, which checks them, and do not change while
the run goes on.
-/

namespace ProcessStubs

/-- What a run is told. The items of `excludePatterns` are texts unless other values came. -/
structure Settings where
  sourceDirectory : Path
  outputDirectory : Path
  packageName : String
  runtimeService : String
  excludePatterns : List Value
  collisionPolicy : CollisionPolicy
  packageMarkers : Bool
  dryRun : Bool
  configFiles : List Path
  diagnostics : List Diagnostic
deriving Repr, BEq

/-- Why settings cannot be used.

* `invalidPackage`, `invalidRuntime`, `invalidPolicy`: a value is not what it has to be.
* `invalidFilePolicy`: the policy in a file is none.
* `wrongType`: an override cannot be taken as what it has to be. -/
inductive SettingsFault where
  | invalidPackage (name : String)
  | invalidRuntime (reference : String)
  | invalidPolicy (given : Value)
  | invalidFilePolicy (file : Path) (given : Value)
  | wrongType
deriving Repr, BEq

/-- The wording of a fault. -/
def SettingsFault.message : SettingsFault → String
  | invalidPackage name => "Invalid package name '" ++ name ++ "'."
  | invalidRuntime reference =>
    "Invalid runtime_service reference '" ++ reference ++ "' (expected 'module:Name')."
  | invalidPolicy given => "Invalid collision policy " ++ given.literal
  | invalidFilePolicy file given =>
    file.toString ++ ": invalid collision_policy " ++ given.literal
  | wrongType => "wrong type"

/-- The runtime that a text refers to. -/
def runtimeOf (reference : String) : Except SettingsFault RuntimeReference :=
  match RuntimeReference.ofString? reference with
  | some r => .ok r
  | none => .error (.invalidRuntime reference)

namespace Settings

/-- The package unless another one is given. -/
def defaultPackage : String := "generated"

/-- The runtime unless another one is given. -/
def defaultRuntime : String := "bpmngen.runtime:RuntimeService"

/-- Where documents are looked for unless told otherwise. -/
def defaultSource : Path := Path.ofString "src/main/resources/bpmn"

/-- Where modules are written to unless told otherwise. -/
def defaultOutput : Path := Path.ofString "build/generated-sources/bpmn"

/-- The directory of the package. -/
def packagePath (s : Settings) : Path :=
  (Text.split '.' s.packageName).foldl (fun p name => p / Path.ofString name) s.outputDirectory

/-- The settings as fields of a setting file. -/
def fields (s : Settings) : List (String × Value) := [
  ("source_dir", .text s.sourceDirectory.toString),
  ("output_dir", .text s.outputDirectory.toString),
  ("package_name", .text s.packageName),
  ("runtime_service", .text s.runtimeService),
  ("exclude_patterns", .list s.excludePatterns),
  ("collision_policy", .text s.collisionPolicy.name),
  ("write_init_files", .boolean s.packageMarkers)]

/-- The settings as the text of a setting file, which there is unless an exclude pattern is no
value. -/
def toToml (s : Settings) : Except Toml.PrintFault String := Toml.printToml s.fields

/-- The stubs of a document. A document without executable processes has none, whatever the
runtime. -/
def stubsOf (s : Settings) (d : ProcessDocument) : Except SettingsFault (List Stub) :=
  if d.executable.isEmpty then .ok []
  else do return Stub.ofDocument s.packageName (← runtimeOf s.runtimeService) d

end Settings

end ProcessStubs
