import ProcessStubs.Discovery
import ProcessStubs.Run
import ProcessStubs.Settings.Basic

/-!
# Generation

Generation looks for the documents of a source directory and writes the stubs of each. A document
that cannot be read is reported and skipped, and so is a stub that cannot be written.
-/

namespace ProcessStubs

/-- Why there is no report: the documents cannot be looked for, the settings cannot be used, or
nothing can be at the path of a document or a module. -/
inductive GenerationFault where
  | discovery (fault : DiscoveryFault)
  | settings (fault : SettingsFault)
  | mistake (fault : FileFault)
deriving BEq, Repr

/-- Where the modules of a run are written to: a run that only previews writes nothing. -/
def Settings.destination (s : Settings) : Destination :=
  if s.dryRun then .preview else .directory s.outputDirectory s.packageMarkers

namespace Run

/-- The run after a document. -/
def addDocument (s : Settings) (d : Destination) (r : Run) (path : Path) :
    Except GenerationFault Run :=
  let r := r.note .info ("Processing BPMN file: " ++ path.toString)
  match ProcessDocument.ofFile r.store.files path with
  | .error fault =>
    match fault.mistake? with
    | some mistake => .error (.mistake mistake)
    | none =>
      .ok (((r.note .error ("Failed to read BPMN file " ++ path.toString ++ ": " ++
        fault.message)).addFile ⟨path, .unread fault⟩).recordError fault.message .parseError path)
  | .ok document => do
    let stubs ← (s.stubsOf document).mapError .settings
    let r := document.executable.foldl (fun r p =>
      r.note .info ("Found process: " ++ p.id ++ " - " ++ p.displayName document.participants)) r
    let (emissions, r) := emitAll s.collisionPolicy d r stubs
    if let some fault := emissions.findSome? Emission.mistake? then throw (.mistake fault)
    return r.addFile ⟨path, .read stubs (emissions.filterMap Emission.write?)⟩

/-- What is logged at the end of a run. -/
def summary (r : Report) : String :=
  "Processed " ++ toString r.files.length ++ " file(s): " ++ toString r.writes.length ++
    " unit(s), " ++ toString r.errorCount ++ " error(s)"

/-- The run over documents in order. -/
def ofDocuments (s : Settings) (d : Destination) (store : Store) (paths : List Path) :
    Except GenerationFault Run := do
  let r ← paths.foldlM (addDocument s d) (.start s.diagnostics store)
  return r.note .info (summary r.report)

end Run

/-- The run over the documents of the source directory, and what has been logged. -/
def generate (s : Settings) (store : Store) : Except GenerationFault Run × List LogEntry :=
  let opening : List LogEntry := [
    ⟨.info, "Source directory: " ++ s.sourceDirectory.toString⟩,
    ⟨.info, "Output directory: " ++ s.outputDirectory.toString⟩,
    ⟨.info, "Package name: " ++ s.packageName⟩]
  match store.files.discover s.sourceDirectory s.excludePatterns with
  | .error fault => (.error (.discovery fault), opening)
  | .ok found =>
    match Run.ofDocuments s s.destination store found.files with
    | .error fault => (.error fault, opening ++ found.log)
    | .ok r => (.ok r, opening ++ found.log ++ r.log)

end ProcessStubs
