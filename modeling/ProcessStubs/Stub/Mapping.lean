import ProcessStubs.BeanCall
import ProcessStubs.RuntimeReference
import ProcessStubs.Stub.Basic
import ProcessStubs.Text.Words

/-!
# Stubs for processes and beans

Each executable process gives a service that starts it, and each bean call of its service tasks an
interface of the bean with the one method that is called.
-/

namespace ProcessStubs

open Text

namespace Stub

/-- The end of the type name of each service. -/
def serviceSuffix : String := "ProcessService"

/-- The type name of the service for a process by its display name. -/
def serviceTypeName (displayName : String) : String := pascalCase displayName ++ serviceSuffix

/-- The attribute that holds the injected runtime. -/
def runtimeAttribute : String := "runtime_service"

/-- The method of the runtime that starts a process. -/
def startMethod : String := "start_process_instance_by_key"

/-- The attribute of a started process that holds its id. -/
def instanceIdAttribute : String := "id"

/-- The type of the variables a process is started with. -/
def variablesType : TypeUse :=
  ⟨"Mapping[str, Any]", [⟨"collections.abc", "Mapping"⟩, ⟨"typing", "Any"⟩]⟩

/-- The operation of a service: start the process with variables, and give the id of the started
process. -/
def startOperation (processId : String) : Operation where
  name := "start_process"
  parameters := [⟨"variables", variablesType⟩]
  returns := some ⟨"str", []⟩
  isAbstract := false
  invocation := some {
    collaborator := runtimeAttribute
    method := startMethod
    arguments := [.literal processId, .parameter "variables"]
    resultAttribute := some instanceIdAttribute }

/-- The service that starts a process. -/
def ofProcess (packageName : String) (runtime : RuntimeReference) (source : Option Path)
    (processId displayName : String) : Stub where
  packageName := packageName
  typeName := serviceTypeName displayName
  kind := .service
  operations := [startOperation processId]
  collaborators := [
    ⟨runtimeAttribute, ⟨runtime.typeName, [⟨runtime.moduleName, runtime.typeName⟩]⟩⟩]
  origin := processId
  source := source

/-- The interface of a bean with the one method that is called. -/
def ofBeanCall (packageName : String) (source : Option Path) (call : BeanCall) : Stub where
  packageName := packageName
  typeName := capitalized call.bean
  kind := .interface
  operations := [⟨call.method, [], none, true, none⟩]
  collaborators := []
  origin := call.bean
  source := source

/-- The stubs of a process: its service, then the interfaces of its bean calls in order. -/
def ofExecutable (packageName : String) (runtime : RuntimeReference) (d : ProcessDocument)
    (p : Process) : List Stub :=
  ofProcess packageName runtime d.source p.id (p.displayName d.participants) ::
    (p.serviceTasks.filterMap BeanCall.ofTask?).map (ofBeanCall packageName d.source)

/-- The stubs of a document, process by process. -/
def ofDocument (packageName : String) (runtime : RuntimeReference) (d : ProcessDocument) :
    List Stub :=
  d.executable.flatMap (ofExecutable packageName runtime d)

end Stub

end ProcessStubs
