import ProcessStubs.Path

/-!
# Process documents

The part of a process-definition document that matters for stubs: its processes with their flow
elements, and the participants of its collaborations. All flow elements are kept in order; only
service tasks say more than their kind.
-/

namespace ProcessStubs

/-- The kinds of flow elements other than service tasks. -/
inductive NodeKind where
  | task
  | userTask
  | scriptTask
  | businessRuleTask
  | sendTask
  | receiveTask
  | manualTask
  | callActivity
  | subProcess
  | transaction
  | adHocSubProcess
  | exclusiveGateway
  | parallelGateway
  | inclusiveGateway
  | eventBasedGateway
  | complexGateway
  | startEvent
  | endEvent
  | intermediateCatchEvent
  | intermediateThrowEvent
  | boundaryEvent
  | sequenceFlow
  | dataObject
  | dataObjectReference
  | dataStoreReference
deriving Repr, DecidableEq

namespace NodeKind

/-- All kinds. -/
def all : List NodeKind := [
  task, userTask, scriptTask, businessRuleTask, sendTask, receiveTask, manualTask, callActivity,
  subProcess, transaction, adHocSubProcess, exclusiveGateway, parallelGateway, inclusiveGateway,
  eventBasedGateway, complexGateway, startEvent, endEvent, intermediateCatchEvent,
  intermediateThrowEvent, boundaryEvent, sequenceFlow, dataObject, dataObjectReference,
  dataStoreReference]

/-- The element name of a kind. -/
def name : NodeKind → String
  | task => "task"
  | userTask => "userTask"
  | scriptTask => "scriptTask"
  | businessRuleTask => "businessRuleTask"
  | sendTask => "sendTask"
  | receiveTask => "receiveTask"
  | manualTask => "manualTask"
  | callActivity => "callActivity"
  | subProcess => "subProcess"
  | transaction => "transaction"
  | adHocSubProcess => "adHocSubProcess"
  | exclusiveGateway => "exclusiveGateway"
  | parallelGateway => "parallelGateway"
  | inclusiveGateway => "inclusiveGateway"
  | eventBasedGateway => "eventBasedGateway"
  | complexGateway => "complexGateway"
  | startEvent => "startEvent"
  | endEvent => "endEvent"
  | intermediateCatchEvent => "intermediateCatchEvent"
  | intermediateThrowEvent => "intermediateThrowEvent"
  | boundaryEvent => "boundaryEvent"
  | sequenceFlow => "sequenceFlow"
  | dataObject => "dataObject"
  | dataObjectReference => "dataObjectReference"
  | dataStoreReference => "dataStoreReference"

/-- The kind of an element name. -/
def ofName? (s : String) : Option NodeKind := all.find? (·.name == s)

theorem mem_all (k : NodeKind) : k ∈ all := by cases k <;> decide

end NodeKind

/-- The attributes that bind a service task to business logic. -/
inductive BindingForm where
  | className
  | expression
  | delegateExpression
deriving Repr, DecidableEq

/-- The name of a binding attribute, which is also the name of the way of implementation. -/
def BindingForm.name : BindingForm → String
  | className => "class"
  | expression => "expression"
  | delegateExpression => "delegateExpression"

/-- How a service task is implemented: by a bound reference, by a task type of the engine, by a
web service, or not at all. -/
inductive Implementation where
  | unbound
  | bound (form : BindingForm) (reference : String)
  | engineType (name : String)
  | webService (reference : String)
deriving Repr, DecidableEq

namespace Implementation

/-- The name of the way of implementation. -/
def typeName? : Implementation → Option String
  | unbound => none
  | bound form _ => some form.name
  | engineType name => some name
  | webService _ => some "webService"

/-- What the task refers to. -/
def reference? : Implementation → Option String
  | unbound | engineType _ => none
  | bound _ reference | webService reference => some reference

end Implementation

/-- A service task and the way it is bound to business logic. -/
structure ServiceTask where
  id : String
  name : Option String
  implementation : Implementation
deriving Repr, DecidableEq

/-- A flow element of a process. -/
inductive FlowElement where
  | serviceTask (task : ServiceTask)
  | node (kind : NodeKind) (id : String) (name : Option String)
deriving Repr, DecidableEq

namespace FlowElement

def id : FlowElement → String
  | serviceTask t => t.id
  | node _ i _ => i

def name : FlowElement → Option String
  | serviceTask t => t.name
  | node _ _ n => n

/-- The element name of a flow element. -/
def kindName : FlowElement → String
  | serviceTask _ => "serviceTask"
  | node k _ _ => k.name

/-- The service task, if the flow element is one. -/
def task? : FlowElement → Option ServiceTask
  | serviceTask t => some t
  | node .. => none

end FlowElement

/-- A process. -/
structure Process where
  id : String
  name : Option String
  executable : Bool
  elements : List FlowElement
deriving Repr, DecidableEq

/-- The service tasks of a process in document order. -/
def Process.serviceTasks (p : Process) : List ServiceTask := p.elements.filterMap FlowElement.task?

/-- A participant of a collaboration. `processRef` names a process by its id, if that exists. -/
structure Participant where
  name : Option String
  processRef : Option String
deriving Repr, DecidableEq

/-- The name a process is shown by: its own, or else that of the first participant that refers to
it, or else its id. An empty name counts as none. -/
def Process.displayName (p : Process) (participants : List Participant) : String :=
  let own := p.name.filter (· ≠ "")
  let referring := participants.find? (·.processRef == some p.id)
  let participant := (referring.bind Participant.name).filter (· ≠ "")
  (own.or participant).getD p.id

/-- A document: its processes and participants in document order, and the file it came from. -/
structure ProcessDocument where
  processes : List Process
  participants : List Participant
  source : Option Path
deriving Repr, DecidableEq

namespace ProcessDocument

/-- The processes marked executable, in document order. -/
def executable (d : ProcessDocument) : List Process := d.processes.filter Process.executable

end ProcessDocument

end ProcessStubs
