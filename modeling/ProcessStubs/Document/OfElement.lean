import ProcessStubs.Markup.Element
import ProcessStubs.Document.Basic
import ProcessStubs.Text.Blank
import ProcessStubs.Text.CaseMap
import ProcessStubs.Text.Quoted

/-!
# Reading documents from elements

A process document is made from the tree of elements of its markup. Only three levels are looked
at: the root, its processes and collaborations, and their flow elements and participants. Elements
and attributes other than those named here change nothing.
-/

namespace ProcessStubs

open Markup Text

/-- The namespace of process definitions. -/
def modelNamespace : String := "http://www.omg.org/spec/BPMN/20100524/MODEL"

/-- The namespaces of the engines, in the order in which their attributes are looked up. -/
def engineNamespaces : List String := [
  "http://activiti.org/bpmn",
  "http://camunda.org/schema/1.0/bpmn",
  "http://flowable.org/bpmn"]

/-- A name in the namespace of process definitions. -/
def modelName (localName : String) : ExpandedName := ⟨some modelNamespace, localName⟩

/-- Why a tree of elements is no process document. -/
inductive StructureFault where
  | foreignRoot (name : ExpandedName)
  | processWithoutId
deriving Repr, DecidableEq

/-- The wording of a structure fault. -/
def StructureFault.message : StructureFault → String
  | foreignRoot name =>
    "Unsupported schema: root element is '" ++ name.localName ++ "' in namespace " ++
      quotedOrNone name.space ++ ", expected 'definitions' in " ++ quoted modelNamespace
  | processWithoutId => "<process> element without an id"

/-- The value, unless it is empty. -/
def nonEmpty? (s : Option String) : Option String := s.filter (· ≠ "")

/-- The first value that is not empty of an attribute in the namespaces of the engines. -/
def engineAttribute? (e : Element) (localName : String) : Option String :=
  engineNamespaces.findSome? fun space => nonEmpty? (e.attribute? ⟨some space, localName⟩)

/-- The binding attributes in the order in which they are looked up. -/
def bindingForms : List BindingForm := [.className, .expression, .delegateExpression]

/-- How an element says that a service task is implemented. -/
def Implementation.ofElement (e : Element) : Implementation :=
  let bound := bindingForms.findSome? fun form => (engineAttribute? e form.name).map (bound form)
  let typed := (engineAttribute? e "type").map engineType
  let web := (nonEmpty? (e.plain? "implementation")).map webService
  ((bound.or typed).or web).getD unbound

/-- The flow element that an element declares, if it declares one. -/
def FlowElement.ofElement? (e : Element) : Option FlowElement :=
  let id := (e.plain? "id").getD ""
  let name := e.plain? "name"
  if e.name = modelName "serviceTask" then
    some (.serviceTask ⟨id, name, Implementation.ofElement e⟩)
  else if e.name.space = some modelNamespace then
    (NodeKind.ofName? e.name.localName).map fun kind => .node kind id name
  else none

/-- Whether a process is executable: if it does not say otherwise. -/
def isExecutable (value : Option String) : Bool :=
  match value with
  | none => true
  | some v => lowerText (strip v) == "true"

/-- The process that an element declares. -/
def Process.ofElement (e : Element) : Except StructureFault Process :=
  let id := strip ((e.plain? "id").getD "")
  if id = "" then .error .processWithoutId
  else .ok {
    id := id
    name := e.plain? "name"
    executable := isExecutable (e.plain? "isExecutable")
    elements := e.children.filterMap FlowElement.ofElement? }

/-- The participant that an element declares. -/
def Participant.ofElement (e : Element) : Participant := ⟨e.plain? "name", e.plain? "processRef"⟩

/-- The document that a tree of elements declares. -/
def ProcessDocument.ofElement (source : Option Path) (root : Element) :
    Except StructureFault ProcessDocument := do
  if root.name ≠ modelName "definitions" then
    throw (.foreignRoot root.name)
  let processes ← (root.childrenNamed (modelName "process")).mapM Process.ofElement
  let participants := (root.childrenNamed (modelName "collaboration")).flatMap fun c =>
    (c.childrenNamed (modelName "participant")).map Participant.ofElement
  return { processes := processes, participants := participants, source := source }

end ProcessStubs
