import Mathlib.Data.List.DropRight
import ProcessStubs.Document.Read
import ProcessStubs.Proofs.Steps

/-!
# Documents and the trees that declare them

A tree of elements declares a document exactly if its root is a definition and each of its processes
has an id. What it declares is *expressible*: the ids of processes are stripped and not empty, and a
service task that is implemented says so in one of a few ways. Conversely each expressible document
has a tree of its own, its canonical tree, from which it is read again.

## Main definitions

* `ProcessDocument.Expressible`: the documents that are read from trees.
* `ProcessDocument.toElement`: the canonical tree of a document.

## Main results

* `ProcessDocument.ofElement_eq_error_iff`: which trees declare no document, and why.
* `ProcessDocument.expressible_of_ofElement`: what is read is expressible.
* `ProcessDocument.ofElement_toElement`: an expressible document is read from its canonical tree.
* `ProcessDocument.ofTree_exact`: these three about reading the trees of a source.
-/

namespace ProcessStubs

open Markup Text

/-- Stripping a text a second time changes nothing. -/
theorem strip_strip (s : String) : strip (strip s) = strip s := by
  -- What is left after the end was stripped begins as before, and that is no blank.
  have start : stripStart (stripEnd (stripStart s.toList)) = stripEnd (stripStart s.toList) := by
    refine List.dropWhile_eq_self_iff.mpr ?_
    intro pos
    have before : stripEnd (stripStart s.toList) <+: stripStart s.toList :=
      List.rdropWhile_prefix isBlank _
    rw [before.getElem pos]
    exact List.dropWhile_get_zero_not isBlank s.toList _
  have stop : stripEnd (stripEnd (stripStart s.toList)) = stripEnd (stripStart s.toList) :=
    List.rdropWhile_idempotent isBlank _
  rw [strip, strip, String.toList_ofList, start, stop]

/-! ### Kinds of flow elements -/

/-- The element names of flow elements. -/
def flowElementKinds : List String := "serviceTask" :: NodeKind.all.map NodeKind.name

/-- A kind is found by its element name. -/
theorem NodeKind.ofName?_name (k : NodeKind) : NodeKind.ofName? k.name = some k := by
  cases k <;> rfl

/-- Service tasks are no kind of nodes. -/
theorem NodeKind.name_ne_serviceTask (k : NodeKind) : k.name ≠ "serviceTask" := by
  cases k <;> decide

/-- Only the element name of a kind gives the kind. -/
theorem NodeKind.name_of_ofName? {name : String} {k : NodeKind}
    (h : NodeKind.ofName? name = some k) : k.name = name := by
  have found := List.find?_some h
  exact eq_of_beq found

/-- The element name of a flow element is one of those of flow elements. -/
theorem FlowElement.kindName_mem (e : FlowElement) : e.kindName ∈ flowElementKinds := by
  cases e with
  | serviceTask t => exact List.mem_cons_self
  | node k id name =>
      exact List.mem_cons_of_mem _ (List.mem_map.mpr ⟨k, NodeKind.mem_all k, rfl⟩)

/-- A flow element is a service task exactly if it is called one. -/
theorem FlowElement.isSome_task?_iff (e : FlowElement) :
    e.task?.isSome ↔ e.kindName = "serviceTask" := by
  cases e with
  | serviceTask t => simp [task?, kindName]
  | node k id name => simp [task?, kindName, NodeKind.name_ne_serviceTask]

/-! ### Expressible documents -/

/-- What a service task can say about its way of implementation and what it refers to. -/
inductive BindingPair : Option String → Option String → Prop
  | bound (form : BindingForm) {reference : String} :
      reference ≠ "" → BindingPair (some form.name) (some reference)
  | engineType {name : String} : name ≠ "" → BindingPair (some name) none
  | webService {reference : String} :
      reference ≠ "" → BindingPair (some "webService") (some reference)
  | unbound : BindingPair none none

/-- An implementation as an element can say it. -/
def Implementation.Expressible (i : Implementation) : Prop := BindingPair i.typeName? i.reference?

/-- A flow element as an element can declare it. -/
structure FlowElement.Expressible (e : FlowElement) : Prop where
  kind : e.kindName ∈ flowElementKinds
  task_iff : e.task?.isSome ↔ e.kindName = "serviceTask"
  implementation : ∀ t ∈ e.task?, t.implementation.Expressible

/-- A process as an element can declare it. -/
structure Process.Expressible (p : Process) : Prop where
  id_ne : p.id ≠ ""
  id_stripped : strip p.id = p.id
  elements : ∀ e ∈ p.elements, e.Expressible

/-- A document as a tree can declare it. -/
def ProcessDocument.Expressible (d : ProcessDocument) : Prop := ∀ p ∈ d.processes, p.Expressible

/-- A text that is not empty is there. -/
theorem nonEmpty?_eq_some_iff {o : Option String} {s : String} :
    nonEmpty? o = some s ↔ o = some s ∧ s ≠ "" := by
  rw [nonEmpty?, Option.filter_eq_some_iff, decide_eq_true_eq]

/-- Attributes of engines that count are not empty. -/
theorem ne_of_engineAttribute? {e : Element} {name value : String}
    (h : engineAttribute? e name = some value) : value ≠ "" := by
  obtain ⟨space, -, found⟩ := List.exists_of_findSome?_eq_some h
  exact (nonEmpty?_eq_some_iff.mp found).2

/-- What an element says about an implementation is expressible. -/
theorem Implementation.expressible_ofElement (e : Element) :
    (Implementation.ofElement e).Expressible := by
  rw [Implementation.ofElement]
  cases hbound : bindingForms.findSome? fun form =>
      (engineAttribute? e form.name).map (bound form) with
  | some i =>
      obtain ⟨form, -, found⟩ := List.exists_of_findSome?_eq_some hbound
      obtain ⟨reference, href, rfl⟩ := Option.map_eq_some_iff.mp found
      exact .bound form (ne_of_engineAttribute? href)
  | none =>
      cases htype : engineAttribute? e "type" with
      | some name => exact .engineType (ne_of_engineAttribute? htype)
      | none =>
          cases hweb : nonEmpty? (e.plain? "implementation") with
          | some reference => exact .webService (nonEmpty?_eq_some_iff.mp hweb).2
          | none => exact .unbound

/-- What an element declares as a flow element is expressible. -/
theorem FlowElement.expressible_of_ofElement? {e : Element} {x : FlowElement}
    (h : FlowElement.ofElement? e = some x) : x.Expressible where
  kind := x.kindName_mem
  task_iff := x.isSome_task?_iff
  implementation := by
    rw [ofElement?] at h
    split at h
    · cases h
      intro t ht
      cases ht
      exact Implementation.expressible_ofElement e
    · split at h
      · obtain ⟨kind, -, rfl⟩ := Option.map_eq_some_iff.mp h
        intro t ht
        cases ht
      · cases h

/-! ### What declares no document -/

/-- An element has no id, or one of blanks alone. -/
def LacksId (e : Element) : Prop :=
  e.plain? "id" = none ∨ ∃ id, e.plain? "id" = some id ∧ strip id = ""

/-- An element lacks an id if nothing is left of its id. -/
theorem lacksId_iff {e : Element} : LacksId e ↔ strip ((e.plain? "id").getD "") = "" := by
  cases hid : e.plain? "id" with
  | none => exact ⟨fun _ => rfl, fun _ => .inl hid⟩
  | some id => simp [LacksId, hid]

/-- An element declares no process exactly if it lacks an id. -/
theorem Process.ofElement_eq_error_iff {e : Element} {fault : StructureFault} :
    Process.ofElement e = .error fault ↔ fault = .processWithoutId ∧ LacksId e := by
  rw [lacksId_iff, Process.ofElement]
  by_cases h : strip ((e.plain? "id").getD "") = ""
  · simp only [h, if_true, and_true]
    exact ⟨fun heq => (Except.error.inj heq).symm, fun heq => congrArg _ heq.symm⟩
  · simp [h]

/-- The process of an element is expressible. -/
theorem Process.expressible_of_ofElement {e : Element} {p : Process}
    (h : Process.ofElement e = .ok p) : p.Expressible := by
  rw [Process.ofElement] at h
  split at h
  · cases h
  · next present =>
      cases h
      refine ⟨present, strip_strip _, ?_⟩
      intro x hx
      obtain ⟨child, -, declared⟩ := List.mem_filterMap.mp hx
      exact FlowElement.expressible_of_ofElement? declared

/-- A child that an element has under a name. -/
theorem Markup.Element.mem_childrenNamed {e c : Element} {name : ExpandedName} :
    c ∈ e.childrenNamed name ↔ c ∈ e.children ∧ c.name = name := by
  simp [childrenNamed]

/-- The participants that a tree declares. -/
def participantsOf (root : Element) : List Participant :=
  (root.childrenNamed (modelName "collaboration")).flatMap fun c =>
    (c.childrenNamed (modelName "participant")).map Participant.ofElement

namespace ProcessDocument

/-- Reading a tree whose root is a definition is reading its processes. -/
theorem ofElement_definitions (source : Option Path) {root : Element}
    (h : root.name = modelName "definitions") :
    ofElement source root = (do
      let processes ← (root.childrenNamed (modelName "process")).mapM Process.ofElement
      return ⟨processes, participantsOf root, source⟩) := by
  rw [ofElement]
  simp only [h, ne_eq, not_true_eq_false, if_false]
  rfl

/-- Reading any other tree fails at its root. -/
theorem ofElement_foreign (source : Option Path) {root : Element}
    (h : root.name ≠ modelName "definitions") :
    ofElement source root = .error (.foreignRoot root.name) := by
  rw [ofElement, if_pos h]
  rfl

/-- **A document that was read** has the processes of its tree, in order, and the participants of
its collaborations. -/
theorem ofElement_eq_ok_iff {source : Option Path} {root : Element} {d : ProcessDocument} :
    ofElement source root = .ok d ↔
      root.name = modelName "definitions" ∧
      (root.childrenNamed (modelName "process")).mapM Process.ofElement = .ok d.processes ∧
      d = ⟨d.processes, participantsOf root, source⟩ := by
  by_cases h : root.name = modelName "definitions"
  · rw [ofElement_definitions source h, bind_eq_ok_iff]
    constructor
    · rintro ⟨processes, hp, heq⟩
      cases heq
      exact ⟨h, hp, rfl⟩
    · rintro ⟨-, hp, hd⟩
      exact ⟨d.processes, hp, congrArg _ hd.symm⟩
  · rw [ofElement_foreign source h]
    exact ⟨nofun, fun ok => absurd ok.1 h⟩

/-- **A tree declares no document** exactly if its root is no definition, or one of its processes
lacks an id. -/
theorem ofElement_eq_error_iff {source : Option Path} {root : Element} :
    (∃ fault, ofElement source root = .error fault) ↔
      root.name ≠ modelName "definitions" ∨
        ∃ e ∈ root.children, e.name = modelName "process" ∧ LacksId e := by
  by_cases h : root.name = modelName "definitions"
  · simp only [h, ne_eq, not_true_eq_false, false_or]
    rw [ofElement_definitions source h]
    cases hp : (root.childrenNamed (modelName "process")).mapM Process.ofElement with
    | error fault =>
        obtain ⟨before, e, after, heq, -, he⟩ := mapM_eq_error_iff.mp hp
        have mem : e ∈ root.childrenNamed (modelName "process") := by simp [heq]
        obtain ⟨hmem, hname⟩ := Element.mem_childrenNamed.mp mem
        have lacks := (Process.ofElement_eq_error_iff.mp he).2
        exact iff_of_true ⟨fault, rfl⟩ ⟨e, hmem, hname, lacks⟩
    | ok processes =>
        refine iff_of_false (by rintro ⟨fault, hfault⟩; cases hfault) ?_
        rintro ⟨e, hmem, hname, lacks⟩
        have mem := Element.mem_childrenNamed.mpr ⟨hmem, hname⟩
        obtain ⟨p, -, declared⟩ := (exists_of_mapM_eq_ok hp).1 e mem
        rw [Process.ofElement_eq_error_iff.mpr ⟨rfl, lacks⟩] at declared
        cases declared
  · rw [ofElement_foreign source h]
    exact iff_of_true ⟨_, rfl⟩ (.inl h)

/-- **What is read is expressible.** -/
theorem expressible_of_ofElement {source : Option Path} {root : Element} {d : ProcessDocument}
    (h : ofElement source root = .ok d) : d.Expressible := by
  obtain ⟨-, processes, -⟩ := ofElement_eq_ok_iff.mp h
  intro p hp
  obtain ⟨e, -, declared⟩ := (exists_of_mapM_eq_ok processes).2 p hp
  exact Process.expressible_of_ofElement declared

end ProcessDocument

/-! ### Canonical trees -/

/-- An attribute that belongs to no namespace. -/
def plainAttribute (localName value : String) : ExpandedName × String := (⟨none, localName⟩, value)

/-- The namespace that canonical trees take the attributes of engines from. -/
def canonicalEngine : String := "http://activiti.org/bpmn"

/-- The attributes that say how a service task is implemented. -/
def Implementation.toAttributes : Implementation → List (ExpandedName × String)
  | unbound => []
  | bound form reference => [(⟨some canonicalEngine, form.name⟩, reference)]
  | engineType name => [(⟨some canonicalEngine, "type"⟩, name)]
  | webService reference => [plainAttribute "implementation" reference]

/-- The element of a flow element. -/
def FlowElement.toElement (e : FlowElement) : Element :=
  let implementation := (e.task?.map (·.implementation.toAttributes)).getD []
  .node (modelName e.kindName)
    (plainAttribute "id" e.id :: e.name.toList.map (plainAttribute "name") ++ implementation) []

/-- The element of a process, with those of its flow elements. -/
def Process.toElement (p : Process) : Element :=
  .node (modelName "process")
    (plainAttribute "id" p.id :: p.name.toList.map (plainAttribute "name") ++
      [plainAttribute "isExecutable" (if p.executable then "true" else "false")])
    (p.elements.map FlowElement.toElement)

/-- The element of a participant. -/
def Participant.toElement (p : Participant) : Element :=
  .node (modelName "participant")
    (p.name.toList.map (plainAttribute "name") ++
      p.processRef.toList.map (plainAttribute "processRef")) []

/-- The canonical tree of a document: its processes in order, and one collaboration with all its
participants. -/
def ProcessDocument.toElement (d : ProcessDocument) : Element :=
  .node (modelName "definitions") []
    (d.processes.map Process.toElement ++
      [.node (modelName "collaboration") [] (d.participants.map Participant.toElement)])

/-- The first attribute of an element counts if it has the name that is looked for. -/
theorem Markup.Element.attribute?_cons (n key name : ExpandedName) (value : String)
    (rest : List (ExpandedName × String)) (children : List Element) :
    (Element.node n ((key, value) :: rest) children).attribute? name =
      if key = name then some value else (Element.node n rest children).attribute? name := by
  by_cases h : key = name <;> simp [attribute?, attributes, h]

/-- An element without attributes has none of any name. -/
theorem Markup.Element.attribute?_nil (n name : ExpandedName) (children : List Element) :
    (Element.node n [] children).attribute? name = none := rfl

/-- Attributes of other names are passed over. -/
theorem Markup.Element.attribute?_skip {n name : ExpandedName}
    {before after : List (ExpandedName × String)} {children : List Element}
    (h : ∀ a ∈ before, a.1 ≠ name) :
    (Element.node n (before ++ after) children).attribute? name =
      (Element.node n after children).attribute? name := by
  have none : before.find? (·.1 == name) = none := by simpa using h
  simp [attribute?, attributes, none]

/-- The id and the name of an element are read back where no other name follows. -/
theorem plain?_id_name (n : ExpandedName) (id : String) (name : Option String)
    (rest : List (ExpandedName × String)) (children : List Element)
    (h : (Element.node n rest children).plain? "name" = none) :
    let e := Element.node n
      (plainAttribute "id" id :: name.toList.map (plainAttribute "name") ++ rest) children
    e.plain? "id" = some id ∧ e.plain? "name" = name := by
  have unnamed : (Element.node n rest children).attribute? ⟨none, "name"⟩ = none := h
  cases name <;> simp [Element.plain?, Element.attribute?_cons, plainAttribute, unnamed]

/-- What a service task refers to is not empty. -/
theorem BindingPair.reference_ne {typeName : Option String} {reference : String}
    (h : BindingPair typeName (some reference)) : reference ≠ "" := by
  cases h with
  | bound form ne => exact ne
  | webService ne => exact ne

/-- A way of implementation that refers to nothing has a name that is not empty. -/
theorem BindingPair.name_ne {name : String} (h : BindingPair (some name) none) : name ≠ "" := by
  cases h with
  | engineType ne => exact ne

namespace Implementation

/-- The attribute of engines that says an implementation, if there is one. -/
def engineAttribute? : Implementation → Option (String × String)
  | bound form reference => some (form.name, reference)
  | engineType name => some ("type", name)
  | unbound | webService _ => none

/-- Among the attributes of an implementation is no other attribute of engines than its own. -/
theorem engineAttribute?_node {i : Implementation} (h : i.Expressible) (n : ExpandedName)
    {before : List (ExpandedName × String)} (children : List Element)
    (skipped : ∀ a ∈ before, a.1.space = none) (localName : String) :
    ProcessStubs.engineAttribute? (.node n (before ++ i.toAttributes) children) localName =
      i.engineAttribute?.bind fun x => if x.1 = localName then some x.2 else none := by
  have found (space : String) :
      (Element.node n (before ++ i.toAttributes) children).attribute? ⟨some space, localName⟩ =
        i.engineAttribute?.bind fun x =>
          if canonicalEngine = space ∧ x.1 = localName then some x.2 else none := by
    rw [Element.attribute?_skip]
    · cases i <;> simp [toAttributes, engineAttribute?, Element.attribute?_cons,
        Element.attribute?_nil, plainAttribute]
    · intro a ha heq
      have plain := skipped a ha
      rw [heq] at plain
      cases plain
  have ne : ∀ x ∈ i.engineAttribute?, x.2 ≠ "" := by
    cases i with
    | unbound => simp [engineAttribute?]
    | webService reference => simp [engineAttribute?]
    | bound form reference => simpa [engineAttribute?] using BindingPair.reference_ne h
    | engineType name => simpa [engineAttribute?] using BindingPair.name_ne h
  simp only [ProcessStubs.engineAttribute?, found]
  cases hx : i.engineAttribute? with
  | none => rfl
  | some x =>
      have value := ne x hx
      by_cases hl : x.1 = localName <;>
        simp [engineNamespaces, canonicalEngine, hl, nonEmpty?, Option.filter, value]

/-- An implementation is read from its attributes. -/
theorem ofElement_toAttributes {i : Implementation} (h : i.Expressible) (n : ExpandedName)
    {before : List (ExpandedName × String)} (children : List Element)
    (skipped : ∀ a ∈ before, a.1.space = none ∧ a.1.localName ≠ "implementation") :
    ofElement (.node n (before ++ i.toAttributes) children) = i := by
  have engine := engineAttribute?_node h n children fun a ha => (skipped a ha).1
  have web : (Element.node n (before ++ i.toAttributes) children).plain? "implementation" =
      (Element.node n i.toAttributes children).plain? "implementation" := by
    refine Element.attribute?_skip ?_
    intro a ha heq
    have other := (skipped a ha).2
    rw [heq] at other
    exact other rfl
  rw [ofElement]
  simp only [engine, web]
  cases i with
  | unbound => rfl
  | bound form reference => cases form <;> rfl
  | engineType name => rfl
  | webService reference =>
      have value := BindingPair.reference_ne h
      simp [bindingForms, engineAttribute?, toAttributes, Element.plain?,
        Element.attribute?_cons, plainAttribute, nonEmpty?, Option.filter, value]

/-- None of the attributes of an implementation is a name. -/
theorem plain?_name_toAttributes (i : Implementation) (n : ExpandedName)
    (children : List Element) : (Element.node n i.toAttributes children).plain? "name" = none := by
  cases i <;> simp [Element.plain?, toAttributes, Element.attribute?_cons,
    Element.attribute?_nil, plainAttribute]

end Implementation

/-- A flow element is read from its element. -/
theorem FlowElement.ofElement?_toElement {x : FlowElement} (h : x.Expressible) :
    FlowElement.ofElement? x.toElement = some x := by
  cases x with
  | node k id name =>
      obtain ⟨hid, hname⟩ := plain?_id_name (modelName k.name) id name [] [] rfl
      have named : modelName k.name ≠ modelName "serviceTask" := by
        simp [modelName, k.name_ne_serviceTask]
      rw [ofElement?]
      simp only [toElement, kindName, task?, FlowElement.id, FlowElement.name, Option.map_none,
        Option.getD_none, hid, hname, Element.name, if_neg named]
      simp [modelName, NodeKind.ofName?_name]
  | serviceTask t =>
      obtain ⟨id, name, i⟩ := t
      have skipped : ∀ a ∈ plainAttribute "id" id :: name.toList.map (plainAttribute "name"),
          a.1.space = none ∧ a.1.localName ≠ "implementation" := by
        simp [plainAttribute]
      have unnamed := i.plain?_name_toAttributes (modelName "serviceTask") []
      have read := Implementation.ofElement_toAttributes (h.implementation _ rfl)
        (modelName "serviceTask") [] skipped
      obtain ⟨hid, hname⟩ := plain?_id_name (modelName "serviceTask") id name i.toAttributes []
        unnamed
      rw [ofElement?]
      simp only [toElement, kindName, task?, FlowElement.id, FlowElement.name, Option.map_some,
        Option.getD_some, hid, hname, read, Element.name, if_true]

/-- Whether a process is executable is read back. -/
theorem isExecutable_written (executable : Bool) :
    isExecutable (some (if executable then "true" else "false")) = executable := by
  cases executable <;> decide +kernel

/-- A process is read from its element. -/
theorem Process.ofElement_toElement {p : Process} (h : p.Expressible) :
    Process.ofElement p.toElement = .ok p := by
  obtain ⟨hid, hname⟩ := plain?_id_name (modelName "process") p.id p.name
    [plainAttribute "isExecutable" (if p.executable then "true" else "false")]
    (p.elements.map FlowElement.toElement) rfl
  have hexecutable : p.toElement.plain? "isExecutable" =
      some (if p.executable then "true" else "false") := by
    cases hn : p.name <;>
      simp [toElement, hn, Element.plain?, Element.attribute?_cons, plainAttribute]
  have helements : (p.elements.map FlowElement.toElement).filterMap FlowElement.ofElement? =
      p.elements := by
    rw [List.filterMap_map]
    conv_rhs => rw [← List.filterMap_some (l := p.elements)]
    refine List.filterMap_congr ?_
    intro x hx
    exact FlowElement.ofElement?_toElement (h.elements x hx)
  rw [Process.ofElement, hexecutable, isExecutable_written, toElement]
  simp only [hid, hname, Option.getD_some, h.id_stripped, if_neg h.id_ne, Element.children,
    helements]

/-- A participant is read from its element. -/
theorem Participant.ofElement_toElement (p : Participant) :
    Participant.ofElement p.toElement = p := by
  obtain ⟨name, processRef⟩ := p
  cases name <;> cases processRef <;> rfl

namespace ProcessDocument

/-- The children of a canonical tree are the processes and the one collaboration. -/
theorem childrenNamed_toElement (d : ProcessDocument) :
    d.toElement.childrenNamed (modelName "process") = d.processes.map Process.toElement ∧
    d.toElement.childrenNamed (modelName "collaboration") =
      [.node (modelName "collaboration") [] (d.participants.map Participant.toElement)] := by
  have processes : ∀ e ∈ d.processes.map Process.toElement, e.name = modelName "process" := by
    intro e he
    obtain ⟨p, -, rfl⟩ := List.mem_map.mp he
    rfl
  have other : modelName "process" ≠ modelName "collaboration" := by decide
  constructor
  · rw [toElement, Element.childrenNamed, Element.children, List.filter_append,
      List.filter_eq_self.mpr fun e he => beq_iff_eq.mpr (processes e he)]
    simp [Element.name, other.symm]
  · rw [toElement, Element.childrenNamed, Element.children, List.filter_append,
      List.filter_eq_nil_iff.mpr fun e he => by simp [processes e he, other]]
    simp [Element.name]

/-- The participants of a canonical tree are those of the document. -/
theorem participantsOf_toElement (d : ProcessDocument) :
    participantsOf d.toElement = d.participants := by
  rw [participantsOf, d.childrenNamed_toElement.2, List.flatMap_singleton, Element.childrenNamed,
    Element.children, List.filter_eq_self.mpr (by simp [Participant.toElement, Element.name]),
    List.map_map]
  conv_rhs => rw [← List.map_id d.participants]
  exact List.map_congr_left fun p _ => p.ofElement_toElement

/-- **An expressible document is read from its canonical tree.** -/
theorem ofElement_toElement {d : ProcessDocument} (h : d.Expressible) :
    ofElement d.source d.toElement = .ok d := by
  refine ofElement_eq_ok_iff.mpr ⟨rfl, ?_, ?_⟩
  · rw [d.childrenNamed_toElement.1, mapM_eq_ok_iff, List.forall₂_map_left_iff, List.forall₂_same]
    intro p hp
    exact Process.ofElement_toElement (h p hp)
  · rw [participantsOf_toElement]

/-- Runs read the bytes of a file as the tree of their source is read; it is the run that says which
source a fault is of. -/
theorem parse_eq_mapError_ofBytes (source : Option Path) (bytes : ByteArray) :
    parse source bytes = (ofBytes source bytes).mapError (DocumentError.mk source) := by
  rw [parse, ofBytes]
  cases Markup.readDocument bytes.toList with
  | error fault => rfl
  | ok root =>
      dsimp only [ofTree]
      cases ofElement source root <;> rfl

/-- **Reading trees of a source.** An error is about the source. There is one exactly if the root is
no definition or a process lacks an id, be it executable or not; else what is read is expressible,
and each expressible document of the source is read from its canonical tree. -/
theorem ofTree_exact (source : Option Path) :
    (∀ root, (∃ e, ofTree source (.ok root) = .error e ∧ e.source = source) ↔
      root.name ≠ modelName "definitions" ∨
        ∃ e ∈ root.children, e.name = modelName "process" ∧ LacksId e) ∧
    (∀ root e, ofTree source (.ok root) = .error e → e.source = source) ∧
    (∀ root d, ofTree source (.ok root) = .ok d → d.Expressible ∧ d.source = source) ∧
    ∀ d : ProcessDocument, d.Expressible → d.source = source →
      ofTree source (.ok d.toElement) = .ok d := by
  have told (root : Element) (e : DocumentError) (h : ofTree source (.ok root) = .error e) :
      e.source = source := by
    obtain ⟨fault, -, rfl⟩ := mapError_eq_error_iff.mp h
    rfl
  refine ⟨?_, told, ?_, ?_⟩
  · intro root
    rw [← @ofElement_eq_error_iff source root]
    constructor
    · rintro ⟨e, h, -⟩
      obtain ⟨fault, hfault, -⟩ := mapError_eq_error_iff.mp h
      exact ⟨fault, hfault⟩
    · rintro ⟨fault, h⟩
      exact ⟨_, mapError_eq_error_iff.mpr ⟨fault, h, rfl⟩, rfl⟩
  · intro root d h
    have read := mapError_eq_ok_iff.mp h
    exact ⟨expressible_of_ofElement read, by rw [(ofElement_eq_ok_iff.mp read).2.2]⟩
  · rintro d h rfl
    rw [ofTree, ofElement_toElement h]
    rfl

/-- A document with a bean call and a participant is read from its canonical tree. -/
theorem ofTree_exact_orders :
    let task : ServiceTask := ⟨"Task_1", none, .bound .expression "$\x7borders.take()\x7d"⟩
    let d : ProcessDocument :=
      ⟨[⟨"Order", some "", false, [.node .startEvent "" none, .serviceTask task]⟩],
        [⟨none, some "Order"⟩], some ⟨.relative, ["orders.bpmn"]⟩⟩
    d.Expressible ∧ ofTree d.source (.ok d.toElement) = .ok d := by
  intro task d
  have expressible : d.Expressible := by
    intro p hp
    rw [List.mem_singleton.mp hp]
    refine ⟨by decide, by decide +kernel, ?_⟩
    intro x hx
    refine ⟨x.kindName_mem, x.isSome_task?_iff, ?_⟩
    rcases List.mem_cons.mp hx with rfl | hx
    · exact nofun
    · rw [List.mem_singleton.mp hx]
      intro t ht
      cases ht
      exact .bound .expression (by decide)
  exact ⟨expressible, (ofTree_exact d.source).2.2.2 d expressible rfl⟩

end ProcessDocument

end ProcessStubs
