import ProcessStubs.Proofs.DocumentImage
import ProcessStubs.Proofs.Frozen
import ProcessStubs.Settings.Basic
import Mathlib.Logic.Relation

/-!
# What does not matter in a tree

An element plays a role in a tree by its name and by the role of the element around it. Elements
without a role, and attributes that are not looked at in a role, can be put into a tree or taken out
of it, at any depth and in any number, without a change of the document that the tree declares. So
stubs come from the processes right below the root and from the service tasks right below these, and
from nothing else.

## Main definitions

* `Role`: what an element is in a tree, with the attributes that are looked at (`Role.reads`).
* `Insertion`: something that does not matter is put into a tree.

## Main results

* `Insertion.filterMap_children`: children are read alike before and after.
* `ProcessDocument.ofElement_eq_of_edits`: edits leave what a tree declares.
* `ProcessDocument.declaredIn_of_mem_stubsOf`: where stubs come from.
* `ProcessDocument.reads_what_matters`: edits leave stubs, too, and where these come from.
-/

namespace ProcessStubs

open Markup Text

/-- What an element is in a tree that declares a document. -/
inductive Role where
  | definitions
  | process
  | collaboration
  | serviceTask
  | node
  | participant
  | ignored
deriving Repr, DecidableEq

namespace Role

/-- The role of a child by its name. Nothing inside of flow elements and participants has one. -/
def ofChild (role : Role) (name : ExpandedName) : Role :=
  match role with
  | definitions =>
    if name = modelName "process" then process
    else if name = modelName "collaboration" then collaboration
    else ignored
  | process =>
    if name.space = some modelNamespace ∧ name.localName ∈ flowElementKinds then
      if name.localName = "serviceTask" then serviceTask else node
    else ignored
  | collaboration => if name = modelName "participant" then participant else ignored
  | serviceTask | node | participant | ignored => ignored

/-- The attributes that are looked at in a role. -/
def reads (role : Role) (name : ExpandedName) : Prop :=
  match role with
  | process => name.space = none ∧ name.localName ∈ ["id", "name", "isExecutable"]
  | serviceTask =>
    name.space = none ∧ name.localName ∈ ["id", "name", "implementation"] ∨
      ∃ space ∈ engineNamespaces, name.space = some space ∧
        name.localName ∈ ["class", "expression", "delegateExpression", "type"]
  | node => name.space = none ∧ name.localName ∈ ["id", "name"]
  | participant => name.space = none ∧ name.localName ∈ ["name", "processRef"]
  | definitions | collaboration | ignored => False

end Role

/-- **Something that does not matter is put into an element** of a role: a child without a role, an
attribute that is not looked at, or either of them somewhere inside of a child. -/
inductive Insertion : Role → Element → Element → Prop
  | newChild {role : Role} {name : ExpandedName} {attributes : List (ExpandedName × String)}
      (before : List Element) {after : List Element} {new : Element} :
      role.ofChild new.name = .ignored →
      Insertion role (.node name attributes (before ++ after))
        (.node name attributes (before ++ new :: after))
  | newAttribute {role : Role} {name : ExpandedName}
      (before : List (ExpandedName × String)) {after : List (ExpandedName × String)}
      {new : ExpandedName × String} {children : List Element} :
      ¬ role.reads new.1 →
      Insertion role (.node name (before ++ after) children)
        (.node name (before ++ new :: after) children)
  | inChild {role : Role} {name : ExpandedName} {attributes : List (ExpandedName × String)}
      (before : List Element) {after : List Element} {old new : Element} :
      Insertion (role.ofChild old.name) old new →
      Insertion role (.node name attributes (before ++ old :: after))
        (.node name attributes (before ++ new :: after))

/-- Two trees that differ in what does not matter: one becomes the other where things that do not
matter are put in and taken out, again and again. -/
def SameMatter (role : Role) : Element → Element → Prop := Relation.EqvGen (Insertion role)

/-- The children of a name are read by passing over all others. -/
theorem Markup.Element.map_childrenNamed {β : Type} (e : Element) (name : ExpandedName)
    (f : Element → β) :
    (e.childrenNamed name).map f =
      e.children.filterMap fun c => if c.name = name then some (f c) else none := by
  rw [← List.filterMap_eq_map, childrenNamed, List.filterMap_filter]
  simp

namespace Insertion

variable {role : Role} {e e' : Element}

/-- An insertion leaves the name of the element. -/
theorem name_eq (h : Insertion role e e') : e'.name = e.name := by
  cases h <;> rfl

/-- An insertion leaves the attributes that are looked at. -/
theorem attribute?_eq (h : Insertion role e e') {name : ExpandedName} (read : role.reads name) :
    e'.attribute? name = e.attribute? name := by
  cases h with
  | newChild _ _ => rfl
  | inChild _ _ => rfl
  | @newAttribute _ n before after new children unread =>
      have other : new.1 ≠ name := by
        rintro rfl
        exact unread read
      simp [Element.attribute?, Element.attributes, List.find?_append, other]

/-- An insertion leaves what is read from the children, if nothing is read from those without a role
and the same from the others before and after an insertion. -/
theorem filterMap_children {β : Type} {f : Element → Option β} (h : Insertion role e e')
    (ignores : ∀ c, role.ofChild c.name = .ignored → f c = none)
    (agrees : ∀ c c', Insertion (role.ofChild c.name) c c' → f c' = f c) :
    e'.children.filterMap f = e.children.filterMap f := by
  cases h with
  | newChild _ ignored => simp [Element.children, ignores _ ignored]
  | newAttribute _ _ => rfl
  | inChild _ inner => simp [Element.children, List.filterMap_cons, agrees _ _ inner]

/-- An insertion leaves what is read from the children of a name that has a role. -/
theorem map_childrenNamed {β : Type} {f : Element → β} (h : Insertion role e e')
    (name : ExpandedName) {inner : Role} (plays : role.ofChild name = inner)
    (known : inner ≠ .ignored) (agrees : ∀ c c', Insertion inner c c' → f c' = f c) :
    (e'.childrenNamed name).map f = (e.childrenNamed name).map f := by
  rw [Element.map_childrenNamed, Element.map_childrenNamed]
  refine h.filterMap_children ?_ ?_
  · intro c ignored
    rw [if_neg]
    rintro rfl
    exact known (plays.symm.trans ignored)
  · intro c c' step
    rw [step.name_eq]
    by_cases hc : c.name = name
    · rw [hc, plays] at step
      rw [if_pos hc, if_pos hc, agrees c c' step]
    · rw [if_neg hc, if_neg hc]

/-- An insertion leaves the attributes of engines of a service task. -/
theorem engineAttribute?_eq (h : Insertion .serviceTask e e') {localName : String}
    (read : localName ∈ ["class", "expression", "delegateExpression", "type"]) :
    engineAttribute? e' localName = engineAttribute? e localName := by
  have same : ∀ space ∈ engineNamespaces,
      e'.attribute? ⟨some space, localName⟩ = e.attribute? ⟨some space, localName⟩ :=
    fun space hspace => h.attribute?_eq (.inr ⟨space, hspace, rfl, read⟩)
  simp only [engineNamespaces, List.forall_mem_cons] at same
  obtain ⟨first, second, third, -⟩ := same
  simp only [engineAttribute?, engineNamespaces, List.findSome?_cons, List.findSome?_nil, first,
    second, third]

/-- An insertion leaves the implementation of a service task. -/
theorem implementation_eq (h : Insertion .serviceTask e e') :
    Implementation.ofElement e' = Implementation.ofElement e := by
  have bound (form : BindingForm) : engineAttribute? e' form.name = engineAttribute? e form.name :=
    h.engineAttribute?_eq (by cases form <;> decide)
  have type : engineAttribute? e' "type" = engineAttribute? e "type" :=
    h.engineAttribute?_eq (by decide)
  have web : e'.plain? "implementation" = e.plain? "implementation" :=
    h.attribute?_eq (.inl ⟨rfl, by decide⟩)
  simp only [Implementation.ofElement, bound, type, web]

/-- An insertion leaves the participant. -/
theorem participant_eq (h : Insertion .participant e e') :
    Participant.ofElement e' = Participant.ofElement e := by
  have name : e'.plain? "name" = e.plain? "name" := h.attribute?_eq ⟨rfl, by decide⟩
  have processRef : e'.plain? "processRef" = e.plain? "processRef" :=
    h.attribute?_eq ⟨rfl, by decide⟩
  rw [Participant.ofElement, name, processRef, Participant.ofElement]

end Insertion

/-! ### Flow elements -/

/-- The children of a process are service tasks, other nodes, or nothing. -/
theorem Role.ofChild_process (name : ExpandedName) :
    name = modelName "serviceTask" ∧ Role.process.ofChild name = .serviceTask ∨
    (name ≠ modelName "serviceTask" ∧ name.space = some modelNamespace) ∧
      Role.process.ofChild name = .node ∨
    Role.process.ofChild name = .ignored := by
  obtain ⟨space, localName⟩ := name
  simp only [ofChild, modelName, ExpandedName.mk.injEq, ne_eq]
  by_cases flow : space = some modelNamespace ∧ localName ∈ flowElementKinds
  · by_cases task : localName = "serviceTask"
    · exact .inl ⟨⟨flow.1, task⟩, by rw [if_pos flow, if_pos task]⟩
    · exact .inr (.inl ⟨⟨fun h => task h.2, flow.1⟩, by rw [if_pos flow, if_neg task]⟩)
  · exact .inr (.inr (by rw [if_neg flow]))

/-- An element of no kind declares no flow element. -/
theorem FlowElement.ofElement?_eq_none {e : Element}
    (h : Role.process.ofChild e.name = .ignored) : FlowElement.ofElement? e = none := by
  have unlisted : ¬ (e.name.space = some modelNamespace ∧ e.name.localName ∈ flowElementKinds) := by
    intro flow
    rw [Role.ofChild, if_pos flow] at h
    split at h <;> cases h
  have task : e.name ≠ modelName "serviceTask" := by
    intro named
    exact unlisted (named ▸ ⟨rfl, List.mem_cons_self⟩)
  rw [ofElement?]
  simp only [if_neg task]
  split
  · next space =>
      cases kind : NodeKind.ofName? e.name.localName with
      | none => rfl
      | some k =>
          refine absurd ⟨space, List.mem_cons_of_mem _ ?_⟩ unlisted
          exact List.mem_map.mpr ⟨k, k.mem_all, NodeKind.name_of_ofName? kind⟩
  · rfl

namespace Insertion

variable {e e' : Element}

/-- An insertion into a child of a process leaves the flow element. -/
theorem flowElement_eq (h : Insertion (Role.process.ofChild e.name) e e') :
    FlowElement.ofElement? e' = FlowElement.ofElement? e := by
  rcases Role.ofChild_process e.name with ⟨task, role⟩ | ⟨⟨other, space⟩, role⟩ | role
  · rw [role] at h
    have id : e'.plain? "id" = e.plain? "id" := h.attribute?_eq (.inl ⟨rfl, by decide⟩)
    have name : e'.plain? "name" = e.plain? "name" := h.attribute?_eq (.inl ⟨rfl, by decide⟩)
    simp only [FlowElement.ofElement?, h.name_eq, task, if_true, id, name, h.implementation_eq]
  · rw [role] at h
    have id : e'.plain? "id" = e.plain? "id" := h.attribute?_eq ⟨rfl, by decide⟩
    have name : e'.plain? "name" = e.plain? "name" := h.attribute?_eq ⟨rfl, by decide⟩
    simp only [FlowElement.ofElement?, h.name_eq, if_neg other, if_pos space, id, name]
  · rw [FlowElement.ofElement?_eq_none role, FlowElement.ofElement?_eq_none (h.name_eq ▸ role)]

/-- An insertion into a process leaves the process. -/
theorem process_eq (h : Insertion .process e e') : Process.ofElement e' = Process.ofElement e := by
  have id : e'.plain? "id" = e.plain? "id" := h.attribute?_eq ⟨rfl, by decide⟩
  have name : e'.plain? "name" = e.plain? "name" := h.attribute?_eq ⟨rfl, by decide⟩
  have executable : e'.plain? "isExecutable" = e.plain? "isExecutable" :=
    h.attribute?_eq ⟨rfl, by decide⟩
  have elements := h.filterMap_children
    (fun _ => FlowElement.ofElement?_eq_none) fun _ _ => flowElement_eq
  simp only [Process.ofElement, id, name, executable, elements]

/-- An insertion into a collaboration leaves its participants. -/
theorem participants_eq (h : Insertion .collaboration e e') :
    (e'.childrenNamed (modelName "participant")).map Participant.ofElement =
      (e.childrenNamed (modelName "participant")).map Participant.ofElement :=
  h.map_childrenNamed (modelName "participant") rfl (by decide) fun _ _ => participant_eq

/-- **An insertion leaves the document that a tree declares**, and the fault if it declares none. -/
theorem document_eq (h : Insertion .definitions e e') (source : Option Path) :
    ProcessDocument.ofElement source e' = ProcessDocument.ofElement source e := by
  have processes : (e'.childrenNamed (modelName "process")).mapM Process.ofElement =
      (e.childrenNamed (modelName "process")).mapM Process.ofElement := by
    have same := h.map_childrenNamed (modelName "process") rfl (by decide)
      fun _ _ => process_eq
    simpa only [List.mapM_map, Function.id_comp] using congrArg (List.mapM id) same
  have participants := h.map_childrenNamed (modelName "collaboration") rfl (by decide)
    fun _ _ => participants_eq
  simp only [ProcessDocument.ofElement, h.name_eq, processes, List.flatMap_def, participants]

end Insertion

/-- **Edits leave the document that a tree declares**, and the fault if it declares none. -/
theorem ProcessDocument.ofElement_eq_of_edits {t t' : Element} (h : SameMatter .definitions t t')
    (source : Option Path) : ofElement source t' = ofElement source t := by
  induction h with
  | rel e e' step => exact step.document_eq source
  | refl e => rfl
  | symm e e' _ ih => exact ih.symm
  | trans e e' e'' _ _ first second => exact second.trans first

/-! ### Where stubs come from -/

/-- A stub is declared by a child of the root, as the service of that process, or by a child of such
a process, as the interface of the bean that this service task calls. -/
inductive Stub.DeclaredIn (s : Settings) (source : Option Path) (root : Element) : Stub → Prop
  | service {p : Element} {u : Stub} :
      p ∈ root.childrenNamed (modelName "process") → u.kind = .service →
      u.origin = strip ((p.plain? "id").getD "") → DeclaredIn s source root u
  | interface {p c : Element} {call : BeanCall} :
      p ∈ root.childrenNamed (modelName "process") →
      c ∈ p.childrenNamed (modelName "serviceTask") →
      BeanCall.match? (Implementation.ofElement c).typeName?
        (Implementation.ofElement c).reference? = some call →
      DeclaredIn s source root (.ofBeanCall s.packageName source call)

/-- Only children that are called so declare service tasks, and say how these are implemented. -/
theorem FlowElement.of_ofElement?_eq_serviceTask {e : Element} {task : ServiceTask}
    (h : FlowElement.ofElement? e = some (.serviceTask task)) :
    e.name = modelName "serviceTask" ∧ task.implementation = Implementation.ofElement e := by
  rw [ofElement?] at h
  split at h
  · next named =>
      cases h
      exact ⟨named, rfl⟩
  · split at h
    · obtain ⟨kind, -, node⟩ := Option.map_eq_some_iff.mp h
      cases node
    · cases h

/-- The service tasks of a process come from children of its element that are called so. -/
theorem Process.exists_of_mem_serviceTasks {e : Element} {p : Process}
    (h : Process.ofElement e = .ok p) {task : ServiceTask} (ht : task ∈ p.serviceTasks) :
    ∃ c ∈ e.childrenNamed (modelName "serviceTask"),
      task.implementation = Implementation.ofElement c := by
  obtain ⟨x, hx, htask⟩ := List.mem_filterMap.mp ht
  rw [Process.ofElement] at h
  split at h
  · cases h
  · cases h
    obtain ⟨c, hc, declared⟩ := List.mem_filterMap.mp hx
    cases x with
    | node kind id name => cases htask
    | serviceTask t =>
        cases htask
        obtain ⟨named, implementation⟩ := FlowElement.of_ofElement?_eq_serviceTask declared
        exact ⟨c, Element.mem_childrenNamed.mpr ⟨hc, named⟩, implementation⟩

/-- The id of a process is that of its element, stripped. -/
theorem Process.id_of_ofElement {e : Element} {p : Process} (h : Process.ofElement e = .ok p) :
    p.id = strip ((e.plain? "id").getD "") := by
  rw [Process.ofElement] at h
  split at h
  · cases h
  · cases h
    rfl

/-- The settings make the stubs of a document of its executable processes, each by itself. -/
theorem Settings.exists_of_mem_stubsOf {s : Settings} {d : ProcessDocument} {stubs : List Stub}
    (h : s.stubsOf d = .ok stubs) {u : Stub} (hu : u ∈ stubs) :
    ∃ runtime, ∃ p ∈ d.executable, u ∈ Stub.ofExecutable s.packageName runtime d p := by
  rw [stubsOf] at h
  split at h
  · cases h
    cases hu
  · obtain ⟨runtime, -, made⟩ := bind_eq_ok_iff.mp h
    cases made
    exact ⟨runtime, List.mem_flatMap.mp hu⟩

namespace ProcessDocument

/-- **Stubs come from the children of the root and from their children**, and from nothing else. -/
theorem declaredIn_of_mem_stubsOf {s : Settings} {source : Option Path} {root : Element}
    {d : ProcessDocument} (read : ofElement source root = .ok d) {stubs : List Stub}
    (made : s.stubsOf d = .ok stubs) {u : Stub} (hu : u ∈ stubs) : u.DeclaredIn s source root := by
  obtain ⟨-, processes, hd⟩ := ofElement_eq_ok_iff.mp read
  have from_source : d.source = source := congrArg ProcessDocument.source hd
  obtain ⟨runtime, p, hp, hu⟩ := Settings.exists_of_mem_stubsOf made hu
  obtain ⟨e, he, declared⟩ := (exists_of_mapM_eq_ok processes).2 p (List.mem_filter.mp hp).1
  rcases List.mem_cons.mp hu with rfl | hu
  · exact .service he rfl (Process.id_of_ofElement declared)
  · obtain ⟨call, hcall, rfl⟩ := List.mem_map.mp hu
    obtain ⟨task, htask, called⟩ := List.mem_filterMap.mp hcall
    obtain ⟨c, hc, implementation⟩ := Process.exists_of_mem_serviceTasks declared htask
    rw [BeanCall.ofTask?, implementation] at called
    rw [from_source]
    exact .interface he hc called

/-- **Reading depends only on what matters.** Of two trees that differ in what does not, the same
document is read, or there is none of either for the same reason; so the stubs are the same in the
same order, and each of them is declared right below the root, or right below a process there, in
both trees. -/
theorem reads_what_matters {t t' : Element} (h : SameMatter .definitions t t')
    (source : Option Path) (s : Settings) :
    ofTree source (.ok t') = ofTree source (.ok t) ∧
    (ofTree source (.ok t')).map s.stubsOf = (ofTree source (.ok t)).map s.stubsOf ∧
    ∀ d stubs, ofTree source (.ok t') = .ok d → s.stubsOf d = .ok stubs →
      ∀ u ∈ stubs, u.DeclaredIn s source t ∧ u.DeclaredIn s source t' := by
  have elements := ofElement_eq_of_edits h source
  have same : ofTree source (.ok t') = ofTree source (.ok t) := by
    rw [ofTree, elements, ofTree]
  refine ⟨same, by rw [same], ?_⟩
  intro d stubs read made u hu
  have read := mapError_eq_ok_iff.mp read
  exact ⟨declaredIn_of_mem_stubsOf (elements.symm.trans read) made hu,
    declaredIn_of_mem_stubsOf read made hu⟩

/-- A call inside of a sub-process and a process of a foreign namespace are put into a tree, and an
attribute of the root is taken out: the document stays. -/
theorem reads_what_matters_nested :
    let task := Element.node (modelName "serviceTask")
      [(⟨some "http://flowable.org/bpmn", "expression"⟩, "$\x7borders.take()\x7d")] []
    let process (inside : List Element) := Element.node (modelName "process")
      [(⟨none, "id"⟩, "Order")] [.node (modelName "subProcess") [] inside]
    let foreign := Element.node ⟨some "urn:other", "process"⟩ [(⟨none, "id"⟩, "Other")] []
    let t := Element.node (modelName "definitions") [(⟨none, "exporter"⟩, "")] [process []]
    let t' := Element.node (modelName "definitions") [] [foreign, process [task]]
    SameMatter .definitions t t' ∧ ofTree none (.ok t') = ofTree none (.ok t) := by
  intro task process foreign t t'
  have unattributed : SameMatter .definitions t (.node t.name [] [process []]) :=
    .symm _ _ (.rel _ _ (.newAttribute [] id))
  have unrelated : Insertion .definitions (.node t.name [] [process []])
      (.node t.name [] [foreign, process []]) :=
    .newChild [] (by decide)
  have nested : Insertion .definitions (.node t.name [] [foreign, process []]) t' :=
    .inChild [foreign] (.inChild [] (.newChild [] (by decide)))
  have edits : SameMatter .definitions t t' :=
    .trans _ _ _ unattributed (.trans _ _ _ (.rel _ _ unrelated) (.rel _ _ nested))
  exact ⟨edits, (reads_what_matters edits none Settings.standard).1⟩

end ProcessDocument

end ProcessStubs
