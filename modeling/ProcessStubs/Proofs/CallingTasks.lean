import ProcessStubs.Proofs.BeanCalls
import ProcessStubs.Proofs.TreeEdits

/-!
# Which service tasks call beans

An element binds its service task through attributes that the engines share. An attribute that
several engines give counts once, with the value of the first engine that gives it one; and of the
binding attributes the class counts before the expression. So a service task calls a bean exactly if
no engine gives it a class, and the expression that it is given is a call. What is said of its type
and of its standard implementation is looked at only after that, and never makes a call of it.

The engines are equal otherwise: to which one of them an element speaks is no matter, as long as it
speaks to one.

## Main results

* `implementation_eq_expression_iff`: which elements are bound by an expression.
* `ofTask?_eq_some_iff`: which service tasks call a bean.
* `ofElement?_moveAttributes`: to which engine an element speaks is no matter.
* `ofTask?_exact`: all of this about the service task of an element.
-/

namespace ProcessStubs

open Markup

/-! ### What the engines give -/

/-- The engines give an element a value: it is that of the first one, in their order, that gives it
one. An empty value counts as none. -/
def GivenByEngines (e : Element) (localName value : String) : Prop :=
  ∃ before space after, engineNamespaces = before ++ space :: after ∧
    e.attribute? ⟨some space, localName⟩ = some value ∧ value ≠ "" ∧
    ∀ earlier ∈ before, ∀ v, e.attribute? ⟨some earlier, localName⟩ = some v → v = ""

/-- No engine gives an element a value. -/
def NotGivenByEngines (e : Element) (localName : String) : Prop :=
  ∀ space ∈ engineNamespaces, ∀ v, e.attribute? ⟨some space, localName⟩ = some v → v = ""

/-- There is nothing but an empty text exactly if no other text is there. -/
theorem nonEmpty?_eq_none_iff {o : Option String} :
    nonEmpty? o = none ↔ ∀ v, o = some v → v = "" := by
  simp [nonEmpty?, Option.filter_eq_none_iff]

/-- The value that is found is the one that the engines give. -/
theorem engineAttribute?_eq_some_iff {e : Element} {localName value : String} :
    engineAttribute? e localName = some value ↔ GivenByEngines e localName value := by
  rw [engineAttribute?, List.findSome?_eq_some_iff]
  simp only [nonEmpty?_eq_some_iff, nonEmpty?_eq_none_iff, GivenByEngines, and_assoc]

/-- No value is found exactly if no engine gives one. -/
theorem engineAttribute?_eq_none_iff {e : Element} {localName : String} :
    engineAttribute? e localName = none ↔ NotGivenByEngines e localName := by
  rw [engineAttribute?, List.findSome?_eq_none_iff]
  simp only [nonEmpty?_eq_none_iff, NotGivenByEngines]

/-! ### Tasks that call -/

/-- An element binds its task by an expression exactly if it is given this and no class. -/
theorem implementation_eq_expression_iff {e : Element} {text : String} :
    Implementation.ofElement e = .bound .expression text ↔
      NotGivenByEngines e "class" ∧ GivenByEngines e "expression" text := by
  have names : BindingForm.className.name = "class" ∧ BindingForm.expression.name = "expression" :=
    ⟨rfl, rfl⟩
  rw [← engineAttribute?_eq_none_iff, ← engineAttribute?_eq_some_iff, Implementation.ofElement,
    bindingForms, List.findSome?_cons, List.findSome?_cons, names.1, names.2]
  cases engineAttribute? e "class" with
  | some reference => simp
  | none =>
      cases engineAttribute? e "expression" with
      | some reference => simp
      | none =>
          -- Each of the later attributes gives an implementation of another kind.
          cases hdelegate : engineAttribute? e BindingForm.delegateExpression.name <;>
            cases engineAttribute? e "type" <;>
              cases nonEmpty? (e.plain? "implementation") <;> simp [hdelegate]

namespace BeanCall

/-- A task calls exactly if it is bound by an expression that is a call. -/
theorem ofTask?_eq_some_iff_bound {task : ServiceTask} {call : BeanCall} :
    ofTask? task = some call ↔
      ∃ text, task.implementation = .bound .expression text ∧ ofExpression? text = some call := by
  rw [ofTask?, match?]
  cases task.implementation with
  | unbound => simp [Implementation.typeName?]
  | engineType name => simp [Implementation.reference?]
  | webService reference => simp [Implementation.typeName?, BindingForm.name]
  | bound form reference =>
      cases form <;> simp [Implementation.typeName?, Implementation.reference?, BindingForm.name]

/-- **Which service tasks call a bean**: those that are given no class, and an expression that is
written for the bean and its method. -/
theorem ofTask?_eq_some_iff {e : Element} {task : ServiceTask}
    (h : FlowElement.ofElement? e = some (.serviceTask task)) {bean method : String} :
    ofTask? task = some ⟨bean, method⟩ ↔
      NotGivenByEngines e "class" ∧ GivenByEngines e "expression" (expression bean method) ∧
        IsBean bean ∧ IsMethod method := by
  obtain ⟨-, implementation⟩ := FlowElement.of_ofElement?_eq_serviceTask h
  simp only [ofTask?_eq_some_iff_bound, implementation,
    implementation_eq_expression_iff, ofExpression?_eq_some_iff]
  constructor
  · rintro ⟨text, ⟨noClass, given⟩, rfl, names⟩
    exact ⟨noClass, given, names⟩
  · rintro ⟨noClass, given, names⟩
    exact ⟨_, ⟨noClass, given⟩, rfl, names⟩

/-- A task that is not given an expression calls nothing. -/
theorem ofTask?_of_notGiven {e : Element} {task : ServiceTask}
    (h : FlowElement.ofElement? e = some (.serviceTask task))
    (none : NotGivenByEngines e "expression") : ofTask? task = .none := by
  rw [Option.eq_none_iff_forall_ne_some]
  rintro ⟨bean, method⟩ call
  obtain ⟨-, given, -⟩ := (ofTask?_eq_some_iff h).mp call
  rw [← engineAttribute?_eq_some_iff, engineAttribute?_eq_none_iff.mpr none] at given
  cases given

end BeanCall

/-! ### Moving from one engine to another -/

/-- The engine attributes of an element are all of one namespace. -/
def Markup.Element.SpeaksTo (e : Element) (home : String) : Prop :=
  ∀ a ∈ e.attributes, ∀ space ∈ engineNamespaces, a.1.space = some space → space = home

/-- A name moved from one namespace to another, if it is of the first one. -/
def Markup.ExpandedName.move (home other : String) (n : ExpandedName) : ExpandedName :=
  if n.space = some home then ⟨some other, n.localName⟩ else n

/-- An element whose attributes of one namespace are moved to another. -/
def Markup.Element.moveAttributes (home other : String) : Element → Element
  | .node name attributes children =>
    .node name (attributes.map fun a => (a.1.move home other, a.2)) children

namespace Markup.Element

variable {e : Element} {home other : String}

/-- The name of an element stays where it is. -/
@[simp] theorem name_moveAttributes : (e.moveAttributes home other).name = e.name := by
  cases e
  rfl

/-- All attributes of an element are moved. -/
theorem attributes_moveAttributes :
    (e.moveAttributes home other).attributes =
      e.attributes.map fun a => (a.1.move home other, a.2) := by
  cases e
  rfl

/-- A value is found again under a new name that only the old name is moved to. -/
theorem attribute?_moveAttributes {n n' : ExpandedName}
    (h : ∀ a ∈ e.attributes, a.1.move home other = n' ↔ a.1 = n) :
    (e.moveAttributes home other).attribute? n' = e.attribute? n := by
  rw [attribute?, attribute?, attributes_moveAttributes]
  generalize e.attributes = l at h
  induction l with
  | nil => rfl
  | cons a rest ih =>
      obtain ⟨same, others⟩ := List.forall_mem_cons.mp h
      rw [List.map_cons]
      by_cases found : a.1 = n
      · have moved : a.1.move home other = n' := same.mpr found
        rw [List.find?_cons_of_pos (by simp [moved]), List.find?_cons_of_pos (by simp [found])]
        rfl
      · have kept : a.1.move home other ≠ n' := fun heq => found (same.mp heq)
        rw [List.find?_cons_of_neg (by simp [kept]), List.find?_cons_of_neg (by simp [found])]
        exact ih others

/-- An element that speaks to one engine has no attributes of another. -/
theorem SpeaksTo.attribute?_eq_none (h : e.SpeaksTo home) {space : String}
    (engine : space ∈ engineNamespaces) (different : space ≠ home) (localName : String) :
    e.attribute? ⟨some space, localName⟩ = none := by
  rw [attribute?, Option.map_eq_none_iff, List.find?_eq_none]
  intro a ha found
  have named : a.1 = ⟨some space, localName⟩ := eq_of_beq found
  exact different (h a ha space engine (by rw [named]))

/-- What an element speaks to moves with its attributes. -/
theorem SpeaksTo.moveAttributes (h : e.SpeaksTo home) (other : String) :
    (e.moveAttributes home other).SpeaksTo other := by
  intro a ha space engine hspace
  rw [attributes_moveAttributes] at ha
  obtain ⟨old, hold, rfl⟩ := List.mem_map.mp ha
  dsimp only [ExpandedName.move] at hspace
  split at hspace
  · exact (Option.some.inj hspace).symm
  · next elsewhere => exact absurd (h old hold space engine hspace ▸ hspace) elsewhere

/-- An attribute of no namespace is not moved. -/
theorem plain?_moveAttributes (localName : String) :
    (e.moveAttributes home other).plain? localName = e.plain? localName := by
  refine attribute?_moveAttributes ?_
  intro a ha
  rw [ExpandedName.move]
  split
  · next here =>
      constructor
      · intro heq
        cases heq
      · intro heq
        rw [heq] at here
        cases here
  · exact Iff.rfl

/-- An attribute of an engine is found in the namespace that it is moved to. -/
theorem SpeaksTo.attribute?_moveAttributes (h : e.SpeaksTo home)
    (engine : other ∈ engineNamespaces) (localName : String) :
    (e.moveAttributes home other).attribute? ⟨some other, localName⟩ =
      e.attribute? ⟨some home, localName⟩ := by
  refine Element.attribute?_moveAttributes ?_
  rintro ⟨⟨space, local'⟩, value⟩ ha
  rw [ExpandedName.move]
  by_cases here : space = some home
  · simp [here]
  · have elsewhere : space ≠ some other := by
      rintro rfl
      exact here (congrArg some (h _ ha other engine rfl))
    simp [here, elsewhere]

end Markup.Element

/-- If only one member of a list has a value, it is the first one that has. -/
theorem findSome?_eq_of_sole {α β : Type} {l : List α} {f : α → Option β} {a : α} (ha : a ∈ l)
    (sole : ∀ b ∈ l, b ≠ a → f b = none) : l.findSome? f = f a := by
  induction l with
  | nil => cases ha
  | cons b rest ih =>
      obtain ⟨hb, hrest⟩ := List.forall_mem_cons.mp sole
      rw [List.findSome?_cons]
      by_cases same : b = a
      · rw [same]
        cases found : f a with
        | some value => rfl
        | none =>
            have nothing : ∀ c ∈ rest, f c = none := fun c hc => by
              by_cases hca : c = a
              · rw [hca, found]
              · exact hrest c hc hca
            exact List.findSome?_eq_none_iff.mpr nothing
      · rw [hb same]
        exact ih ((List.mem_cons.mp ha).resolve_left (Ne.symm same)) hrest

/-- The value that an element is given is that of the engine it speaks to. -/
theorem Markup.Element.SpeaksTo.engineAttribute?_eq {e : Element} {home : String}
    (h : e.SpeaksTo home) (engine : home ∈ engineNamespaces) (localName : String) :
    engineAttribute? e localName = nonEmpty? (e.attribute? ⟨some home, localName⟩) := by
  refine findSome?_eq_of_sole engine ?_
  intro space hspace different
  rw [h.attribute?_eq_none hspace different]
  rfl

/-- **To which engine an element speaks is no matter**: moved to another one, it declares the same
flow element. -/
theorem FlowElement.ofElement?_moveAttributes {e : Element} {home other : String}
    (h : e.SpeaksTo home) (from' : home ∈ engineNamespaces) (to' : other ∈ engineNamespaces) :
    FlowElement.ofElement? (e.moveAttributes home other) = FlowElement.ofElement? e := by
  have given (localName : String) :
      engineAttribute? (e.moveAttributes home other) localName = engineAttribute? e localName := by
    rw [(h.moveAttributes other).engineAttribute?_eq to', h.engineAttribute?_eq from',
      h.attribute?_moveAttributes to']
  simp only [FlowElement.ofElement?, Implementation.ofElement, given,
    Element.plain?_moveAttributes, Element.name_moveAttributes]

/-! ### The service task of an element -/

/-- **Which service tasks call a bean.** The element of a service task declares one, and this calls
a method of a bean exactly if no engine gives the element a class, and the expression that the
engines give it is written for that method and bean. A task that is known by its type or as a web
service, or that is given no expression, calls nothing, whatever its type and its implementation
look like. And an element that speaks to one engine declares the same task if it is moved to
another. -/
theorem BeanCall.ofTask?_exact (e : Element) (h : e.name = modelName "serviceTask") :
    ∃ task, FlowElement.ofElement? e = some (.serviceTask task) ∧
      (∀ bean method, BeanCall.ofTask? task = some ⟨bean, method⟩ ↔
        NotGivenByEngines e "class" ∧ GivenByEngines e "expression" (expression bean method) ∧
          IsBean bean ∧ IsMethod method) ∧
      (∀ text, task.implementation = .engineType text ∨ task.implementation = .webService text →
        BeanCall.ofTask? task = none) ∧
      (NotGivenByEngines e "expression" → BeanCall.ofTask? task = none) ∧
      ∀ home ∈ engineNamespaces, ∀ other ∈ engineNamespaces, e.SpeaksTo home →
        FlowElement.ofElement? (e.moveAttributes home other) = some (.serviceTask task) := by
  have declared : FlowElement.ofElement? e = some (.serviceTask
      ⟨(e.plain? "id").getD "", e.plain? "name", Implementation.ofElement e⟩) := if_pos h
  refine ⟨_, declared, fun bean method => ofTask?_eq_some_iff declared, ?_,
    ofTask?_of_notGiven declared, ?_⟩
  · intro text known
    rw [Option.eq_none_iff_forall_ne_some]
    intro call hcall
    obtain ⟨expression, bound, -⟩ := ofTask?_eq_some_iff_bound.mp hcall
    rw [bound] at known
    rcases known with known | known
    all_goals cases known
  · intro home hhome other hother speaks
    rw [FlowElement.ofElement?_moveAttributes speaks hhome hother, declared]

/-- The element of a service task that is given an empty class and an expression by the second
engine, and an expression by the third one. -/
def Markup.Element.servedTwice : Element :=
  .node (modelName "serviceTask") [
    (⟨some "http://camunda.org/schema/1.0/bpmn", "class"⟩, ""),
    (⟨some "http://camunda.org/schema/1.0/bpmn", "expression"⟩, "$\x7border.place()\x7d"),
    (⟨some "http://flowable.org/bpmn", "expression"⟩, "$\x7border.cancel()\x7d")] []

/-- It calls what the second engine says. -/
theorem BeanCall.ofTask?_exact_servedTwice :
    Element.servedTwice.name = modelName "serviceTask" ∧
      ∃ task, FlowElement.ofElement? Element.servedTwice = some (.serviceTask task) ∧
        BeanCall.ofTask? task = some ⟨"order", "place"⟩ := by
  obtain ⟨task, declared, calls, -⟩ := ofTask?_exact Element.servedTwice rfl
  refine ⟨rfl, task, declared, (calls _ _).mpr ⟨?_, ?_, by decide, by decide⟩⟩
  · rw [← engineAttribute?_eq_none_iff]
    decide +kernel
  · rw [← engineAttribute?_eq_some_iff]
    decide +kernel

end ProcessStubs
