/-!
# Elements

The tree of elements of a document. Names are expanded: a namespace, if any, and a local name.
Character data, comments and instructions say nothing about processes and are not kept.
-/

namespace ProcessStubs.Markup

/-- A name with the namespace it belongs to. -/
structure ExpandedName where
  space : Option String
  localName : String
deriving Repr, DecidableEq

/-- An element with its attributes and its child elements in document order. -/
inductive Element where
  | node (name : ExpandedName) (attributes : List (ExpandedName × String)) (children : List Element)
deriving Repr

namespace Element

/-- The name of an element. -/
def name : Element → ExpandedName
  | node n _ _ => n

/-- The attributes of an element in the order they are written. -/
def attributes : Element → List (ExpandedName × String)
  | node _ a _ => a

/-- The child elements. -/
def children : Element → List Element
  | node _ _ c => c

/-- The value of an attribute. -/
def attribute? (e : Element) (name : ExpandedName) : Option String :=
  (e.attributes.find? (·.1 == name)).map (·.2)

/-- The value of an attribute that belongs to no namespace. -/
def plain? (e : Element) (localName : String) : Option String := e.attribute? ⟨none, localName⟩

/-- The child elements of a name. -/
def childrenNamed (e : Element) (name : ExpandedName) : List Element :=
  e.children.filter (·.name == name)

end Element

end ProcessStubs.Markup
