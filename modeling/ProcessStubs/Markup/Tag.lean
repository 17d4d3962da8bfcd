import ProcessStubs.Markup.Element
import ProcessStubs.Markup.Fault

/-!
# Start tags and namespaces

A start tag as it is written, and what it means where it stands: attribute values with their
references replaced, namespace declarations put into force, and names expanded. Faults are found in
the order of the attributes, first among the attributes one by one, then among the prefixed names.
-/

namespace ProcessStubs.Markup

/-- A piece of an attribute value: a character, a reference by number (`none` for a number that
stands for no character) or a reference by name. -/
inductive ValuePart where
  | literal (c : Char)
  | number (c : Option Char) (position : Position)
  | entity (name : List Char)
deriving Repr, DecidableEq

/-- An attribute as it is written. -/
structure RawAttribute where
  name : List Char
  position : Position
  value : List ValuePart
deriving Repr, DecidableEq

/-- A start tag as it is written, with the place of its first character. -/
structure RawTag where
  name : List Char
  position : Position
  attributes : List RawAttribute
deriving Repr, DecidableEq

/-- The namespaces in force, innermost first, by label; the empty label is the default. No
namespace is in force for a label bound to `none`. -/
abbrev Scope := List (List Char × Option String)

def xmlNamespace : String := "http://www.w3.org/XML/1998/namespace"

def xmlnsNamespace : String := "http://www.w3.org/2000/xmlns/"

/-- Outside of all elements only the label `xml` is bound. -/
def Scope.initial : Scope := [("xml".toList, some xmlNamespace)]

/-- The namespace that a label stands for. -/
def Scope.lookup (scope : Scope) (label : List Char) : Option String :=
  (scope.find? (·.1 == label)).bind (·.2)

/-- The character of a number, if it is an allowed one. -/
def characterOfNumber (n : Nat) : Option Char :=
  if h : n.isValidChar then
    let c := Char.ofNatAux n h
    if isAllowed c then some c else none
  else none

/-- The character that a predefined entity stands for. -/
def predefinedEntity : List Char → Option Char
  | ['l', 't'] => some '<'
  | ['g', 't'] => some '>'
  | ['a', 'm', 'p'] => some '&'
  | ['q', 'u', 'o', 't'] => some '"'
  | ['a', 'p', 'o', 's'] => some '\''
  | _ => none

/-- The character a piece of a value stands for. Tabs and line breaks that are written as
themselves are blanks. -/
def ValuePart.resolve (tagPosition : Position) : ValuePart → Except Fault Char
  | .literal c => .ok (if isSpace c then ' ' else c)
  | .number (some c) _ => .ok c
  | .number none p => .error (.malformed .badCharacterNumber p)
  | .entity name =>
    match predefinedEntity name with
    | some c => .ok c
    | none => .error (.malformed .undefinedEntity tagPosition)

/-- Splits a name at its first colon. -/
def splitLabel (name : List Char) : Option (List Char × List Char) :=
  match name.span (· != ':') with
  | (label, _ :: rest) => some (label, rest)
  | (_, []) => none

/-- The label that an attribute declares, if it is a namespace declaration. -/
def declaredLabel (name : List Char) : Option (List Char) :=
  match splitLabel name with
  | some (['x', 'm', 'l', 'n', 's'], label) => some label
  | some _ => none
  | none => if name = "xmlns".toList then some [] else none

/-- What is wrong with binding a label to a namespace. A closing brace separates the parts of
expanded names, so no namespace may hold one. -/
def bindingFlaw (label : List Char) (uri : String) : Option Flaw :=
  if uri = "" ∧ label ≠ [] then some .undeclaredLabel
  else if label = "xmlns".toList then some .reservedXmlns
  else if '}' ∈ uri.toList then some .syntaxError
  else if label = "xml".toList then (if uri = xmlNamespace then none else some .reservedXml)
  else if uri = xmlNamespace ∨ uri = xmlnsNamespace then some .reservedNamespace
  else none

/-- Reads the attributes of a tag in order: the labels they declare, and the other attributes
with their values, both in order. -/
def readAttributes (tagPosition : Position) (seen : List (List Char)) (scope : Scope) :
    List RawAttribute → Except Fault (Scope × List (List Char × String))
  | [] => .ok (scope, [])
  | a :: rest => do
    if seen.contains a.name then
      throw (.malformed .duplicateAttribute a.position)
    let value := String.ofList (← a.value.mapM (·.resolve tagPosition))
    match declaredLabel a.name with
    | some label =>
      match bindingFlaw label value with
      | some flaw => throw (.malformed flaw tagPosition)
      | none =>
        let bound := if value = "" then none else some value
        readAttributes tagPosition (a.name :: seen) ((label, bound) :: scope) rest
    | none =>
      let (scope', others) ← readAttributes tagPosition (a.name :: seen) scope rest
      return (scope', (a.name, value) :: others)

/-- Expands the names of attributes; a name without a label belongs to no namespace. No two of them
may become equal. -/
def expandAttributes (tagPosition : Position) (scope : Scope) (done : List ExpandedName) :
    List (List Char × String) → Except Fault (List (ExpandedName × String))
  | [] => .ok []
  | (name, value) :: rest => do
    match splitLabel name with
    | none =>
      let others ← expandAttributes tagPosition scope done rest
      return (⟨none, String.ofList name⟩, value) :: others
    | some (label, localName) =>
      match scope.lookup label with
      | none => throw (.malformed .unboundLabel tagPosition)
      | some uri =>
        let expanded : ExpandedName := ⟨some uri, String.ofList localName⟩
        if done.contains expanded then
          throw (.malformed .duplicateAttribute tagPosition)
        let others ← expandAttributes tagPosition scope (expanded :: done) rest
        return (expanded, value) :: others

/-- Expands the name of an element; a name without a label belongs to the default namespace. -/
def expandName (tagPosition : Position) (scope : Scope) (name : List Char) :
    Except Fault ExpandedName :=
  match splitLabel name with
  | none => .ok ⟨scope.lookup [], String.ofList name⟩
  | some (label, localName) =>
    match scope.lookup label with
    | none => .error (.malformed .unboundLabel tagPosition)
    | some uri => .ok ⟨some uri, String.ofList localName⟩

/-- What a start tag means inside a scope: the scope for its content, the name of the element and
its attributes. -/
def RawTag.resolve (scope : Scope) (tag : RawTag) :
    Except Fault (Scope × ExpandedName × List (ExpandedName × String)) := do
  let (scope', raw) ← readAttributes tag.position [] scope tag.attributes
  let attributes ← expandAttributes tag.position scope' [] raw
  let name ← expandName tag.position scope' tag.name
  return (scope', name, attributes)

end ProcessStubs.Markup
