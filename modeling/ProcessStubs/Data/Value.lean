import ProcessStubs.Data.Moment
import ProcessStubs.Number.Binary64
import ProcessStubs.Text.Quoted

/-!
# Values of settings

Settings are read from files and given as overrides before it is known that they have the right
types. Until then they are values: nothing, truth values, numbers, texts, moments, lists and tables.

A value has a *text*, which for a text is the text itself, and a *literal*, in which texts are
quoted. Inside of lists and tables literals are used. A value counts as true unless it is nothing,
zero or empty.
-/

namespace ProcessStubs

/-- A value whose type is known only when it is looked at. -/
inductive Value where
  | null
  | boolean (b : Bool)
  | integer (n : Int)
  | real (x : Binary64)
  | text (s : String)
  | moment (m : Moment)
  | list (items : List Value)
  | table (fields : List (String × Value))
deriving Repr, BEq

namespace Value

/-- The name of the type of a value. -/
def typeName : Value → String
  | null => "NoneType"
  | boolean _ => "bool"
  | integer _ => "int"
  | real _ => "float"
  | text _ => "str"
  | moment m => m.kindName
  | list _ => "list"
  | table _ => "dict"

/-- Whether a value is nothing. -/
def isNull : Value → Bool
  | null => true
  | _ => false

/-- Whether a value counts as true. -/
def isTrue : Value → Bool
  | null => false
  | boolean b => b
  | integer n => n != 0
  | real x => !x.isZero
  | text s => s != ""
  | moment _ => true
  | list items => !items.isEmpty
  | table fields => !fields.isEmpty

mutual

/-- The literal of a value. -/
def literal : Value → String
  | null => "None"
  | boolean b => if b then "True" else "False"
  | integer n => toString n
  | real x => x.text
  | text s => Text.quoted s
  | moment m => m.call
  | list items => "[" ++ literalItems items ++ "]"
  | table fields => "\x7b" ++ literalFields fields ++ "\x7d"

/-- The literals of items between commas. -/
def literalItems : List Value → String
  | [] => ""
  | [v] => literal v
  | v :: rest => literal v ++ ", " ++ literalItems rest

/-- The literals of fields between commas. -/
def literalFields : List (String × Value) → String
  | [] => ""
  | [(key, v)] => Text.quoted key ++ ": " ++ literal v
  | (key, v) :: rest => Text.quoted key ++ ": " ++ literal v ++ ", " ++ literalFields rest

end

/-- The text of a value. -/
def shown : Value → String
  | text s => s
  | moment m => m.text
  | v => literal v

/-- The text in a value, if it is a text. -/
def text? : Value → Option String
  | text s => some s
  | _ => none

/-- The truth value in a value, if it is one. -/
def boolean? : Value → Option Bool
  | boolean b => some b
  | _ => none

/-- The texts in a value, if it is a list of texts. -/
def texts? : Value → Option (List String)
  | list items => items.mapM text?
  | _ => none

/-- The value of a field, if the value is a table that has it. -/
def field? (v : Value) (key : String) : Option Value :=
  match v with
  | table fields => (fields.find? (·.1 == key)).map (·.2)
  | _ => none

/-- A value as a number, if it is one. Truth values count as one and zero. -/
def integer? : Value → Option Int
  | boolean b => some (if b then 1 else 0)
  | integer n => some n
  | _ => none

/-- Whether two values that are no lists or tables are the same entry of a set: numbers are compared
by their value, whatever their type. -/
def sameEntry (v w : Value) : Bool :=
  match v.integer?, w.integer? with
  | some m, some n => m == n
  | some m, none =>
    match w with
    | real y => y.isInteger m
    | _ => false
  | none, some n =>
    match v with
    | real x => x.isInteger n
    | _ => false
  | none, none =>
    match v, w with
    | null, null => true
    | real x, real y => x.sameValue y
    | text s, text t => s == t
    | moment m, moment n => m == n
    | _, _ => false

/-- Whether a value can be an entry of a set. -/
def isHashable : Value → Bool
  | list _ | table _ => false
  | _ => true

end Value

end ProcessStubs
