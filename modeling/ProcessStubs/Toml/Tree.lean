import ProcessStubs.Data.Value
import ProcessStubs.Toml.Fault

/-!
# Trees of definitions

The definitions of a setting file grow into a tree: values, tables, and arrays of tables. A table is
*implied* if only headers or keys of tables below it name it, and *stated* if a header of its own
does.

A table can be defined in several *pieces* that stand apart in the file. The pieces are kept as they
are written, and a definition that would make a key mean two things is a clash. Definitions are
compared at three times: when one is added to a body that has its key (`addNode`), when the pieces
of a table are put together on trial (`checkPieces`), and when the value of the whole is taken
(`Body.fields`), for which pieces are only put side by side (`Body.joined`).
-/

namespace ProcessStubs.Toml

/-- The first name of a definition, and whether the definition is a key of several names. -/
structure Key where
  name : String
  dotted : Bool
deriving Repr, DecidableEq

/-- How a table is defined: whether it is only implied, and whether it is a further element of an
array of tables that is still being read. -/
structure TableForm where
  implied : Bool
  element : Bool
deriving Repr, DecidableEq

/-- A definition. -/
inductive Node where
  | leaf (v : Value)
  | table (form : TableForm) (body : List (Key × Node))
  | tables (elements : List (List (Key × Node)))

/-- The definitions in a table, in order. -/
abbrev Body := List (Key × Node)

/-- The deepest nesting of definitions: the names of a header and those of a key below it. -/
def maxNesting : Nat := 2 * maxLevels + 2

/-- The definitions in a table; none in anything else. -/
def Node.entries : Node → Body
  | .table _ body => body
  | _ => []

/-- Whether a definition is a table. -/
def Node.isTable : Node → Bool
  | .table _ _ => true
  | _ => false

namespace Body

/-- The definitions of a name, in order. -/
def pieces (body : Body) (name : String) : Body := body.filter (·.1.name = name)

/-- The names in a body, in the order in which they come first. -/
def names (body : Body) : List String := (body.map (·.1.name)).eraseDups

/-- The name of the last table in a body. -/
def lastTable? (body : Body) : Option String :=
  ((body.filter (·.2.isTable)).getLast?).map (·.1.name)

/-- The body with the last definition of a name replaced. -/
def replaceLast (name : String) (n : Node) : Body → Body
  | [] => []
  | (key, old) :: rest =>
    if key.name = name && (pieces rest name).isEmpty then (key, n) :: rest
    else (key, old) :: replaceLast name n rest

/-- The body with all definitions of a name replaced by one, where the first stood. -/
def replaceAll (key : Key) (n : Node) : Body → Body
  | [] => []
  | entry :: rest =>
    if entry.1.name = key.name then (key, n) :: rest.filter (·.1.name ≠ key.name)
    else entry :: replaceAll key n rest

/-- The body with one more piece, which can follow only tables. -/
def push (body : Body) (entry : Key × Node) : Except Clash Body :=
  match (body.pieces entry.1.name).getLast? with
  | some (_, .leaf _) | some (_, .tables _) => .error (.duplicateKey entry.1.name)
  | _ => .ok (body ++ [entry])

/-- The definitions in the pieces of a table, side by side. -/
def joined (tablePieces : Body) : Except Clash Body :=
  (tablePieces.flatMap (·.2.entries)).foldlM push []

/-- That the pieces of a name can stand side by side, if it has several. -/
def checkJoined (body : Body) (name : String) : Except Clash Unit := do
  let all := body.pieces name
  if all.length > 1 then
    let _ ← joined all

end Body

mutual

/-- A body with one more definition. With `checked`, a further piece of a table is tried with the
others at once. `fuel` bounds the nesting of the definition. -/
def addNode : Nat → Bool → Body → Key × Node → Except Clash Body
  | 0, _, body, _ => .ok body
  | fuel + 1, checked, body, (key, n) => do
    let name := key.name
    let all := body.pieces name
    body.checkJoined name
    let addPiece : Except Clash Body := do
      let grown := body ++ [(key, n)]
      if checked then checkPieces fuel name grown
      return grown
    match all.getLast? with
    | none => return body ++ [(key, n)]
    | some (oldKey, old) =>
      match n, old with
      | .tables elements, .tables before =>
        return body.replaceLast name (.tables (before ++ elements))
      | .table form entries, .tables before =>
        if key.dotted then throw .redefinedTable
        else if form.element then return body.replaceLast name (.tables (before ++ [entries]))
        else if form.implied then
          let last ← addAll fuel (before.getLast?.getD []) entries
          return body.replaceLast name (.tables (before.dropLast ++ [last]))
        else throw (.duplicateKey name)
      | .table form entries, .table oldForm oldEntries =>
        if key.dotted && !oldKey.dotted && !oldForm.implied then throw .redefinedTable
        else if form.element then return body.replaceAll key (.tables [oldEntries, entries])
        else if oldForm.implied then
          if !form.implied then if oldKey.dotted then throw .redefinedTable else addPiece
          else if key.dotted || oldKey.dotted || body.lastTable? != some name then addPiece
          else return body.replaceLast name (.table oldForm (← addAll fuel oldEntries entries))
        else if form.implied && all.length = 1 then addPiece
        else throw (.duplicateKey name)
      | _, _ => throw (.duplicateKey name)

/-- A table's body with the definitions of another one added to it. -/
def addAll : Nat → Body → Body → Except Clash Body
  | 0, body, _ => .ok body
  | fuel + 1, body, entries => entries.foldlM (fun body entry => do
      let body ← addNode fuel true body entry
      body.checkJoined entry.1.name
      return body) body

/-- That the pieces of a name in a body, if it has several, can be added to one table, and so on
below that table. -/
def checkPieces : Nat → String → Body → Except Clash Unit
  | 0, _, _ => .ok ()
  | fuel + 1, name, body => do
    let all := body.pieces name
    if all.length > 1 then
      let trial ← (all.flatMap (·.2.entries)).foldlM (addNode fuel false) []
      for next in trial.names do
        checkPieces fuel next trial

end

/-- The fuel of an addition, which takes at most two steps for each level. -/
def additionFuel : Nat := 2 * maxNesting + 1

namespace Body

/-- A body with one more definition, which is tried with the other pieces of its table. -/
def add (body : Body) (key : Key) (n : Node) : Except Clash Body :=
  addNode additionFuel true body (key, n)

/-- A table's body with the definition that a header below the table makes. The pieces of a name are
tried only when the table ends. -/
def addBelow (body : Body) (key : Key) (n : Node) : Except Clash Body := do
  let body ← addNode additionFuel false body (key, n)
  body.checkJoined key.name
  return body

/-- That the pieces of each name can be added to one table. -/
def check (body : Body) : Except Clash Unit :=
  body.names.forM fun name => checkPieces additionFuel name body

/-- The definition that a dotted key makes under its first name: tables for all names but the
last. -/
def dottedNode (v : Value) : List String → Node
  | [] => .leaf v
  | name :: rest => .table ⟨true, false⟩ [(⟨name, !rest.isEmpty⟩, dottedNode v rest)]

/-- A body with the value of a key of one or more names. -/
def define (body : Body) (names : List String) (v : Value) : Except Clash Body :=
  match names with
  | [] => .ok body
  | name :: rest => body.add ⟨name, !rest.isEmpty⟩ (dottedNode v rest)

end Body

mutual

/-- The value of a definition. -/
def Node.value? : Nat → Node → Except Clash Value
  | 0, _ => .ok .null
  | fuel + 1, n =>
    match n with
    | .leaf v => .ok v
    | .table _ body => (fieldsOf fuel body).map .table
    | .tables elements => (elements.mapM fun body => (fieldsOf fuel body).map .table).map .list

/-- The fields of a body. -/
def fieldsOf : Nat → Body → Except Clash (List (String × Value))
  | 0, _ => .ok []
  | fuel + 1, body => body.names.mapM fun name => do
      match body.pieces name with
      | [(_, n)] => return (name, ← n.value? fuel)
      | all => return (name, .table (← fieldsOf fuel (← Body.joined all)))

end

/-- The fields that the definitions of a body make. -/
def Body.fields (body : Body) : Except Clash (List (String × Value)) := fieldsOf additionFuel body

end ProcessStubs.Toml
