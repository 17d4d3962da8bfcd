import ProcessStubs.Toml.Scalar
import ProcessStubs.Toml.Text
import ProcessStubs.Toml.Tree

/-!
# Reading setting files

A setting file is a sequence of fields and of tables with headers. The fields that stand before the
first header belong to the file itself, those after a header to its table.

Main definition: `readToml` reads a whole text.
-/

namespace ProcessStubs.Toml

open ProcessStubs.Text

/-! ### Values -/

/-- A character that ends a number, a moment or a word. -/
def isDelimiter (c : Char) : Bool := isGap c || c == '#' || c == ',' || c == ']' || c == '\x7d'

/-- What follows a word. -/
def readWord : List Char → List Char → Except Halt (List Char)
  | [], cs => .ok cs
  | w :: word, cs =>
    match cs with
    | c :: rest => if c = w then readWord word rest else unexpected (c :: rest)
    | [] => unexpected []

/-- The words for numbers that have no digits. -/
def numberWords : List String := ["+inf", "-inf", "inf", "+nan", "-nan", "nan"]

/-- A number that takes all characters up to the next delimiter. -/
def readNumber (cs : List Char) : Except Halt (Value × List Char) :=
  let rest := cs.dropWhile fun c => !isDelimiter c
  match numberOf? (cs.takeWhile fun c => !isDelimiter c) with
  | some v => .ok (v, rest)
  | none => stop .invalidNumber rest

/-- A date that has been read as the characters `raw`, or the moment that it is with the time that
follows it after a blank. -/
def readDate (raw rest : List Char) : Except Halt (Value × List Char) :=
  match momentOf? raw with
  | none => stop .invalidDate rest
  | some date =>
    let isPart (c : Char) : Bool := !isDelimiter c || c == ' '
    let left := rest.dropWhile isPart
    let time := stripEnd (rest.takeWhile isPart)
    if time.isEmpty then .ok (.moment date, left)
    else
      match momentOf? (raw ++ time) with
      | some m => .ok (.moment m, left)
      | none => stop .invalidDate left

/-- A number or a moment. -/
def readDigits (cs : List Char) : Except Halt (Value × List Char) :=
  let raw := cs.takeWhile fun c => !isDelimiter c
  let rest := cs.dropWhile fun c => !isDelimiter c
  match momentShape? raw with
  | none => readNumber cs
  | some .date => readDate raw rest
  | some .dateTime =>
    match momentOf? raw with
    | some m => .ok (.moment m, rest)
    | none => stop .invalidDateTime rest
  | some .time =>
    match momentOf? raw with
    | some m => .ok (.moment m, rest)
    | none => stop .invalidTime rest

/-- What follows blanks, line ends and comments. -/
def skipGaps : Nat → List Char → Except Halt (List Char)
  | 0, cs => .ok cs
  | fuel + 1, cs =>
    match cs.dropWhile isGap with
    | '#' :: rest => do skipGaps fuel (← skipComment rest)
    | rest => .ok rest

/-- A clash of definitions inside of a table. -/
def unplaced {α : Type} : Except Clash α → Except Halt α
  | .ok a => .ok a
  | .error c => .error (.clash c)

/-- What stands before the next field of a table in braces. -/
inductive FieldLead where
  | first
  | value
  | comma
deriving DecidableEq

mutual

/-- A value, and what follows it. `level` arrays and tables in braces are around it. -/
def readValue : Nat → Nat → List Char → Except Halt (Value × List Char)
  | 0, _, cs => unexpected cs
  | fuel + 1, level, cs =>
    match cs with
    | [] => unexpected []
    | c :: rest =>
      if c = '"' ∨ c = '\'' then
        (readQuoted c rest).map fun (t, left) => (.text (String.ofList t.chars), left)
      else if c = 't' then (readWord "true".toList cs).map fun left => (.boolean true, left)
      else if c = 'f' then (readWord "false".toList cs).map fun left => (.boolean false, left)
      else if (c = '[' ∨ c = '\x7b') ∧ level ≥ maxLevels then stop .deepValue cs
      else if c = '[' then
        if rest.isEmpty then stop .unexpectedEnd []
        else (readItems fuel (level + 1) false rest).map fun (items, left) => (.list items, left)
      else if c = '\x7b' then
        if rest.isEmpty then stop .unexpectedEnd []
        else do
          let (body, left) ← readFields fuel (level + 1) .first [] rest
          return (.table (← unplaced body.fields), left)
      else if c = '+' ∨ c = '-' ∨
          String.ofList ((cs.takeWhile fun c => !isDelimiter c).take 4) ∈ numberWords then
        readNumber cs
      else if c.isDigit then readDigits cs
      else unexpected cs

/-- The items of an array up to its closing bracket. `afterValue` says whether a comma has to come
before the next item. -/
def readItems : Nat → Nat → Bool → List Char → Except Halt (List Value × List Char)
  | 0, _, _, cs => unexpected cs
  | fuel + 1, level, afterValue, cs => do
    match ← skipGaps fuel cs, afterValue with
    | ']' :: rest, _ => return ([], rest)
    | ',' :: rest, true =>
      if rest.isEmpty then stop .unexpectedEnd [] else readItems fuel level false rest
    | cs, true => unexpected cs
    | cs, false =>
      let (v, rest) ← readValue fuel level cs
      let (items, left) ← readItems fuel level true rest
      return (v :: items, left)

/-- The fields of a table in braces up to its closing brace. -/
def readFields : Nat → Nat → FieldLead → Body → List Char → Except Halt (Body × List Char)
  | 0, _, _, _, cs => unexpected cs
  | fuel + 1, level, lead, body, cs => do
    let cs ← skipGaps fuel cs
    if current cs = '\x7d' ∧ cs ≠ [] then return (body, cs.drop 1)
    if lead = .value ∨ current cs = ',' then unexpected cs
    let (names, rest) ← readKey cs
    let rest ← skipEquals false rest
    let (v, rest) ← readValue fuel level rest
    let body ← unplaced (body.define names v)
    let rest ← skipGaps fuel rest
    match rest with
    | ',' :: more =>
      if more.isEmpty then stop .unexpectedEnd [] else readFields fuel level .comma body more
    | _ => readFields fuel level .value body rest

end

/-! ### Fields and tables -/

/-- A field and the rest of its line. -/
def readField (fuel : Nat) (cs : List Char) : Except Halt ((List String × Value) × List Char) := do
  let (names, rest) ← readKey cs
  let rest ← skipEquals false rest
  let (v, rest) ← readValue fuel 0 rest
  let rest ← skipTrail rest
  return ((names, v), rest)

/-- What comes next: the end, a field or a header. -/
inductive Next where
  | finish
  | field (rest : List Char)
  | header (rest : List Char)

/-- Goes on to the next field or header. -/
def nextItem : Nat → List Char → Except Halt Next
  | 0, _ => .ok .finish
  | fuel + 1, cs =>
    match cs.dropWhile isSpace with
    | [] => .ok .finish
    | c :: rest =>
      if isLineEnd c then do nextItem fuel (← skipLineEnd (c :: rest))
      else if c = '#' then do nextItem fuel (← skipLineEnd (← skipComment rest))
      else if c = '[' then .ok (.header (c :: rest))
      else .ok (.field (c :: rest))

/-- The key of a header. That it is empty is said of the table. -/
def readTableKey (cs : List Char) : Except Halt (List String × List Char) :=
  match readKey cs with
  | .error (.flaw .emptyKey left) => .error (.flaw .emptyTableName left)
  | other => other

/-- The key of the header that begins here, and whether the header is one of an array of tables. -/
def peekHeader (cs : List Char) : Except Halt (Bool × List String) :=
  match cs.drop 1 with
  | '[' :: rest => (readTableKey rest).map fun (names, _) => (true, names)
  | rest => (readTableKey rest).map fun (names, _) => (false, names)

/-- A closing bracket. -/
def readClose : List Char → Except Halt (List Char)
  | [] => stop .unexpectedEnd []
  | c :: rest => if c = ']' then .ok rest else unexpected (c :: rest)

/-- A header: whether it is one of an array of tables, its key, and what follows its line. -/
def readHeader (cs : List Char) : Except Halt ((Bool × List String) × List Char) := do
  let afterFirst := cs.drop 1
  if afterFirst.isEmpty then stop .unexpectedEnd []
  let isArray := current afterFirst == '['
  let inner := if isArray then afterFirst.drop 1 else afterFirst
  if inner.isEmpty then stop .unexpectedEnd []
  let (names, rest) ← readTableKey inner
  let rest ← readClose rest
  let rest ← if isArray then readClose rest else pure rest
  let rest ← skipTrail rest
  return ((isArray, names), rest)

/-- Whether a key names something below the table of another key. -/
def isBelow (parent child : List String) : Bool := parent != child && parent.isPrefixOf child

/-- A table that a header states. -/
def statedTable (body : Body) : Node := .table ⟨false, false⟩ body

/-- The definition of a table by the further names of its header. The tables above it are
implied. -/
def headerNode (isArray : Bool) (body : Body) : List String → Node
  | [] => if isArray then .tables [body] else statedTable body
  | name :: rest => .table ⟨true, false⟩ [(⟨name, false⟩, headerNode isArray body rest)]

mutual

/-- A table from its header to the next table that is not below it. `parent` is the key of the table
above it, and `arrays` the keys of the arrays of tables that are being read. -/
def readTable : Nat → List (List String) → List String → List Char →
    Except Halt ((String × Node) × List Char)
  | 0, _, _, cs => unexpected cs
  | fuel + 1, arrays, parent, cs => do
    let ((isArray, names), rest) ← readHeader cs
    let (body, rest) ← readEntries fuel arrays names [] rest
    unplaced body.check
    match names.drop parent.length with
    | [] => return (("", statedTable body), rest)
    | [name] =>
      if isArray ∧ arrays.head? ≠ some names then
        let (elements, rest) ← readElements fuel (names :: arrays) names rest
        return ((name, .tables (body :: elements)), rest)
      else return ((name, statedTable body), rest)
    | name :: next :: below =>
      let form : TableForm := ⟨true, isArray && arrays.contains [name]⟩
      return ((name, .table form [(⟨next, false⟩, headerNode isArray body below)]), rest)

/-- The fields of a table, and the tables below it. -/
def readEntries : Nat → List (List String) → List String → Body → List Char →
    Except Halt (Body × List Char)
  | 0, _, _, _, cs => unexpected cs
  | fuel + 1, arrays, names, body, cs => do
    match ← nextItem cs.length.succ cs with
    | .finish => return (body, [])
    | .field rest =>
      let ((key, v), rest) ← readField (2 * rest.length + 4) rest
      let body ← unplaced (body.define key v)
      readEntries fuel arrays names body rest
    | .header rest => readBelow fuel arrays names body rest

/-- The tables below a table. -/
def readBelow : Nat → List (List String) → List String → Body → List Char →
    Except Halt (Body × List Char)
  | 0, _, _, _, cs => unexpected cs
  | fuel + 1, arrays, names, body, cs => do
    if cs.isEmpty then return (body, [])
    let (_, next) ← peekHeader cs
    if isBelow names next then
      let ((key, n), rest) ← readTable fuel arrays names cs
      let body ← unplaced (body.addBelow ⟨key, false⟩ n)
      readBelow fuel arrays names body rest
    else return (body, cs)

/-- The further elements of an array of tables. -/
def readElements : Nat → List (List String) → List String → List Char →
    Except Halt (List Body × List Char)
  | 0, _, _, cs => unexpected cs
  | fuel + 1, arrays, names, cs => do
    if cs.isEmpty then return ([], [])
    let (isArray, next) ← peekHeader cs
    if isArray ∧ next = names then
      let ((_, n), rest) ← readTable fuel arrays names cs
      let (elements, rest) ← readElements fuel arrays names rest
      return (n.entries :: elements, rest)
    else return ([], cs)

end

/-- A clash at the top level, found when the definition has been read. -/
def placed {α : Type} (rest : List Char) : Except Clash α → Except Halt α
  | .ok a => .ok a
  | .error c => stop (.clash c) rest

/-- The tables of a file, added to its fields. -/
def readTables : Nat → Body → List Char → Except Halt Body
  | 0, _, cs => unexpected cs
  | fuel + 1, body, cs => do
    if cs.isEmpty then return body
    let ((key, n), rest) ← readTable (2 * cs.length + 2) [] [] cs
    let body ← placed rest (body.add ⟨key, false⟩ n)
    readTables fuel body rest

/-- The fields of a file, and then its tables. -/
def readTop : Nat → Body → List Char → Except Halt Body
  | 0, _, cs => unexpected cs
  | fuel + 1, body, cs => do
    match ← nextItem cs.length.succ cs with
    | .finish => return body
    | .header rest => readTables rest.length.succ body rest
    | .field rest =>
      let ((key, v), rest) ← readField (2 * rest.length + 4) rest
      let body ← placed rest (body.define key v)
      readTop fuel body rest

/-- The fields of the table that a text defines. -/
def readToml (text : String) : Except Fault (List (String × Value)) :=
  let cs := text.toList
  match readTop cs.length.succ [] cs with
  | .ok body => body.fields.mapError .unplaced
  | .error (.flaw f left) => .error (.at f (placeOf cs left))
  | .error (.clash c) => .error (.unplaced c)

end ProcessStubs.Toml
