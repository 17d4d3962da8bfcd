import ProcessStubs.Log.Template.Figure
import ProcessStubs.Log.Template.Piece

/-!
# Message templates

A message can be given as a template with places for values: `%s` takes the text of a value, `%d` a
whole number, `%.2f` a number with two places after its point. Two percent signs are one. There has
to be one value for each place, and each value has to suit its place. A single table that is not
empty is looked into: places name its fields.

Main definition: `message` is the message of a template and values. Without values the template is
the message.
-/

namespace ProcessStubs.Log

namespace Template

/-! ### Values for places -/

/-- The values that are left, and the table that fields are looked up in. -/
structure Supply where
  values : List Value
  table : Option (List (String × Value))

/-- The supply that a message's values make. -/
def Supply.ofValues : List Value → Supply
  | [.table (field :: fields)] => ⟨[.table (field :: fields)], some (field :: fields)⟩
  | values => ⟨values, none⟩

/-- The next value, and the supply without it. -/
def Supply.take (s : Supply) : Except Fault (Value × Supply) :=
  match s.values with
  | [] => .error .tooFewValues
  | v :: rest => .ok (v, { s with values := rest })

/-- The supply of a place. A place that names a field has the value of the field and no other. -/
def Supply.at (s : Supply) (field : Field) : Except Fault Supply :=
  match field, s.table with
  | .next, _ => .ok s
  | _, none => .error .noTable
  | .unclosed, some _ => .error .unclosedField
  | .named key, some fields =>
    match fields.find? (·.1 == key) with
    | some (_, v) => .ok { s with values := [v] }
    | none => .error (.noField key)

/-- The number that a size stands for, if it is set, and the supply that is left. It has to lie
below `limit`. -/
def Size.resolve (limit : Nat) (size : Size) (s : Supply) :
    Except Fault (Option Int × Supply) :=
  match size with
  | .unset => .ok (none, s)
  | .written n => if n < limit then .ok (some n, s) else .error .sizeTooBig
  | .taken => do
    let (v, s) ← s.take
    match v.integer? with
    | none => .error .wrongType
    | some n => if -limit ≤ n ∧ n < limit then .ok (some n, s) else .error .outOfRange

/-- Widths lie below this number. -/
def widthLimit : Nat := Nat.pow 2 63

/-- Precisions lie below this number. -/
def precisionLimit : Nat := Nat.pow 2 31

/-- Nothing is written with more characters than this at one place. -/
def maxLength : Nat := Nat.pow 2 32

/-! ### Filling -/

/-- What is written at a place, and the supply that is left. -/
def Place.written (p : Place) (s : Supply) : Except Fault (List Char × Supply) := do
  let s ← s.at p.field
  let (width, s) ← p.width.resolve widthLimit s
  let (precision, s) ← p.precision.resolve precisionLimit s
  match p.kind with
  | none => .error .unfinished
  | some kind =>
    let (v, s) ← s.take
    let width := width.getD 0
    let precision := precision.map Int.toNat
    if width.natAbs > maxLength then .error .tooLong
    else
      let f ← figure kind p.flags precision v
      .ok (f.fit p.flags (p.flags.contains '-' || width < 0) width.natAbs, s)

/-- Pieces with their places filled in order. Values that stand in no table must all be used. -/
def filled : List Piece → Supply → Except Fault (List Char)
  | [], s => if s.table.isNone && !s.values.isEmpty then .error .tooManyValues else .ok []
  | .letter c :: rest, s => (filled rest s).map (c :: ·)
  | .place p :: rest, s => do
    let (written, s) ← p.written s
    return written ++ (← filled rest s)

end Template

/-- The message of a template and values. Without values the template is the message. -/
def message (template : String) (values : List Value) : Except Template.Fault String :=
  if values.isEmpty then .ok template
  else
    (Template.filled (Template.pieces template.toList) (.ofValues values)).map String.ofList

end ProcessStubs.Log
