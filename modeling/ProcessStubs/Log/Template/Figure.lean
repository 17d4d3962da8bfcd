import ProcessStubs.Data.Value
import ProcessStubs.Number.Rounded
import ProcessStubs.Text.Quoted

/-!
# Figures

What a value becomes at a place of a template. The kind of the place says how the value is written:
as a text, as a whole number in some base, or as a rounded decimal. The sign and the mark of a base
are kept apart from the digits, because zeros that fill a place up stand between them.

Main definitions: `figure` writes a value, `Figure.fit` brings it to a width.
-/

namespace ProcessStubs.Log.Template

open ProcessStubs.Text

/-! ### Faults -/

/-- Why a template cannot be filled.

* `tooFewValues`, `tooManyValues`: there is not one value for each place.
* `noTable`, `noField`: a place names a field, but there is no table, or it has no such field.
* `unclosedField`, `unfinished`: the template ends within a place.
* `unknownKind`: no place has this kind.
* `wrongType`: a value does not suit its place.
* `sizeTooBig`, `outOfRange`, `noNumber`: a size of a place, or a number to be written there, is
  beyond what it can be, or is no number.
* `tooLong`: the place is wider than anything that is written. -/
inductive Fault where
  | tooFewValues
  | tooManyValues
  | noTable
  | wrongType
  | noField (key : String)
  | unclosedField
  | unfinished
  | unknownKind (kind : Char)
  | sizeTooBig
  | noNumber
  | outOfRange
  | tooLong
deriving Repr, DecidableEq

/-! ### Writing a value -/

/-- What is written at a place, before it is brought to its width: the sign, the mark of a base, and
the characters after them. Only the figures of numbers can be filled up with zeros. -/
structure Figure where
  sign : List Char
  mark : List Char
  body : List Char
  isNumber : Bool
deriving Repr, DecidableEq

/-- A text as a figure. -/
def Figure.ofText (body : List Char) : Figure := ⟨[], [], body, false⟩

/-- The sign of a number. Numbers that are not negative have a sign if the flags ask for it. -/
def signOf (negative : Bool) (flags : List Char) : List Char :=
  if negative then ['-']
  else if flags.contains '+' then ['+']
  else if flags.contains ' ' then [' ']
  else []

/-- A figure brought to a width. -/
def Figure.fit (f : Figure) (flags : List Char) (left : Bool) (width : Nat) : List Char :=
  let head := f.sign ++ f.mark
  let gap := width - (head.length + f.body.length)
  if left then head ++ f.body ++ List.replicate gap ' '
  else if f.isNumber && flags.contains '0' then head ++ List.replicate gap '0' ++ f.body
  else List.replicate gap ' ' ++ head ++ f.body

/-- The literal of a value in which every character outside of ASCII is an escape. -/
def plainLiteral (v : Value) : List Char :=
  v.literal.toList.flatMap fun c => if c.toNat < 0x80 then [c] else escaped c

/-- A text of no more characters than the precision. -/
def textFigure (precision : Option Nat) (cs : List Char) : Figure :=
  .ofText ((precision.map cs.take).getD cs)

/-- The whole number that a value stands for. What stands behind the point of a number is left
out. -/
def wholeNumber (v : Value) : Except Fault Int :=
  match v with
  | .real .nan => .error .noNumber
  | .real x => (x.wholePart?.map .ok).getD (.error .outOfRange)
  | _ => (v.integer?.map .ok).getD (.error .wrongType)

/-- The number that a value stands for. -/
def realNumber (v : Value) : Except Fault Binary64 :=
  match v with
  | .real x => .ok x
  | _ =>
    match v.integer? with
    | none => .error .wrongType
    | some n =>
      match Binary64.ofInt n with
      | .infinite _ => .error .outOfRange
      | x => .ok x

/-- The character that a value stands for: a text of one character, or the number of one. -/
def character (v : Value) : Except Fault Char :=
  match v with
  | .text s =>
    match s.toList with
    | [c] => .ok c
    | _ => .error .wrongType
  | _ =>
    match v.integer? with
    | none => .error .wrongType
    | some n => if 0 ≤ n ∧ n.toNat.isValidChar then .ok (.ofNat n.toNat) else .error .outOfRange

/-- The digits of a whole number, no fewer than the precision. -/
def digitsIn (base : Nat) (precision : Option Nat) (n : Int) : List Char :=
  let digits := Nat.toDigits base n.natAbs
  List.replicate (precision.getD 0 - digits.length) '0' ++ digits

/-- The figure of a whole number in a base whose mark has the letter `mark`. -/
def wholeFigure (base : Nat) (mark : List Char) (flags : List Char) (precision : Option Nat)
    (n : Int) : Figure :=
  ⟨signOf (n < 0) flags, if flags.contains '#' then mark else [], digitsIn base precision n, true⟩

/-- The figure of a number, where `write` is how a quotient is written. -/
def realFigure (write : Nat → Nat → Nat → Bool → List Char) (flags : List Char)
    (precision : Option Nat) (x : Binary64) : Figure :=
  let body :=
    match x with
    | .nan => "nan".toList
    | .infinite _ => "inf".toList
    | .finite .. =>
      let (num, den) := x.quotient?.getD (0, 1)
      write num den (precision.getD 6) (flags.contains '#')
  ⟨signOf x.isNegative flags, [], body, true⟩

/-- A figure with capital letters. -/
def Figure.inCapitals (f : Figure) : Figure :=
  { f with mark := f.mark.map Char.toUpper, body := f.body.map Char.toUpper }

/-- What a value becomes at a place of a kind. -/
def figure (kind : Char) (flags : List Char) (precision : Option Nat) (v : Value) :
    Except Fault Figure :=
  let hexadecimal : Except Fault Figure :=
    (v.integer?.map fun n => .ok (wholeFigure 16 ['0', 'x'] flags precision n)).getD
      (.error .wrongType)
  let real (write : Nat → Nat → Nat → Bool → List Char) : Except Fault Figure :=
    (realNumber v).map (realFigure write flags precision)
  match kind with
  | 's' => .ok (textFigure precision v.shown.toList)
  | 'r' => .ok (textFigure precision v.literal.toList)
  | 'a' => .ok (textFigure precision (plainLiteral v))
  | 'c' => (character v).map fun c => .ofText [c]
  | 'd' | 'i' | 'u' => (wholeNumber v).map (wholeFigure 10 [] flags precision)
  | 'o' =>
    (v.integer?.map fun n => .ok (wholeFigure 8 ['0', 'o'] flags precision n)).getD
      (.error .wrongType)
  | 'x' => hexadecimal
  | 'X' => hexadecimal.map Figure.inCapitals
  | 'e' => real Binary64.scientificText
  | 'E' => (real Binary64.scientificText).map Figure.inCapitals
  | 'f' => real Binary64.fixedText
  | 'F' => (real Binary64.fixedText).map Figure.inCapitals
  | 'g' => real Binary64.generalText
  | 'G' => (real Binary64.generalText).map Figure.inCapitals
  | _ => .error (.unknownKind kind)

end ProcessStubs.Log.Template
