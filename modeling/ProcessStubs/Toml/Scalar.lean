import ProcessStubs.Data.Value
import ProcessStubs.Text.Numeral

/-!
# Numbers and moments in setting files

A number has no zeros in front of it, and its underscores stand between digits. A moment has fixed
numbers of digits; its seconds can be left out. What looks like a moment is one or is refused: a
text that only looks like one is not read as a number.
-/

namespace ProcessStubs.Toml

open ProcessStubs.Text

/-- Whether the text begins with another one. -/
def beginsWith (start : String) (cs : List Char) : Bool := start.toList.isPrefixOf cs

/-- The text without the underscores between two digits. -/
def withoutGroups (base : Nat) : Option Char → List Char → List Char
  | _, [] => []
  | before, '_' :: c :: rest =>
    if before.any (isPlainDigit base) && isPlainDigit base c then
      c :: withoutGroups base (some c) rest
    else '_' :: withoutGroups base (some '_') (c :: rest)
  | _, c :: rest => c :: withoutGroups base (some c) rest

/-- Whether digits that are not a fraction have a zero too many in front, or a signed number begins
with its point. -/
def isMalformed (signed : Bool) (raw : List Char) : Bool :=
  raw.length > 1 &&
    ((beginsWith "0" raw &&
        ["0.", "0o", "0x", "0b", "0e", "0E"].all fun s => !beginsWith s raw) ||
      (signed && beginsWith "." raw))

/-- The base that the digits of a number are in. -/
def baseOf (raw : List Char) : Nat :=
  if beginsWith "0b" raw then 2 else if beginsWith "0o" raw then 8
  else if beginsWith "0x" raw then 16 else 10

/-- Whether a point is the last character before the exponent or the end. -/
def endsInPoint (cs : List Char) : Bool :=
  cs.getLast? == some '.' ||
    (!beginsWith "0x" cs && (cs.takeWhile (· != 'e')).getLast? == some '.')

/-- A character of a number with a point or an exponent. -/
def isRealChar (c : Char) : Bool := c.isDigit || c == '.' || c == 'e' || c == '+' || c == '-'

/-- The whole number of the digits `clean` after their sign. -/
def wholeNumber? (signChars clean : List Char) : Option Value :=
  (integerOf? (baseOf clean) (signChars ++ clean)).map .integer

/-- The number that a text denotes. The words for infinity and for no number are in small letters. A
text of decimal digits alone is a whole number, or none if it is too long for one. -/
def numberOf? (text : List Char) : Option Value :=
  let signed := beginsWith "+" text || beginsWith "-" text
  let signChars := if signed then text.take 1 else []
  let raw := if signed then text.drop 1 else text
  let base := baseOf raw
  if raw = "inf".toList ∨ raw = "nan".toList then (realOf? text).map .real
  else if isMalformed signed raw || (signed && base != 10) then none
  else
    let clean := (lowerText (String.ofList (withoutGroups base none raw))).toList
    if clean.contains '_' || endsInPoint clean then none
    else if base ≠ 10 then
      if (clean.drop 2).all (isPlainDigit base) then wholeNumber? signChars clean else none
    else if clean.all Char.isDigit then wholeNumber? signChars clean
    else if clean.all isRealChar then (realOf? (signChars ++ clean)).map .real
    else none

/-! ### Moments -/

/-- How the digits of a moment are valued: an ordinary digit by its value. -/
def plainDigit? (c : Char) : Option Nat := if c.isDigit then some (c.toNat - 48) else none

/-- The number of two digits. -/
def twoDigits? (digit? : Char → Option Nat) (a b : Char) : Option Nat := do
  return (← digit? a) * 10 + (← digit? b)

/-- A date at the start of a text, and what follows it. The year has four digits. -/
def dateOf? (digit? : Char → Option Nat) : List Char → Option (Date × List Char)
  | a :: b :: c :: d :: '-' :: m :: n :: '-' :: e :: f :: rest => do
    let century ← twoDigits? digit? a b
    let year ← twoDigits? digit? c d
    let month ← twoDigits? digit? m n
    let day ← twoDigits? digit? e f
    return (⟨century * 100 + year, month, day⟩, rest)
  | _ => none

/-- The microseconds of the digits of a fraction; what is smaller is cut off. -/
def microsecondsOf (digits : List Char) : Nat :=
  let six := (digits ++ List.replicate (6 - digits.length) '0').take 6
  (decimalNumber? six).getD 0

/-- A zone that takes the whole text, if it is one. -/
def zoneOf? : List Char → Option Zone
  | [z] => if z = 'Z' ∨ z = 'z' then some ⟨"UTC", 0⟩ else none
  | [s, a, b, ':', c, d] => do
    if s = '+' ∨ s = '-' then
      let hours ← twoDigits? plainDigit? a b
      let minutes ← twoDigits? plainDigit? c d
      if hours < 24 ∧ minutes < 60 then
        let seconds : Int := hours * 3600 + minutes * 60
        return ⟨String.ofList [s, a, b, ':', c, d], if s = '-' then -seconds else seconds⟩
      else none
    else none
  | _ => none

/-- A time at the start of a text, and what follows it. -/
def timeOf? (digit? : Char → Option Nat) : List Char → Option (TimeOfDay × List Char)
  | a :: b :: ':' :: c :: d :: rest => do
    let hour ← twoDigits? digit? a b
    let minute ← twoDigits? digit? c d
    match rest with
    | ':' :: e :: f :: more =>
      let second ← twoDigits? digit? e f
      match more with
      | '.' :: g :: after =>
        if g.isDigit then
          let digits := (g :: after).takeWhile Char.isDigit
          let more := (g :: after).dropWhile Char.isDigit
          return (⟨hour, minute, second, microsecondsOf digits⟩, more)
        else return (⟨hour, minute, second, 0⟩, more)
      | _ => return (⟨hour, minute, second, 0⟩, more)
    | _ => return (⟨hour, minute, 0, 0⟩, rest)
  | _ => none

/-- Whether a character stands between a date and a time. -/
def isMomentGap (c : Char) : Bool := c == 'T' || c == 't' || c == ' '

/-- The moment that a whole text denotes, if it is in the calendar and on the clock. -/
def momentOf? (cs : List Char) : Option Moment :=
  match dateOf? plainDigit? cs with
  | some (d, []) => if d.isValid then some (.date d) else none
  | some (d, gap :: rest) => do
    let (t, after) ← timeOf? plainDigit? rest
    let zone ← if after.isEmpty then pure none else (zoneOf? after).map some
    if isMomentGap gap && d.isValid && t.isValid then some (.dateTime d t zone) else none
  | none => do
    let (t, after) ← timeOf? plainDigit? cs
    if after.isEmpty && t.isValid then some (.time t) else none

/-- What a text looks like from its digits and signs. -/
inductive MomentShape where
  | date
  | time
  | dateTime
deriving Repr, DecidableEq

/-- Whether a text looks like a time with a zone or none, after a gap or none. -/
def looksLikeTime (cs : List Char) : Bool :=
  let body := match cs with
    | c :: rest => if isMomentGap c then rest else cs
    | [] => []
  match timeOf? decimalValue? body with
  | some (_, after) => after.isEmpty || (zoneOf? after).isSome
  | none => false

/-- What a text looks like, if it looks like a moment. The digits of any script look like digits,
although only ordinary ones make a moment. -/
def momentShape? (cs : List Char) : Option MomentShape :=
  match dateOf? decimalValue? cs with
  | some (_, []) => some .date
  | some (_, rest) => if looksLikeTime rest then some .dateTime else none
  | none => if looksLikeTime cs then some .time else none

end ProcessStubs.Toml
