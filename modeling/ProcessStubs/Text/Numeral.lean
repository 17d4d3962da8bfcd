import ProcessStubs.Number.Binary64
import ProcessStubs.Text.Blank
import ProcessStubs.Text.CaseMap
import ProcessStubs.Text.Digit
import ProcessStubs.Text.Split

/-!
# Numerals

How numbers are read from texts. A whole number is a sign and digits, among which single underscores
may stand; with a base of two, eight or sixteen the mark of the base may stand before them. Decimal
digits of every script are read, and blanks around a number are not looked at.
-/

namespace ProcessStubs.Text

/-- The most decimal digits that a whole number is read from. -/
def maxDecimalDigits : Nat := 4300

/-- The value of a digit in a base. -/
def digitValue? (base : Nat) (c : Char) : Option Nat :=
  let value := (decimalValue? c).or <|
    if 'a' ≤ c ∧ c ≤ 'z' then some (c.toNat - 87)
    else if 'A' ≤ c ∧ c ≤ 'Z' then some (c.toNat - 55)
    else none
  value.filter (· < base)

/-- The number that digits of a base denote. -/
def digitsValue? (base : Nat) (cs : List Char) : Option Nat :=
  cs.foldlM (fun n c => (digitValue? base c).map (n * base + ·)) 0

/-- The number that digits denote, among which single underscores stand. -/
def groupedValue? (base : Nat) (cs : List Char) : Option Nat :=
  let groups := splitWhere (· == '_') cs
  if groups.any List.isEmpty then none
  else
    let digits := groups.flatten
    if base = 10 ∧ digits.length > maxDecimalDigits then none else digitsValue? base digits

/-- The letter that marks a base. -/
def baseMark? (base : Nat) : Option Char :=
  if base = 16 then some 'x' else if base = 8 then some 'o' else if base = 2 then some 'b' else none

/-- The digits after the mark of the base, if it is there. An underscore may follow the mark. -/
def dropBaseMark (base : Nat) (cs : List Char) : List Char :=
  match cs with
  | '0' :: m :: rest =>
    if (baseMark? base).any fun mark => m = mark ∨ m = mark.toUpper then
      match rest with
      | '_' :: more => more
      | _ => rest
    else cs
  | _ => cs

/-- The sign of a number and what follows it. -/
def splitSign : List Char → Bool × List Char
  | '-' :: rest => (true, rest)
  | '+' :: rest => (false, rest)
  | cs => (false, cs)

/-- The characters without the blanks at either end. -/
def trimmed (cs : List Char) : List Char := stripEnd (stripStart cs)

/-- The whole number that a text denotes in a base. -/
def integerOf? (base : Nat) (cs : List Char) : Option Int :=
  let (negative, rest) := splitSign (trimmed cs)
  (groupedValue? base (dropBaseMark base rest)).map fun n => if negative then -(n : Int) else n

/-- The exponent of a number and whether one is written properly or left out. -/
def exponentOf? : List Char → Option Int
  | [] => some 0
  | e :: rest =>
    if e = 'e' ∨ e = 'E' then
      let (negative, digits) := splitSign rest
      if digits.isEmpty then none
      else (decimalNumber? digits).map fun n => if negative then -(n : Int) else n
    else none

/-- Whether a character is a decimal digit. -/
def isDecimal (c : Char) : Bool := (decimalValue? c).isSome

/-- The number that a text denotes, with a point or an exponent or not, or as a word. -/
def realOf? (cs : List Char) : Option Binary64 :=
  let (negative, rest) := splitSign (trimmed cs)
  let word := lowerText (String.ofList rest)
  if word = "inf" ∨ word = "infinity" then some (.infinite negative)
  else if word = "nan" then some .nan
  else
    let whole := rest.takeWhile isDecimal
    let afterWhole := rest.dropWhile isDecimal
    let (fraction, afterFraction) :=
      match afterWhole with
      | '.' :: more => (more.takeWhile isDecimal, more.dropWhile isDecimal)
      | _ => ([], afterWhole)
    if whole.isEmpty && fraction.isEmpty then none
    else do
      let digits ← decimalNumber? (whole ++ fraction)
      let exponent ← exponentOf? afterFraction
      return .ofDecimal negative digits (exponent - fraction.length)

end ProcessStubs.Text
