import ProcessStubs.Number.Binary64

/-!
# Rounded decimals

How a number is written when it is said how many digits to write: with so many places after the
point, with an exponent and so many digits, or with so many digits and an exponent only where the
number is very large or very small. The number itself is rounded, not one of its shorter decimals;
the arithmetic is exact, and a tie goes to the even digit.

The functions here are about numbers that are not negative, given as a quotient. `pointed` is the
one place that sets the point.
-/

namespace ProcessStubs.Binary64

/-! ### Rounding -/

/-- The digits of a quotient rounded to `places` decimal places. -/
def fixedDigits (num den places : Nat) : Nat := roundDiv (num * Nat.pow 10 places) den

/-- The `count` leading digits of a positive quotient, rounded, and where the point stands after the
first of them. Rounding up to a power of ten moves the point. -/
def leadingDigits (num den count : Nat) : Nat × Int :=
  let size := decimalSize num den 700 (-330)
  let (up, down) := powerParts 10 (count - size)
  let digits := roundDiv (num * up) (den * down)
  if digits = Nat.pow 10 count then (Nat.pow 10 (count - 1), size + 1) else (digits, size)

/-! ### Layout -/

/-- Digits with a point after the first `point` of them, and with zeros where they do not reach the
point. A point with nothing behind it is left out unless it is to be kept. -/
def pointed (digits : List Char) (point : Int) (keepPoint : Bool) : List Char :=
  let shift := (-point).toNat
  let whole := digits.take point.toNat ++ List.replicate (point.toNat - digits.length) '0'
  let fraction := List.replicate shift '0' ++ digits.drop point.toNat
  (if whole.isEmpty then ['0'] else whole) ++
    (if fraction.isEmpty && !keepPoint then [] else '.' :: fraction)

/-- Digits with a point after the first of them, and the exponent that puts it where it belongs. -/
def withExponent (digits : List Char) (point : Int) (keepPoint : Bool) : List Char :=
  pointed digits 1 keepPoint ++ 'e' :: (exponentText (point - 1)).toList

/-- A quotient with so many places after the point. -/
def fixedText (num den places : Nat) (keepPoint : Bool) : List Char :=
  let digits := (toString (fixedDigits num den places)).toList
  pointed digits (digits.length - places) keepPoint

/-- The `count` leading digits of a quotient as text, and where the point stands. The digits of zero
are zeros, the first of them before the point. -/
def leadingText (num den count : Nat) : List Char × Int :=
  if num = 0 then (List.replicate count '0', 1)
  else
    let (digits, point) := leadingDigits num den count
    ((toString digits).toList, point)

/-- A quotient with an exponent and so many places after the point. -/
def scientificText (num den places : Nat) (keepPoint : Bool) : List Char :=
  let (digits, point) := leadingText num den (places + 1)
  withExponent digits point keepPoint

/-- A quotient with so many digits, one at least. It has an exponent if the point would stand beyond
the digits, or far before them. Zeros at the end are left out unless the point is to be kept. -/
def generalText (num den count : Nat) (keepPoint : Bool) : List Char :=
  let count := max 1 count
  let (digits, point) := leadingText num den count
  let digits := if keepPoint then digits else digits.take 1 ++ trimZeros (digits.drop 1)
  if point ≤ -4 || point > count then withExponent digits point keepPoint
  else pointed digits point keepPoint

/-! ### Parts of a number -/

/-- Whether a number has a minus sign. -/
def isNegative : Binary64 → Bool
  | finite negative _ _ | infinite negative => negative
  | nan => false

/-- A number without its sign as a quotient, if it is finite. -/
def quotient? : Binary64 → Option (Nat × Nat)
  | finite _ significand exponent =>
    let (up, down) := powerParts 2 exponent
    some (significand * up, down)
  | _ => none

/-- The number without what stands behind its point, if it is finite. -/
def wholePart? (x : Binary64) : Option Int :=
  x.quotient?.map fun (num, den) =>
    if x.isNegative then -((num / den : Nat) : Int) else ((num / den : Nat) : Int)

/-- The number nearest to an integer. -/
def ofInt (n : Int) : Binary64 := ofQuotient (n < 0) n.natAbs 1

end ProcessStubs.Binary64
