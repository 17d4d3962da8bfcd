/-!
# Numbers with 53 significant bits

The numbers that a 64-bit word holds in binary floating point: a sign, a significand below two to
the power 53 and an exponent of two, or an infinity, or no number. A decimal is read as the nearest
of them, a tie going to the even significand; the arithmetic is exact.

`Binary64.shortest` finds the fewest decimal digits that read back as the same number, and of two
such decimals the nearer one.
-/

namespace ProcessStubs

/-- A binary floating-point number. A finite one is `significand * 2 ^ exponent`. -/
inductive Binary64 where
  | finite (negative : Bool) (significand : Nat) (exponent : Int)
  | infinite (negative : Bool)
  | nan
deriving Repr, DecidableEq

namespace Binary64

/-- Every significand is below this number. -/
def significandLimit : Nat := Nat.pow 2 53

/-- The least exponent. -/
def leastExponent : Int := -1074

/-- The greatest exponent. -/
def greatestExponent : Int := 971

/-- The power of `base` with the exponent `e`, as numerator and denominator. -/
def powerParts (base : Nat) (e : Int) : Nat × Nat := (Nat.pow base e.toNat, Nat.pow base (-e).toNat)

/-- A quotient rounded to the nearest natural number, a tie going to the even one. -/
def roundDiv (num den : Nat) : Nat :=
  let q := num / den
  let r := num % den
  if 2 * r < den then q
  else if 2 * r > den then q + 1
  else if q % 2 = 0 then q else q + 1

/-- A positive quotient as a multiple of `2 ^ e`, rounded. -/
def roundAt (num den : Nat) (e : Int) : Nat :=
  let (up, down) := powerParts 2 e
  roundDiv (num * down) (den * up)

/-- The number nearest to a quotient. -/
def ofQuotient (negative : Bool) (num den : Nat) : Binary64 :=
  if num = 0 then finite negative 0 0
  else
    let guess : Int := (num.log2 : Int) - (den.log2 : Int) - 53
    let fits (e : Int) : Bool := roundAt num den e < significandLimit
    let e :=
      if fits (max guess leastExponent) then max guess leastExponent
      else if fits (max (guess + 1) leastExponent) then max (guess + 1) leastExponent
      else max (guess + 2) leastExponent
    if e > greatestExponent then infinite negative
    else finite negative (roundAt num den e) e

/-- The number nearest to the decimal `digits * 10 ^ exponent`. Decimals far outside of the range
are not computed. -/
def ofDecimal (negative : Bool) (digits : Nat) (exponent : Int) : Binary64 :=
  if digits = 0 then finite negative 0 0
  else
    let size : Int := (toString digits).length
    if size + exponent > 400 then infinite negative
    else if size + exponent < -400 then finite negative 0 0
    else
      let (up, down) := powerParts 10 exponent
      ofQuotient negative (digits * up) down

/-- The smallest `k` with `num / den < 10 ^ k`, searched upward from `k`. -/
def decimalSize (num den : Nat) : Nat → Int → Int
  | 0, k => k
  | fuel + 1, k =>
    let (up, down) := powerParts 10 k
    if num * down < den * up then k else decimalSize num den fuel (k + 1)

/-- A decimal: `digits * 10 ^ exponent`. -/
structure Decimal where
  digits : Nat
  exponent : Int
deriving Repr, DecidableEq

/-- The numbers that read as `significand * 2 ^ exponent` lie between these two multiples of
`2 ^ (exponent - 2)`. -/
def neighbourhood (significand : Nat) (exponent : Int) : Nat × Nat :=
  let below := if significand = Nat.pow 2 52 ∧ exponent > leastExponent then 1 else 2
  (4 * significand - below, 4 * significand + 2)

/-- Whether the decimal reads back as `significand * 2 ^ exponent`. -/
def readsBack (significand : Nat) (exponent : Int) (d : Decimal) : Bool :=
  let (low, high) := neighbourhood significand exponent
  let (up2, down2) := powerParts 2 (exponent - 2)
  let (up10, down10) := powerParts 10 d.exponent
  let value := d.digits * up10 * down2
  let unit := up2 * down10
  if significand % 2 = 0 then low * unit ≤ value && value ≤ high * unit
  else low * unit < value && value < high * unit

/-- The shortest decimal with `size` digits before the exponent that reads back, trying `n` digits
and more. -/
def shortestFrom (significand : Nat) (exponent : Int) (size : Int) : Nat → Nat → Decimal
  | 0, n => ⟨0, size - n⟩
  | fuel + 1, n =>
    let (up2, down2) := powerParts 2 exponent
    let (up10, down10) := powerParts 10 (size - n)
    let num := significand * up2 * down10
    let den := down2 * up10
    let low : Decimal := ⟨num / den, size - n⟩
    let high : Decimal := ⟨num / den + 1, size - n⟩
    match readsBack significand exponent low, readsBack significand exponent high with
    | true, true =>
      let r := num % den
      if 2 * r < den ∨ (2 * r = den ∧ low.digits % 2 = 0) then low else high
    | true, false => low
    | false, true => high
    | false, false => shortestFrom significand exponent size fuel (n + 1)

/-- The shortest decimal that reads back as `significand * 2 ^ exponent`. -/
def shortest (significand : Nat) (exponent : Int) : Decimal :=
  let (up, down) := powerParts 2 exponent
  let size := decimalSize (significand * up) down 700 (-330)
  shortestFrom significand exponent size 18 1

/-- Decimals with an exponent in this range are written with a point, others with an exponent. -/
def isPositional (point : Int) : Bool := -4 < point && point ≤ 16

/-- Digits without the zeros at their end. -/
def trimZeros (digits : List Char) : List Char := (digits.reverse.dropWhile (· == '0')).reverse

/-- How an exponent is written: with its sign and two digits at least. -/
def exponentText (e : Int) : String :=
  let digits := toString e.natAbs
  (if e < 0 then "-" else "+") ++ (if digits.length < 2 then "0" ++ digits else digits)

/-- How a number that is not negative is written, given its digits and where the point stands. -/
def decimalText (digits : List Char) (point : Int) : String :=
  if isPositional point then
    if point ≤ 0 then
      "0." ++ String.ofList (List.replicate (-point).toNat '0' ++ digits)
    else
      let p := point.toNat
      let whole := digits.take p ++ List.replicate (p - digits.length) '0'
      let fraction := digits.drop p
      String.ofList whole ++ "." ++ (if fraction.isEmpty then "0" else String.ofList fraction)
  else
    let fraction := digits.drop 1
    String.ofList (digits.take 1) ++
      (if fraction.isEmpty then "" else "." ++ String.ofList fraction) ++
      "e" ++ exponentText (point - 1)

/-- How a number is written: with the fewest digits that read back. -/
def text : Binary64 → String
  | finite negative significand exponent =>
    let sign := if negative then "-" else ""
    if significand = 0 then sign ++ "0.0"
    else
      let d := shortest significand exponent
      let digits := (toString d.digits).toList
      sign ++ decimalText (trimZeros digits) (d.exponent + digits.length)
  | infinite negative => if negative then "-inf" else "inf"
  | nan => "nan"

/-- Whether a number is zero. -/
def isZero : Binary64 → Bool
  | finite _ significand _ => significand == 0
  | _ => false

/-- Whether a number equals an integer. -/
def isInteger : Binary64 → Int → Bool
  | finite negative significand exponent, n =>
    let (up, down) := powerParts 2 exponent
    (if negative then -1 else 1) * ((significand * up : Nat) : Int) == n * down
  | _, _ => false

/-- Whether two numbers are the same in value. No number is no value at all. -/
def sameValue : Binary64 → Binary64 → Bool
  | finite n s e, finite n' s' e' =>
    let (up, down) := powerParts 2 e
    let (up', down') := powerParts 2 e'
    (s == 0 && s' == 0) || (n == n' && s * up * down' == s' * up' * down)
  | infinite n, infinite n' => n == n'
  | _, _ => false

end Binary64

end ProcessStubs
