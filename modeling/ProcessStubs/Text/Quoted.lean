import ProcessStubs.Text.Printable

/-!
# Quoted text

A text in quotes, written so that it stays on one line and reads back as the same text. Single
quotes are used unless the text holds one and holds no double quote. Inside the quotes the chosen
quote and the backslash are preceded by a backslash, and every character that is not printable
becomes an escape with lower-case hexadecimal digits.
-/

namespace ProcessStubs.Text

/-- The hexadecimal digit of a number below sixteen. -/
def hexDigit (d : Nat) : Char := if d < 10 then Char.ofNat (48 + d) else Char.ofNat (87 + d)

/-- The last `k` hexadecimal digits of a number, the most significant first. -/
def hexDigits : Nat → Nat → List Char
  | 0, _ => []
  | k + 1, n => hexDigits k (n / 16) ++ [hexDigit (n % 16)]

/-- A character as the shortest escape that its number fits in. -/
def escaped (c : Char) : List Char :=
  if c.toNat < 0x100 then '\\' :: 'x' :: hexDigits 2 c.toNat
  else if c.toNat < 0x10000 then '\\' :: 'u' :: hexDigits 4 c.toNat
  else '\\' :: 'U' :: hexDigits 8 c.toNat

/-- How one character is written between the quotes `q`. -/
def quotedChar (q c : Char) : List Char :=
  if c = q ∨ c = '\\' then ['\\', c]
  else if c = '\t' then ['\\', 't']
  else if c = '\n' then ['\\', 'n']
  else if c = '\r' then ['\\', 'r']
  else if isPrintable c then [c]
  else escaped c

/-- The quote a text is written in. -/
def quoteFor (cs : List Char) : Char :=
  if '\'' ∈ cs ∧ '"' ∉ cs then '"' else '\''

/-- The characters of a quoted text, quotes included. -/
def quotedChars (cs : List Char) : List Char :=
  let q := quoteFor cs
  q :: (cs.flatMap (quotedChar q) ++ [q])

/-- The quoted form of a text. -/
def quoted (s : String) : String := String.ofList (quotedChars s.toList)

/-- The quoted form of a text, or `None` where there is no text. -/
def quotedOrNone : Option String → String
  | some s => quoted s
  | none => "None"

/-- A quoted text begins and ends with the chosen quote. -/
theorem quotedChars_eq (cs : List Char) :
    quotedChars cs = quoteFor cs :: (cs.flatMap (quotedChar (quoteFor cs)) ++ [quoteFor cs]) := rfl

end ProcessStubs.Text
