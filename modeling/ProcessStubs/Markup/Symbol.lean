import ProcessStubs.Markup.Name

/-!
# Symbols and positions

The reader of markup sees its input as symbols: the characters that a document may hold, and marks
for bytes that give no such character. Each unit of the input, a byte or two, gives one symbol; of a
character of several units the first gives the character. `Position.after` counts lines and columns
over symbols.
-/

namespace ProcessStubs.Markup

/-- One unit of decoded input.

* `more`: a further unit of the character before it.
* `char`: an allowed character with its role in names.
* `invalid`: bytes that give no allowed character; the flag says whether the first of them is the
  first byte of a longer character.
* `partialChar`: the input ends inside a character.
* `partialUnit`: the input ends inside a two-byte unit. -/
inductive Symbol where
  | more
  | char (c : Char) (role : NameRole)
  | invalid (leading : Bool)
  | partialChar
  | partialUnit
deriving Repr, DecidableEq

/-- Whether a character may stand in a document: no control character but tab, line feed and
carriage return, and not one of the two last code points of the basic plane. -/
def isAllowed (c : Char) : Bool :=
  (c.toNat ≥ 0x20 || c == '\t' || c == '\n' || c == '\r') && c.toNat != 0xFFFE && c.toNat != 0xFFFF

/-- The symbol of a character. -/
def Symbol.ofChar (c : Char) : Symbol :=
  if isAllowed c then .char c (nameRole c) else .invalid false

/-- White space in markup. -/
def isSpace (c : Char) : Bool := c == ' ' || c == '\t' || c == '\n' || c == '\r'

/-- A place in the input. Lines count from 1 and columns from 0. `afterReturn` says that the
symbol before was a carriage return, so that a line feed here belongs to the same line break. -/
structure Position where
  line : Nat
  column : Nat
  afterReturn : Bool
deriving Repr, DecidableEq

/-- The start of the input. -/
def Position.start : Position := ⟨1, 0, false⟩

/-- The position after a symbol. -/
def Position.next (p : Position) : Symbol → Position
  | .more => p
  | .char '\n' _ =>
    if p.afterReturn then { p with afterReturn := false } else ⟨p.line + 1, 0, false⟩
  | .char '\r' _ => ⟨p.line + 1, 0, true⟩
  | _ => ⟨p.line, p.column + 1, false⟩

/-- The position after several symbols. -/
def Position.after (p : Position) (symbols : List Symbol) : Position :=
  symbols.foldl Position.next p

end ProcessStubs.Markup
