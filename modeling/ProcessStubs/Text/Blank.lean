import ProcessStubs.Text.Ranges

/-!
# Blank characters

Blanks are the characters with the bidirectional class of white space or separators, together with
the space separators. They separate words in names and are stripped from values.
-/

namespace ProcessStubs.Text

/-- The blank characters. -/
def blankRanges : List (Nat × Nat) := [
  (0x9, 0xD), (0x1C, 0x20), (0x85, 0x85), (0xA0, 0xA0), (0x1680, 0x1680), (0x2000, 0x200A),
  (0x2028, 0x2029), (0x202F, 0x202F), (0x205F, 0x205F), (0x3000, 0x3000)]

/-- Whether a character is blank. -/
def isBlank (c : Char) : Bool := inRanges blankRanges c.toNat

/-- The text without the blanks at its start. -/
def stripStart (cs : List Char) : List Char := cs.dropWhile isBlank

/-- The text without the blanks at its end. -/
def stripEnd (cs : List Char) : List Char := (stripStart cs.reverse).reverse

/-- The text without the blanks at either end. -/
def strip (s : String) : String := String.ofList (stripEnd (stripStart s.toList))

end ProcessStubs.Text
