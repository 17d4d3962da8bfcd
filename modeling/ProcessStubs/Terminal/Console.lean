import ProcessStubs.Terminal.Style

/-!
# Consoles

A console writes messages to two streams: results to one, warnings and errors to the other. A
console without colours removes all escape sequences from what it writes, whether they are of a
style or of the message itself.
-/

namespace ProcessStubs.Terminal

/-- What has been written to the two streams. -/
structure Screen where
  out : String
  err : String
deriving Repr, DecidableEq

namespace Screen

/-- The screen that nothing has been written to. -/
def empty : Screen := ⟨"", ""⟩

/-- The screen with more text for results. -/
def addOut (s : Screen) (text : String) : Screen := { s with out := s.out ++ text }

/-- The screen with more text for warnings and errors. -/
def addErr (s : Screen) (text : String) : Screen := { s with err := s.err ++ text }

end Screen

/-- A console that writes with colours or without. -/
structure Console where
  coloured : Bool
deriving Repr, DecidableEq

namespace Console

/-- A text as a console writes it. -/
def written (c : Console) (text : String) : String :=
  if c.coloured then text else String.ofList (stripEscapes text.toList)

/-- A text as a console writes it, with or without a line end. -/
def ended (c : Console) (text : String) (newline : Bool) : String :=
  c.written (if newline then text ++ "\n" else text)

/-- Writes a result. -/
def print (c : Console) (text : String) (newline : Bool) (s : Screen) : Screen :=
  s.addOut (c.ended text newline)

/-- Writes a message in a colour. -/
def report (c : Console) (colour : Colour) (text : String) (newline : Bool) (s : Screen) : Screen :=
  s.addErr (c.ended (colour.style.apply text) newline)

/-- Writes a warning. -/
def warn (c : Console) (text : String) (newline : Bool) (s : Screen) : Screen :=
  c.report .yellow text newline s

/-- Writes an error. -/
def error (c : Console) (text : String) (newline : Bool) (s : Screen) : Screen :=
  c.report .brightRed text newline s

/-- The text in a style, unless the console is without colours. -/
def styled (c : Console) (style : Style) (text : String) : String :=
  if c.coloured then style.apply text else text

/-- The text in the style of fields. Without colours the fields are not looked at. -/
def styledBy (c : Console) (fields : List (String × Value)) (text : String) :
    Except StyleFault String :=
  if c.coloured then (Style.ofFields fields).map fun style => style.apply text else .ok text

end Console

end ProcessStubs.Terminal
