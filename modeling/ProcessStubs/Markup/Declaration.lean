import ProcessStubs.Markup.Symbol

/-!
# The declaration of a document

What stands between `<?xml` and `?>`: a version, then perhaps an encoding, then perhaps whether the
document stands alone. A fault is reported by the number of characters from it to the end.
-/

namespace ProcessStubs.Markup

/-- One `name="value"` of a declaration. The counts tell how many characters follow from the first
one of the name, and of the value, to the end of the declaration. -/
structure Setting where
  name : List Char
  nameLeft : Nat
  value : List Char
  valueLeft : Nat
  rest : List Char

/-- Whether a character may stand in the value of a setting. -/
def isSettingChar (c : Char) : Bool := c.isAlphanum || c == '.' || c == '-' || c == '_'

/-- Reads the value of a setting from its opening quote on. -/
def readSettingValue (name : List Char) (nameLeft : Nat) : List Char → Except Nat Setting
  | [] => .error 0
  | q :: cs =>
    if q != '"' && q != '\'' then .error (cs.length + 1)
    else
      let value := cs.takeWhile isSettingChar
      match cs.dropWhile isSettingChar with
      | c :: rest =>
        if c == q then .ok ⟨name, nameLeft, value, cs.length, rest⟩ else .error (rest.length + 1)
      | [] => .error 0

/-- Reads one setting, which white space must precede; `none` at the end of the declaration. -/
def readSetting (cs : List Char) : Except Nat (Option Setting) :=
  match cs with
  | [] => .ok none
  | c :: _ =>
    if !isSpace c then .error cs.length
    else
      let body := cs.dropWhile isSpace
      if body.isEmpty then .ok none
      else
        let inName (c : Char) : Bool := c != '=' && !isSpace c && c.toNat < 0x80
        let name := body.takeWhile inName
        let after := body.dropWhile inName
        let equals := after.dropWhile isSpace
        match equals with
        | '=' :: rest =>
          if name.isEmpty then .error equals.length
          else (readSettingValue name body.length (rest.dropWhile isSpace)).map some
        | _ => .error equals.length

/-- Reads a declaration. The result is the name of the encoding, if it gives one, with the number of
characters from that name to the end. -/
def readDeclaration (cs : List Char) : Except Nat (Option (String × Nat)) := do
  let some version ← readSetting cs | throw cs.length
  if version.name ≠ "version".toList then throw version.nameLeft
  let some second ← readSetting version.rest | return none
  if second.name = "encoding".toList then
    if !(second.value.head?.any Char.isAlpha) then throw second.valueLeft
    let encoding := some (String.ofList second.value, second.valueLeft)
    let some third ← readSetting second.rest | return encoding
    checkStandalone third
    return encoding
  else
    checkStandalone second
    return none
where
  checkStandalone (s : Setting) : Except Nat Unit := do
    if s.name ≠ "standalone".toList then throw s.nameLeft
    if s.value ≠ "yes".toList ∧ s.value ≠ "no".toList then throw s.valueLeft
    let rest := s.rest.dropWhile isSpace
    if !rest.isEmpty then throw rest.length

end ProcessStubs.Markup
