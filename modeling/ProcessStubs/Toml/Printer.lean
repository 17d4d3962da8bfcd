import ProcessStubs.Data.Value
import ProcessStubs.Text.Split
import ProcessStubs.Toml.Text

/-!
# Writing setting files

A table of simple values is written as one field a line. Texts and keys that are no bare names stand
in double quotes, and characters that cannot stand there are escaped. There is no way to write that
there is no value.

Main definition: `printToml` writes a table.
-/

namespace ProcessStubs.Toml

open ProcessStubs.Text

/-- How a character is written between double quotes. -/
def basicChar (c : Char) : List Char :=
  if c = '"' then ['\\', '"']
  else if c = '\\' then ['\\', '\\']
  else if c = '\x08' then ['\\', 'b']
  else if c = '\t' then ['\\', 't']
  else if c = '\n' then ['\\', 'n']
  else if c = '\x0c' then ['\\', 'f']
  else if c = '\r' then ['\\', 'r']
  else if isControl c then '\\' :: 'u' :: hexDigits 4 c.toNat
  else [c]

/-- A text in double quotes. -/
def basicText (s : String) : String := "\"" ++ String.ofList (s.toList.flatMap basicChar) ++ "\""

/-- How a key is written: as it is if it is a bare name, or else in double quotes. -/
def keyText (key : String) : String :=
  if key ≠ "" ∧ key.toList.all isBareChar then key else basicText key

mutual

/-- How a value is written, if it and all values in it can be. -/
def valueText : Value → Option String
  | .boolean b => some (if b then "true" else "false")
  | .integer n => some (toString n)
  | .real x => some x.text
  | .text s => some (basicText s)
  | .moment m => some m.text
  | .list items => (itemTexts items).map fun texts => "[" ++ joinWith ", " texts ++ "]"
  | .table fields => (fieldTexts fields).map fun texts => "\x7b" ++ joinWith ", " texts ++ "\x7d"
  | .null => none

/-- How the items of an array are written. -/
def itemTexts : List Value → Option (List String)
  | [] => some []
  | v :: rest => do return (← valueText v) :: (← itemTexts rest)

/-- How fields are written. -/
def fieldTexts : List (String × Value) → Option (List String)
  | [] => some []
  | (key, v) :: rest => do
    return (keyText key ++ " = " ++ (← valueText v)) :: (← fieldTexts rest)

end

/-- Why a table cannot be written: a field of it has no value, or its value holds an item that has
none. -/
inductive PrintFault where
  | emptyField (key : String)
  | emptyItem (key : String)
deriving Repr, DecidableEq

/-- The line of a field. -/
def fieldLine (key : String) (v : Value) : Except PrintFault String :=
  match v, valueText v with
  | .null, _ => .error (.emptyField key)
  | _, none => .error (.emptyItem key)
  | _, some t => .ok (keyText key ++ " = " ++ t ++ "\n")

/-- The text of a table: one line for each field. -/
def printToml (fields : List (String × Value)) : Except PrintFault String :=
  (fields.mapM fun (key, v) => fieldLine key v).map String.join

end ProcessStubs.Toml
