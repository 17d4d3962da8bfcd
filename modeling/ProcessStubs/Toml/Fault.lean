import ProcessStubs.Text.Quoted

/-!
# Faults of setting files

What can be wrong with the text of a setting file, where, and how that is said. A place is a line,
counted from one, and a column, counted from zero.

Two definitions can also clash. A clash of two definitions at the top level has a place; one inside
of a table is found before the place is known.
-/

namespace ProcessStubs.Toml

open ProcessStubs.Text

/-- Two definitions that exclude each other: of the same key, or of a table by a header and by
dotted keys. -/
inductive Clash where
  | duplicateKey (key : String)
  | redefinedTable
deriving Repr, DecidableEq

/-- The wording of a clash. -/
def Clash.message : Clash → String
  | duplicateKey key => "Key \"" ++ key ++ "\" already exists."
  | redefinedTable => "Redefinition of an existing table"

/-- Where control characters are not allowed. -/
inductive Region where
  | strings
  | comments
  | lines
deriving Repr, DecidableEq

/-- The most names of a key, and the most arrays and tables in braces around a value. -/
def maxLevels : Nat := 100

/-- What can be wrong with the text. -/
inductive Flaw where
  | unexpectedCharacter (text : String)
  | unexpectedEnd
  | emptyKey
  | emptyTableName
  | invalidKey (key : String)
  | invalidNumber
  | invalidDate
  | invalidTime
  | invalidDateTime
  | invalidUnicode
  | invalidInString (c : Char)
  | controlCharacter (code : Nat) (region : Region)
  | deepKey
  | deepValue
  | clash (clash : Clash)
deriving Repr, DecidableEq

/-- The wording of a flaw. -/
def Flaw.message : Flaw → String
  | unexpectedCharacter text => "Unexpected character: " ++ quoted text
  | unexpectedEnd => "Unexpected end of file"
  | emptyKey => "Empty key"
  | emptyTableName => "Empty table name"
  | invalidKey key => "Invalid key \"" ++ key ++ "\""
  | invalidNumber => "Invalid number"
  | invalidDate => "Invalid date"
  | invalidTime => "Invalid time"
  | invalidDateTime => "Invalid datetime"
  | invalidUnicode => "Invalid unicode value"
  | invalidInString c => "Invalid character " ++ quoted c.toString ++ " in string"
  | controlCharacter code region =>
    "Control characters (codes less than 0x1f and 0x7f) are not allowed in " ++
      (match region with
        | .strings => "strings"
        | .comments => "comments"
        | .lines => "lines") ++
      ", use \\u" ++ String.ofList (hexDigits 4 code) ++ " instead"
  | deepKey => "TOML key nested more than " ++ toString maxLevels ++ " levels deep"
  | deepValue => "TOML value nested more than " ++ toString maxLevels ++ " levels deep"
  | clash c => c.message

/-- A place in a text. -/
structure Place where
  line : Nat
  column : Nat
deriving Repr, DecidableEq

/-- Why a text cannot be read as settings. -/
inductive Fault where
  | at (flaw : Flaw) (place : Place)
  | unplaced (clash : Clash)
deriving Repr, DecidableEq

/-- The wording of a fault. -/
def Fault.message : Fault → String
  | «at» flaw place =>
    flaw.message ++ " at line " ++ toString place.line ++ " col " ++ toString place.column
  | unplaced clash => clash.message

/-- The characters that end a line when lines are counted. -/
def isLineBreak (c : Char) : Bool :=
  let n := c.toNat
  (0xA ≤ n && n ≤ 0xD) || (0x1C ≤ n && n ≤ 0x1E) || n == 0x85 || n == 0x2028 || n == 0x2029

/-- The lengths of the lines of a text. A carriage return and a line feed end a line together, and
nothing after the last end is no line. `size` is the length of the line so far. -/
def lineLengths (size : Nat) : List Char → List Nat
  | [] => if size = 0 then [] else [size]
  | '\r' :: '\n' :: rest => size :: lineLengths 0 rest
  | c :: rest => if isLineBreak c then size :: lineLengths 0 rest else lineLengths (size + 1) rest

/-- The place of an offset, each line end counted as one character. -/
def placeIn (line start offset : Nat) : List Nat → Place
  | [] => ⟨line, 0⟩
  | size :: rest =>
    if start + size + 1 > offset then ⟨line + 1, offset - start⟩
    else placeIn (line + 1) (start + size + 1) offset rest

/-- The place where `left` characters of a text are left. The end of the text is placed at the start
of its last line. -/
def placeOf (text : List Char) (left : Nat) : Place :=
  let sizes := lineLengths 0 text
  if left = 0 then ⟨sizes.length, 0⟩ else placeIn 0 0 (text.length - left) sizes

end ProcessStubs.Toml
