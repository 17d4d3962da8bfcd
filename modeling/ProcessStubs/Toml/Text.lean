import ProcessStubs.Text.Numeral
import ProcessStubs.Toml.Fault

/-!
# Comments, texts and keys in setting files

Reading goes on from the characters that are left, and stops with a flaw where it cannot go on. A
reader gives what it has read and the characters that are left then.

Texts stand between quotes: in double quotes a backslash begins an escape, in single quotes it
stands for itself. Three quotes in a row begin a text of several lines.
-/

namespace ProcessStubs.Toml

open ProcessStubs.Text

/-- Why reading stopped: a flaw where `left` characters are left, or a clash inside of a table. -/
inductive Halt where
  | flaw (f : Flaw) (left : Nat)
  | clash (c : Clash)

/-- Stops at the characters that are left. -/
def stop {α : Type} (f : Flaw) (rest : List Char) : Except Halt α := .error (.flaw f rest.length)

/-- The next character, or the character zero at the end of the text. -/
def current (rest : List Char) : Char := rest.headD '\x00'

/-- Stops since the next character is out of place. -/
def unexpected {α : Type} (rest : List Char) : Except Halt α :=
  stop (.unexpectedCharacter (current rest).toString) rest

/-- A character that separates on a line. -/
def isSpace (c : Char) : Bool := c == ' ' || c == '\t'

/-- A character that ends a line. -/
def isLineEnd (c : Char) : Bool := c == '\n' || c == '\r'

/-- A character that separates on one line or over several. -/
def isGap (c : Char) : Bool := isSpace c || isLineEnd c

/-- The control characters other than the tab. -/
def isControl (c : Char) : Bool := (c.toNat < 0x20 && c != '\t') || c.toNat == 0x7F

/-! ### Comments -/

/-- What follows a comment, whose mark has been read. -/
def skipComment : List Char → Except Halt (List Char)
  | [] => .ok []
  | c :: rest =>
    if isLineEnd c then .ok (c :: rest)
    else if isControl c then stop (.controlCharacter c.toNat .comments) (c :: rest)
    else skipComment rest

/-- What follows the end of a line. A carriage return ends a line only before a line feed. -/
def skipLineEnd : List Char → Except Halt (List Char)
  | '\r' :: '\n' :: rest => .ok rest
  | '\n' :: rest => .ok rest
  | '\r' :: rest => stop (.controlCharacter 0xD .lines) ('\r' :: rest)
  | rest => .ok rest

/-- What follows the line after a value, on which only a comment can stand. -/
def skipTrail : List Char → Except Halt (List Char)
  | [] => .ok []
  | c :: rest =>
    if c = '#' then do skipLineEnd (← skipComment rest)
    else if isLineEnd c then skipLineEnd (c :: rest)
    else if isSpace c then skipTrail rest
    else unexpected (c :: rest)

/-! ### Texts -/

/-- The character of an escape of one letter. -/
def shortEscape? : Char → Option Char
  | 'b' => some '\x08'
  | 't' => some '\t'
  | 'n' => some '\n'
  | 'f' => some '\x0c'
  | 'r' => some '\r'
  | 'e' => some '\x1b'
  | '"' => some '"'
  | '\\' => some '\\'
  | _ => none

/-- The number of hexadecimal digits after the letter of an escape. -/
def escapeWidth? : Char → Option Nat
  | 'x' => some 2
  | 'u' => some 4
  | 'U' => some 8
  | _ => none

/-- The character that the digits of an escape denote. -/
def escapedChar? (digits : List Char) : Option Char := do
  let n ← if digits.all (isPlainDigit 16) then digitsValue? 16 digits else none
  if h : n.isValidChar then return Char.ofNatAux n h else none

/-- The character of an escape whose backslash has been read, and what follows it. -/
def readEscape (cs : List Char) : Except Halt (Char × { r : List Char // r.length < cs.length }) :=
  match cs with
  | [] => stop .unexpectedEnd []
  | letter :: rest =>
    match shortEscape? letter, escapeWidth? letter with
    | some c, _ => if rest.isEmpty then stop .unexpectedEnd [] else .ok (c, ⟨rest, by simp⟩)
    | none, some width =>
      if rest.length ≤ width then stop .invalidUnicode cs
      else
        match escapedChar? (rest.take width) with
        | some c =>
          .ok (c, ⟨rest.drop width, by simp only [List.length_drop, List.length_cons]; omega⟩)
        | none => stop .invalidUnicode cs
    | none, none => stop (.invalidInString letter) cs

/-- The characters up to the closing double quote, and what follows it. -/
def readBasic (cs : List Char) : Except Halt (List Char × List Char) :=
  match cs with
  | [] => stop .unexpectedEnd []
  | c :: rest =>
    if c = '"' then .ok ([], rest)
    else if c = '\\' then do
      let (e, ⟨after, _⟩) ← readEscape rest
      let (text, left) ← readBasic after
      return (e :: text, left)
    else if isControl c then stop (.controlCharacter c.toNat .strings) cs
    else do
      let (text, left) ← readBasic rest
      return (c :: text, left)
termination_by cs.length

/-- The characters up to the closing single quote, and what follows it. -/
def readLiteral : List Char → Except Halt (List Char × List Char)
  | [] => stop .unexpectedEnd []
  | c :: rest =>
    if c = '\'' then .ok ([], rest)
    else if isControl c then stop (.controlCharacter c.toNat .strings) (c :: rest)
    else do
      let (text, left) ← readLiteral rest
      return (c :: text, left)

/-- The characters of a text of several lines up to its three closing quotes `q`, and what follows
them. Two quotes at most can stand before the closing ones, and a carriage return stands only before
a line feed. -/
def readLines (q : Char) (cs : List Char) : Except Halt (List Char × List Char) :=
  match cs with
  | [] => stop (.controlCharacter 0 .strings) []
  | c :: rest =>
    if isControl c && c != '\n' && !(c == '\r' && rest.head? == some '\n') then
      stop (.controlCharacter c.toNat .strings) cs
    else if c = q then
      let after := rest.dropWhile (· == q)
      let size := rest.length - after.length + 1
      if size < 3 then do
        let (text, left) ← readLines q after
        return (List.replicate size q ++ text, left)
      else if size < 6 then .ok (List.replicate (size - 3) q, after)
      else stop (.invalidInString (current after)) after
    else if q = '"' ∧ c = '\\' then
      if rest.head?.any isGap then
        let after := rest.dropWhile isGap
        if after.isEmpty then stop .unexpectedEnd []
        else if (rest.takeWhile isGap).contains '\n' then readLines q after
        else stop (.invalidInString (current after)) after
      else do
        let (e, ⟨after, _⟩) ← readEscape rest
        let (text, left) ← readLines q after
        return (e :: text, left)
    else if rest.isEmpty then stop .unexpectedEnd []
    else do
      let (text, left) ← readLines q rest
      return (c :: text, left)
termination_by cs.length
decreasing_by
  · exact Nat.lt_succ_of_le (List.dropWhile_sublist _).length_le
  · exact Nat.lt_succ_of_le (List.dropWhile_sublist _).length_le
  · exact Nat.lt_succ_of_lt (by assumption)
  · exact Nat.lt_succ_self _

/-- A text that has been read, and whether it was written over several lines. -/
structure QuotedText where
  chars : List Char
  multiline : Bool

/-- A text whose first quote `q` has been read. A line end right after three quotes does not belong
to it. -/
def readQuoted (q : Char) (cs : List Char) : Except Halt (QuotedText × List Char) :=
  match cs with
  | [] => stop .unexpectedEnd []
  | c :: rest =>
    if c = q then
      match rest with
      | d :: more =>
        if d = q then
          let body := match more with
            | '\n' :: lines => lines
            | '\r' :: '\n' :: lines => lines
            | lines => lines
          if body.isEmpty then stop .unexpectedEnd []
          else (readLines q body).map fun (text, left) => (⟨text, true⟩, left)
        else .ok (⟨[], false⟩, rest)
      | [] => .ok (⟨[], false⟩, [])
    else
      (if q = '"' then readBasic cs else readLiteral cs).map fun (text, left) =>
        (⟨text, false⟩, left)

/-! ### Keys -/

/-- A character of a name that is written without quotes. -/
def isBareChar (c : Char) : Bool := c.isAlphanum || c == '-' || c == '_'

/-- One name of a key without quotes, and what follows it. -/
def readBareName (cs : List Char) : Except Halt (String × List Char) :=
  let isPart (c : Char) : Bool := isBareChar c || isSpace c
  let rest := cs.dropWhile isPart
  let name := trimmed (cs.takeWhile isPart)
  if name.isEmpty then stop .emptyKey rest
  else if name.any isSpace then stop (.invalidKey (String.ofList name)) rest
  else .ok (String.ofList name, rest)

/-- One name of a key, and what follows it and the blanks after it. -/
def readName (cs : List Char) : Except Halt (String × List Char) :=
  match cs.dropWhile isSpace with
  | [] => readBareName []
  | c :: rest =>
    if c = '"' ∨ c = '\'' then do
      let (t, left) ← readQuoted c rest
      if t.multiline then stop (.unexpectedCharacter (String.ofList [c, c, c])) left
      else return (String.ofList t.chars, left.dropWhile isSpace)
    else readBareName (c :: rest)

/-- The names of a key between points, and what follows it. At most `more` names can follow the
first one. -/
def readNames (more : Nat) (cs : List Char) : Except Halt (List String × List Char) := do
  let (name, rest) ← readName cs
  match rest with
  | '.' :: after =>
    match more with
    | n + 1 =>
      let (names, left) ← readNames n after
      return (name :: names, left)
    | 0 => stop .deepKey rest
  | _ => return ([name], rest)

/-- The names of a key, and what follows it. -/
def readKey (cs : List Char) : Except Halt (List String × List Char) := readNames (maxLevels - 1) cs

/-- What follows the equals sign after a key. `found` says whether it has been read. -/
def skipEquals (found : Bool) : List Char → Except Halt (List Char)
  | [] => if found then .ok [] else unexpected []
  | c :: rest =>
    if c = '=' then if found then unexpected (c :: rest) else skipEquals true rest
    else if isSpace c then skipEquals found rest
    else if found then .ok (c :: rest)
    else unexpected (c :: rest)

end ProcessStubs.Toml
