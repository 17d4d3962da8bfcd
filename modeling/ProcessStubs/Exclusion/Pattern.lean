import ProcessStubs.Exclusion.Wildcard
import ProcessStubs.Text.Blank
import ProcessStubs.Text.Split

/-!
# Exclusion patterns

A pattern is one line of an ignore file. It excludes the paths that its wildcard matches, or
includes them again if it begins with an exclamation mark; the last pattern that matches decides. A
pattern without an inner slash matches at any depth, and one that matches a directory matches all
below it. Blank lines, comments and the slash alone do nothing, nor does a pattern with a bracket
that is not closed.

Main definitions: `Pattern.ofLine` reads a line, and `isExcluded` decides about a path.
-/

namespace ProcessStubs.Exclusion

open ProcessStubs.Text

/-- Why a line cannot be used: its escape escapes nothing or nothing of it is left, or the bounds of
a range are in the wrong order. -/
inductive PatternFault where
  | meaningless
  | badRange
deriving Repr, DecidableEq

/-- A pattern with a wildcard. -/
structure Pattern where
  negated : Bool
  wildcard : List Atom
deriving Repr, DecidableEq

/-! ### Names with wildcards -/

/-- Where a bracket expression ends: its characters without the closing bracket, and what follows. A
closing bracket at the start belongs to the expression. -/
def splitBracket (cs : List Char) : Option (List Char × List Char) :=
  let (first, more) :=
    match cs with
    | ']' :: rest => ([']'], rest)
    | _ => ([], cs)
  match more.dropWhile (· != ']') with
  | [] => none
  | _ :: after => some (first ++ more.takeWhile (· != ']'), after)

/-- The ranges of a bracket expression. Two characters with a hyphen between them are a range; a
hyphen at either end is itself. -/
def bracketRanges : List Char → Except PatternFault (List (Char × Char))
  | [] => .ok []
  | lo :: '-' :: hi :: rest =>
    if hi < lo then .error .badRange
    else do return (lo, hi) :: (← bracketRanges rest)
  | c :: rest => do return (c, c) :: (← bracketRanges rest)

/-- What the atoms of a name come to: `none` if a bracket is not closed. Ranges are looked at only
when all of the pattern has been read. -/
inductive Piece where
  | atom (a : Atom)
  | bracket (negated : Bool) (content : List Char)

/-- The pieces of a name: escapes, wildcards, brackets and plain characters. `fuel` bounds their
number. -/
def namePieces : Nat → List Char → Except PatternFault (Option (List Piece))
  | 0, _ => .ok (some [])
  | fuel + 1, cs =>
    let next (p : Piece) (rest : List Char) : Except PatternFault (Option (List Piece)) := do
      return (← namePieces fuel rest).map (p :: ·)
    match cs with
    | [] => .ok (some [])
    | '\\' :: c :: rest => next (.atom (.char c)) rest
    | ['\\'] => .error .meaningless
    | '*' :: rest => next (.atom .name) rest
    | '?' :: rest => next (.atom .inName) rest
    | '[' :: rest =>
      let (negated, inner) :=
        match rest with
        | '!' :: more => (true, more)
        | '^' :: more => (true, more)
        | _ => (false, rest)
      match splitBracket inner with
      | some (content, after) => next (.bracket negated content) after
      | none => .ok none
    | c :: rest => next (.atom (.char c)) rest

/-- The atom of a piece. -/
def Piece.atom? : Piece → Except PatternFault Atom
  | .atom a => .ok a
  | .bracket negated content => do return .set negated (← bracketRanges content)

/-! ### Paths with wildcards -/

/-- A list without repetitions of `a` in a row. -/
def collapse {α : Type} [BEq α] (a : α) : List α → List α
  | x :: y :: rest =>
    if x == a && y == a then collapse a (y :: rest) else x :: collapse a (y :: rest)
  | l => l

/-- A name that stands for any number of names. -/
def anyNames : List Char := ['*', '*']

/-- The names of a pattern as they are matched from the top of the tree. A slash at the end stands
for all that is below. -/
def anchoredNames (names : List (List Char)) : List (List Char) :=
  let rooted :=
    match names with
    | [] :: rest => rest
    | [name] | [name, []] => if name = anyNames then names else anyNames :: names
    | _ => names
  let filled :=
    match rooted.reverse with
    | [] :: above => (anyNames :: above).reverse
    | _ => rooted
  collapse anyNames filled

/-- The pieces of the names of a pattern. `first` holds for the first name and `needSlash` after a
name that takes a part of the path. -/
def pathPieces (first needSlash : Bool) :
    List (List Char) → Except PatternFault (Option (List Piece))
  | [] => .ok (some [])
  | name :: rest => do
    let slash : List Piece := if needSlash then [.atom (.char '/')] else []
    if name = anyNames then
      if first then return (← pathPieces false false rest).map (.atom .above :: ·)
      else if rest.isEmpty then return some [.atom .below]
      else return (← pathPieces false true rest).map (.atom .between :: ·)
    else
      let last : List Piece := if rest.isEmpty then [.atom .atOrBelow] else []
      let own ← if name = ['*'] then pure (some [.atom .someName])
        else namePieces name.length.succ name
      match own with
      | none => return none
      | some pieces =>
        return (← pathPieces false true rest).map fun more => slash ++ pieces ++ last ++ more

/-- The pieces of a pattern without its exclamation mark. Any names alone match every path, or with
a slash at the end those that have a slash. -/
def patternPieces (cs : List Char) : Except PatternFault (Option (List Piece)) :=
  let names := splitWhere (· == '/') cs
  match anchoredNames names with
  | [] => .error .meaningless
  | anchored =>
    if anchored ≠ [anyNames] then pathPieces true false anchored
    else if names.getLast? = some [] then
      .ok (some [.atom .anything, .atom (.char '/'), .atom .anything])
    else .ok (some [.atom .anything])

/-- The line without blanks at its end, unless it ends in an escaped space. -/
def trimLine (cs : List Char) : List Char :=
  match cs.reverse with
  | ' ' :: '\\' :: _ => cs
  | _ => stripEnd cs

/-- The pattern on a line, if there is one. -/
def Pattern.ofLine (line : String) : Except PatternFault (Option Pattern) := do
  let cs := trimLine line.toList
  let (negated, body) :=
    match cs with
    | '!' :: rest => (true, rest)
    | _ => (false, cs)
  if cs.isEmpty || cs.head? == some '#' || cs == ['/'] then return none
  match ← patternPieces body with
  | none => return none
  | some pieces => return some ⟨negated, ← pieces.mapM Piece.atom?⟩

/-- Whether a pattern matches a path. -/
def Pattern.matches (p : Pattern) (path : List Char) : Bool := wildcardMatches p.wildcard path

/-- Whether patterns exclude a path: the last one that matches decides, and without one the path is
not excluded. -/
def isExcluded (patterns : List Pattern) (path : List Char) : Bool :=
  match patterns.reverse.find? (·.matches path) with
  | some p => !p.negated
  | none => false

end ProcessStubs.Exclusion
