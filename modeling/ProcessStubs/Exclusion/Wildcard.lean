/-!
# Wildcards

A wildcard is a sequence of atoms, each of which takes a part of a path. A wildcard matches a path
if its atoms take all of it, in order. Names end at slashes, and names above another one that are
left open hold no line feed.
-/

namespace ProcessStubs.Exclusion

/-- A part of a wildcard.

* `char`: this character.
* `set`: a character in the ranges, or one outside of them.
* `inName`: a character other than the slash.
* `name`, `someName`: any characters other than the slash, for `someName` one at least.
* `above`: nothing, or names each followed by a slash.
* `between`: nothing, or names each preceded by a slash.
* `below`: a slash and all that follows.
* `atOrBelow`: nothing, or a slash and all that follows.
* `anything`: any characters. -/
inductive Atom where
  | char (c : Char)
  | set (negated : Bool) (ranges : List (Char × Char))
  | inName
  | name
  | someName
  | above
  | between
  | below
  | atOrBelow
  | anything
deriving Repr, DecidableEq

/-- What is left of a list after each of its beginnings that satisfy `p` throughout. -/
def leftAfter {α : Type} (p : α → Bool) : List α → List (List α)
  | [] => [[]]
  | a :: rest => (a :: rest) :: (if p a then leftAfter p rest else [])

/-- A character other than the slash. -/
def isNameChar (c : Char) : Bool := c != '/'

/-- A character other than the line feed. -/
def isLineChar (c : Char) : Bool := c != '\n'

/-- What is left after names each followed by a slash, one at least. -/
def leftAbove : List Char → List (List Char)
  | [] => []
  | c :: rest =>
    if isLineChar c then
      (leftAfter isLineChar rest).filterMap fun left =>
        match left with
        | '/' :: more => some more
        | _ => none
    else []

/-- What is left after names each preceded by a slash, one at least. -/
def leftBetween : List Char → List (List Char)
  | '/' :: c :: rest => if isLineChar c then leftAfter isLineChar rest else []
  | _ => []

/-- What is left after a slash and all that follows. -/
def leftBelow : List Char → List (List Char)
  | '/' :: _ => [[]]
  | _ => []

/-- Whether a character is in one of the ranges. -/
def inCharRanges (ranges : List (Char × Char)) (c : Char) : Bool :=
  ranges.any fun r => r.1 ≤ c && c ≤ r.2

/-- What can be left of a path after an atom. -/
def Atom.left (atom : Atom) (path : List Char) : List (List Char) :=
  let one (p : Char → Bool) : List (List Char) :=
    match path with
    | c :: rest => if p c then [rest] else []
    | [] => []
  match atom with
  | .char c => one (· == c)
  | .set negated ranges => one fun c => inCharRanges ranges c != negated
  | .inName => one isNameChar
  | .name => leftAfter isNameChar path
  | .someName => (one isNameChar).flatMap (leftAfter isNameChar)
  | .above => path :: leftAbove path
  | .between => path :: leftBetween path
  | .below => leftBelow path
  | .atOrBelow => path :: leftBelow path
  | .anything => leftAfter (fun _ => true) path

/-- Whether a wildcard matches a path. -/
def wildcardMatches : List Atom → List Char → Bool
  | [], path => path.isEmpty || path == ['\n']
  | atom :: atoms, path => (atom.left path).any (wildcardMatches atoms)

end ProcessStubs.Exclusion
