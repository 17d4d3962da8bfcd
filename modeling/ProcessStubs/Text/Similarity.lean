/-!
# Similar texts

Two texts are as similar as the blocks that they have in common are long: the longest common block,
and the blocks that the parts before it and after it have in common. Texts are close if the blocks
make up three fifths of both or more.
-/

namespace ProcessStubs.Text

/-- The number of characters that two texts begin with in common. -/
def commonStart : List Char → List Char → Nat
  | a :: as, b :: bs => if a = b then commonStart as bs + 1 else 0
  | _, _ => 0

/-- A block of characters that two texts have in common: where it begins in each, and its length. -/
structure Block where
  left : Nat
  right : Nat
  size : Nat
deriving Repr, DecidableEq

/-- The longer one of two blocks, or the first one if they are equally long. -/
def Block.longer (a b : Block) : Block := if a.size < b.size then b else a

/-- The longest block that begins at a place in the left text, given what follows there. -/
def longestFrom (left : Nat) (as bs : List Char) : Block :=
  (List.range bs.length).foldl
    (fun best right => best.longer ⟨left, right, commonStart as (bs.drop right)⟩) ⟨left, 0, 0⟩

/-- The longest block that two texts have in common; of equally long ones the first in the left
text, and then the first in the right text. -/
def longestBlock (as bs : List Char) : Block :=
  (List.range as.length).foldl
    (fun best left => best.longer (longestFrom left (as.drop left) bs)) ⟨0, 0, 0⟩

/-- How many characters two texts have in common, block by block. `depth` bounds how often the texts
are divided. -/
def commonLengthUpTo : Nat → List Char → List Char → Nat
  | 0, _, _ => 0
  | depth + 1, as, bs =>
    let block := longestBlock as bs
    if block.size = 0 then 0
    else
      block.size + commonLengthUpTo depth (as.take block.left) (bs.take block.right) +
        commonLengthUpTo depth (as.drop (block.left + block.size))
          (bs.drop (block.right + block.size))

/-- How many characters two texts have in common. -/
def commonLength (as bs : List Char) : Nat := commonLengthUpTo (as.length + 1) as bs

/-- How similar a candidate is to a word: twice the length in common, and the length of both. -/
def similarity (candidate word : String) : Nat × Nat :=
  let total := candidate.length + word.length
  let most := 2 * min candidate.length word.length
  if 5 * most < 3 * total then (0, total)
  else (2 * commonLength candidate.toList word.toList, total)

/-- Whether a candidate with a similarity comes before another one: the more similar one does, and
of equally similar ones the one that comes later in the order of texts. -/
def isCloser (a b : (Nat × Nat) × String) : Bool :=
  let x := a.1.1 * b.1.2
  let y := b.1.1 * a.1.2
  x > y || (x == y && !(decide (a.2 < b.2)))

/-- At most three candidates that are close to a word, in the order of texts. -/
def closeMatches (word : String) (candidates : List String) : List String :=
  let close := (candidates.map fun c => (similarity c word, c)).filter fun ((same, total), _) =>
    5 * same ≥ 3 * total && total > 0
  (((close.mergeSort isCloser).take 3).map (·.2)).mergeSort fun a b => decide (a ≤ b)

end ProcessStubs.Text
