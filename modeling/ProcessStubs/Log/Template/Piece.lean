import ProcessStubs.Text.Digit

/-!
# Pieces of a template

A message template is made of letters and of places for values. A place starts with a percent sign
and ends with the letter of its kind. Between them stand, in this order and each of them only if
wanted, the name of a field in parentheses, flags, a width and a precision.

Main definition: `pieces` takes a template apart. It never fails: what is wrong with a place comes
to light when the place is filled.
-/

namespace ProcessStubs.Log.Template

open ProcessStubs.Text

/-! ### Places -/

/-- A number in a place: left out, written, or taken from the values. -/
inductive Size where
  | unset
  | written (n : Nat)
  | taken
deriving Repr, DecidableEq

/-- What a place looks at: the next value, or a field of the table. The name of a field may hold
parentheses, as long as each of them is closed. -/
inductive Field where
  | next
  | named (key : String)
  | unclosed
deriving Repr, DecidableEq

/-- A place for a value. It has no kind if the template ends before one. -/
structure Place where
  field : Field
  flags : List Char
  width : Size
  precision : Size
  kind : Option Char
deriving Repr, DecidableEq

/-- A piece of a template. -/
inductive Piece where
  | letter (c : Char)
  | place (p : Place)
deriving Repr, DecidableEq

/-! ### Taking a template apart -/

/-- The characters up to the parenthesis that closes `depth` open ones, and what follows it. -/
def splitClosed : Nat → List Char → Option (List Char × List Char)
  | _, [] => none
  | depth, '(' :: rest => (splitClosed (depth + 1) rest).map fun (key, after) => ('(' :: key, after)
  | 0, ')' :: rest => some ([], rest)
  | depth + 1, ')' :: rest => (splitClosed depth rest).map fun (key, after) => (')' :: key, after)
  | depth, c :: rest => (splitClosed depth rest).map fun (key, after) => (c :: key, after)

/-- What a place looks at, and what follows. -/
def readField : List Char → Field × List Char
  | '(' :: rest =>
    match splitClosed 0 rest with
    | some (key, after) => (.named (String.ofList key), after)
    | none => (.unclosed, [])
  | cs => (.next, cs)

/-- A flag is one of these characters. -/
def isFlag (c : Char) : Bool := "-+ #0".toList.contains c

/-- A number of a place, and what follows. -/
def readSize : List Char → Size × List Char
  | '*' :: rest => (.taken, rest)
  | cs =>
    let digits := cs.takeWhile Char.isDigit
    if digits.isEmpty then (.unset, cs)
    else (.written ((decimalNumber? digits).getD 0), cs.dropWhile Char.isDigit)

/-- The precision of a place, and what follows. A point without a number stands for the precision
zero. -/
def readPrecision : List Char → Size × List Char
  | '.' :: rest =>
    match readSize rest with
    | (.unset, after) => (.written 0, after)
    | sized => sized
  | cs => (.unset, cs)

/-- What follows a letter for the size of a machine's numbers, which says nothing here. -/
def dropSizeLetter : List Char → List Char
  | c :: rest => if c = 'h' ∨ c = 'l' ∨ c = 'L' then rest else c :: rest
  | [] => []

/-- The place that starts after a percent sign, and what follows it. -/
def readPlace (cs : List Char) : Place × List Char :=
  let (field, rest) := readField cs
  let flags := rest.takeWhile isFlag
  let (width, rest) := readSize (rest.dropWhile isFlag)
  let (precision, rest) := readPrecision rest
  let rest := dropSizeLetter rest
  (⟨field, flags, width, precision, rest.head?⟩, rest.tail)

theorem length_splitClosed {depth : Nat} {cs key rest : List Char}
    (h : splitClosed depth cs = some (key, rest)) : rest.length ≤ cs.length := by
  fun_induction splitClosed depth cs generalizing key rest with
  | case1 => simp at h
  | case3 => simp_all
  | case2 _ _ ih | case4 _ _ ih | case5 _ _ _ _ _ _ ih =>
    obtain ⟨⟨_, _⟩, hs, he⟩ := Option.map_eq_some_iff.1 h
    cases he
    exact Nat.le_succ_of_le (ih hs)

theorem length_readField (cs : List Char) : (readField cs).2.length ≤ cs.length := by
  unfold readField
  split
  · split
    · next h => exact Nat.le_succ_of_le (length_splitClosed h)
    · exact Nat.zero_le _
  · exact Nat.le_refl _

theorem length_readSize (cs : List Char) : (readSize cs).2.length ≤ cs.length := by
  unfold readSize
  split
  · simp
  · dsimp only
    split
    · exact Nat.le_refl _
    · exact (List.dropWhile_suffix _).length_le

theorem length_readPrecision (cs : List Char) : (readPrecision cs).2.length ≤ cs.length := by
  unfold readPrecision
  split
  · next rest =>
    have h := length_readSize rest
    split <;> simp_all <;> omega
  · exact Nat.le_refl _

theorem length_dropSizeLetter (cs : List Char) : (dropSizeLetter cs).length ≤ cs.length := by
  unfold dropSizeLetter
  split
  · split <;> simp
  · exact Nat.le_refl _

/-- A place does not reach beyond the end of the template. -/
theorem length_readPlace (cs : List Char) : (readPlace cs).2.length ≤ cs.length := by
  simp only [readPlace, List.length_tail]
  have h₁ := length_readField cs
  have h₂ := (List.dropWhile_suffix isFlag (l := (readField cs).2)).length_le
  have h₃ := length_readSize ((readField cs).2.dropWhile isFlag)
  have h₄ := length_readPrecision (readSize ((readField cs).2.dropWhile isFlag)).2
  have h₅ := length_dropSizeLetter
    (readPrecision (readSize ((readField cs).2.dropWhile isFlag)).2).2
  omega

/-- The pieces of a template. Two percent signs are the letter for one. -/
def pieces : List Char → List Piece
  | [] => []
  | '%' :: '%' :: rest => .letter '%' :: pieces rest
  | c :: rest =>
    if c = '%' then .place (readPlace rest).1 :: pieces (readPlace rest).2
    else .letter c :: pieces rest
termination_by cs => cs.length
decreasing_by
  · exact Nat.lt_add_of_pos_right (Nat.zero_lt_two)
  · exact Nat.lt_succ_of_le (length_readPlace rest)
  · exact Nat.lt_succ_self _

end ProcessStubs.Log.Template
