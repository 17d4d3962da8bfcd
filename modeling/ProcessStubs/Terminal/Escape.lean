import ProcessStubs.Text.Split

/-!
# Escape sequences

Terminals take the look of a text from sequences inside of it that begin with the escape character.
A sequence goes on with a bracket, parameters and intermediate characters, and ends with a final
one.

Main statement: a text without escape characters has nothing to strip (`stripEscapes_eq_self`).
-/

namespace ProcessStubs.Terminal

/-- The character that escape sequences begin with. -/
def escapeChar : Char := '\x1b'

/-- The sequence that sets the look of some numbers. -/
def lookOf (numbers : List Nat) : String :=
  "\x1b[" ++ Text.joinWith ";" (numbers.map toString) ++ "m"

/-- The sequence that sets the look of number `n`. -/
def look (n : Nat) : String := lookOf [n]

/-- The sequence that sets the plain look again. -/
def plainLook : String := look 0

/-- Whether a character can be a parameter of a sequence. -/
def isParameter (c : Char) : Bool := '0' ≤ c && c ≤ '?'

/-- Whether a character can stand between the parameters and the end of a sequence. -/
def isIntermediate (c : Char) : Bool := ' ' ≤ c && c ≤ '/'

/-- Whether a character can end a sequence. -/
def isFinal (c : Char) : Bool := '@' ≤ c && c ≤ '~'

/-- What follows a complete sequence, if the characters after an escape character complete one. -/
def afterSequence? (cs : List Char) : Option (List Char) :=
  match cs with
  | '[' :: rest =>
    match (rest.dropWhile isParameter).dropWhile isIntermediate with
    | c :: after => if isFinal c then some after else none
    | [] => none
  | _ => none

/-- A sequence takes at least one character. -/
theorem length_of_afterSequence? {cs after : List Char} (h : afterSequence? cs = some after) :
    after.length < cs.length := by
  unfold afterSequence? at h
  split at h
  · rename_i rest
    have hd := (List.dropWhile_suffix isParameter (l := rest)).length_le
    have hi := (List.dropWhile_suffix isIntermediate (l := rest.dropWhile isParameter)).length_le
    split at h
    · rename_i c tail heq
      rw [heq] at hi
      split at h
      · cases h
        simp only [List.length_cons] at hi ⊢
        omega
      · cases h
    · cases h
  · cases h

/-- The text without its escape sequences. -/
def stripEscapes (cs : List Char) : List Char :=
  match cs with
  | [] => []
  | c :: rest =>
    if c = escapeChar then
      match h : afterSequence? rest with
      | some after =>
        have := length_of_afterSequence? h
        stripEscapes after
      | none => c :: stripEscapes rest
    else c :: stripEscapes rest
termination_by cs.length
decreasing_by all_goals (simp only [List.length_cons]; omega)

/-- A text without escape characters has nothing to strip. -/
theorem stripEscapes_eq_self {cs : List Char} (h : escapeChar ∉ cs) : stripEscapes cs = cs := by
  induction cs with
  | nil => simp [stripEscapes]
  | cons c rest ih =>
    have hc : c ≠ escapeChar := fun e => h (by simp [e])
    have hr : escapeChar ∉ rest := fun m => h (List.mem_cons_of_mem c m)
    rw [stripEscapes, if_neg hc, ih hr]

end ProcessStubs.Terminal
