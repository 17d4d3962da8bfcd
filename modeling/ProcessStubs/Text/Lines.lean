/-!
# Line ends

Texts are read with line ends of any kind and kept with line feeds alone.
-/

namespace ProcessStubs.Text

/-- The text with every line end written as a line feed. -/
def unifyLineEnds : List Char → List Char
  | '\r' :: '\n' :: rest => '\n' :: unifyLineEnds rest
  | c :: rest => (if c = '\r' then '\n' else c) :: unifyLineEnds rest
  | [] => []

/-- A text without carriage returns has its line ends already. -/
theorem unifyLineEnds_eq_self {cs : List Char} (h : '\r' ∉ cs) : unifyLineEnds cs = cs := by
  induction cs with
  | nil => rfl
  | cons c rest ih =>
    have hc : c ≠ '\r' := fun e => h (by simp [e])
    unfold unifyLineEnds
    split
    · simp_all
    · simp_all
    · simp_all

end ProcessStubs.Text
