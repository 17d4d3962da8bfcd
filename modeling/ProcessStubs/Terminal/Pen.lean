import ProcessStubs.Terminal.Escape

/-!
# Pens

A pen paints a text with looks that can be nested: each look has a sequence of its own that ends it.
Where the text ends one of the pen's looks itself, the look is set again. Around a part that is
plain on its own, and around each line end, the looks are ended and set again.
-/

namespace ProcessStubs.Terminal

/-- A look that can be ended without ending others. -/
structure Layer where
  opening : Nat
  closing : Nat
deriving Repr, DecidableEq

/-- The looks that a pen sets. -/
abbrev Pen := List Layer

namespace Pen

/-- Red. -/
def red : Pen := [⟨31, 39⟩]

/-- Green. -/
def green : Pen := [⟨32, 39⟩]

/-- Yellow. -/
def yellow : Pen := [⟨33, 39⟩]

/-- Blue. -/
def blue : Pen := [⟨34, 39⟩]

/-- Gray. -/
def gray : Pen := [⟨90, 39⟩]

/-- A bright red. -/
def brightRed : Pen := [⟨91, 39⟩]

/-- A dim red. -/
def dimRed : Pen := [⟨2, 22⟩, ⟨31, 39⟩]

/-- The sequences that set the looks of a pen. -/
def opening (p : Pen) : List Char := p.flatMap fun l => (look l.opening).toList

/-- The sequences that end the looks of a pen. -/
def closing (p : Pen) : List Char := p.flatMap fun l => (look l.closing).toList

/-- The text with more characters after each occurrence of `target`. -/
def insertAfter (target more : List Char) (cs : List Char) : List Char :=
  match cs with
  | [] => []
  | c :: rest =>
    if target.isPrefixOf (c :: rest) then
      target ++ more ++ insertAfter target more (rest.drop (target.length - 1))
    else c :: insertAfter target more rest
termination_by cs.length
decreasing_by all_goals (simp only [List.length_drop, List.length_cons]; omega)

/-- What stands before the next plain look on the same line, and what follows it. -/
def untilPlain? : List Char → Option (List Char × List Char)
  | [] => none
  | c :: rest =>
    if c = '\n' then none
    else if plainLook.toList.isPrefixOf (c :: rest) then
      some ([], rest.drop (plainLook.length - 1))
    else (untilPlain? rest).map fun (inside, after) => (c :: inside, after)

/-- What follows is shorter. -/
theorem length_of_untilPlain? {cs inside after : List Char}
    (h : untilPlain? cs = some (inside, after)) : after.length < cs.length := by
  induction cs generalizing inside with
  | nil => simp [untilPlain?] at h
  | cons c rest ih =>
    unfold untilPlain? at h
    split at h
    · cases h
    · split at h
      · cases h
        simp only [List.length_drop, List.length_cons]
        omega
      · obtain ⟨⟨i, a⟩, hr, he⟩ := Option.map_eq_some_iff.mp h
        cases he
        have := ih hr
        simp only [List.length_cons]
        omega

/-- The text with its plain parts, each from one plain look to the next, outside of the looks of a
pen. -/
def aroundPlain (p : Pen) (cs : List Char) : List Char :=
  match cs with
  | [] => []
  | c :: rest =>
    if plainLook.toList.isPrefixOf (c :: rest) then
      match h : untilPlain? (rest.drop (plainLook.length - 1)) with
      | some (inside, after) =>
        have := length_of_untilPlain? h
        p.closing ++ plainLook.toList ++ inside ++ plainLook.toList ++ p.opening ++
          aroundPlain p after
      | none => c :: aroundPlain p rest
    else c :: aroundPlain p rest
termination_by cs.length
decreasing_by all_goals (simp only [List.length_drop, List.length_cons] at *; omega)

/-- The text with its line ends outside of the looks of a pen. -/
def aroundLineEnds (p : Pen) : List Char → List Char
  | [] => []
  | '\r' :: '\n' :: rest => p.closing ++ '\r' :: '\n' :: p.opening ++ aroundLineEnds p rest
  | '\n' :: rest => p.closing ++ '\n' :: p.opening ++ aroundLineEnds p rest
  | c :: rest => c :: aroundLineEnds p rest

/-- The text painted by a pen. -/
def paint (p : Pen) (text : String) : String :=
  let again := p.foldl (fun cs l =>
    insertAfter (look l.closing).toList (look l.opening).toList cs) text.toList
  String.ofList (p.opening ++ aroundLineEnds p (aroundPlain p again) ++ p.closing)

end Pen

end ProcessStubs.Terminal
