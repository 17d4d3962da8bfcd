/-!
# Splitting and joining

A text is cut at every separator; `joinWith` puts the pieces together again.

Main statements: a separator ends the pieces of what stands before it
(`splitWhere_append_of_isSep`), and where nothing separates there is one piece
(`splitWhere_of_forall`).
-/

namespace ProcessStubs.Text

/-- The pieces of a list between the elements that satisfy `isSep`. There is always a first piece,
and one more piece for each separator. -/
def splitWhere {α : Type} (isSep : α → Bool) : List α → List (List α)
  | [] => [[]]
  | a :: rest =>
    if isSep a then [] :: splitWhere isSep rest
    else
      match splitWhere isSep rest with
      | [] => [[a]]
      | piece :: pieces => (a :: piece) :: pieces

/-- The pieces of a text between the characters `sep`. -/
def split (sep : Char) (s : String) : List String :=
  (splitWhere (· == sep) s.toList).map String.ofList

/-- The pieces with a text between each two of them. -/
def joinWith (sep : String) : List String → String
  | [] => ""
  | [s] => s
  | s :: rest => s ++ sep ++ joinWith sep rest

/-- There is always a piece. -/
theorem splitWhere_ne_nil {α : Type} (isSep : α → Bool) (l : List α) :
    splitWhere isSep l ≠ [] := by
  cases l with
  | nil => simp [splitWhere]
  | cons a rest =>
    unfold splitWhere
    split
    · simp
    · split <;> simp

/-- A list in which nothing separates is one piece. -/
theorem splitWhere_of_forall {α : Type} {isSep : α → Bool} {l : List α}
    (h : ∀ a ∈ l, isSep a = false) : splitWhere isSep l = [l] := by
  induction l with
  | nil => rfl
  | cons a l ih =>
    have head : isSep a = false := h a List.mem_cons_self
    have tail := ih fun b hb => h b (List.mem_cons_of_mem _ hb)
    simp [splitWhere, head, tail]

/-- A list is split at a separator into the pieces before it and those after it. -/
theorem splitWhere_append_of_isSep {α : Type} {isSep : α → Bool} {b : α} (hb : isSep b = true)
    (l rest : List α) :
    splitWhere isSep (l ++ b :: rest) = splitWhere isSep l ++ splitWhere isSep rest := by
  induction l with
  | nil => simp [splitWhere, hb]
  | cons a l ih =>
    cases sep : isSep a with
    | true => simp [splitWhere, sep, ih]
    | false =>
      obtain ⟨first, pieces, hpieces⟩ := List.exists_cons_of_ne_nil (splitWhere_ne_nil isSep l)
      simp [splitWhere, sep, ih, hpieces]

/-- What stands before the first separator is the first piece. -/
theorem splitWhere_append_cons {α : Type} {isSep : α → Bool} {l : List α}
    (h : ∀ a ∈ l, isSep a = false) {b : α} (hb : isSep b = true) (rest : List α) :
    splitWhere isSep (l ++ b :: rest) = l :: splitWhere isSep rest := by
  rw [splitWhere_append_of_isSep hb, splitWhere_of_forall h, List.singleton_append]

end ProcessStubs.Text
