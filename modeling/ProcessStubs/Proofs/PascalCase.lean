import ProcessStubs.Proofs.CaseImages
import ProcessStubs.Proofs.NamesInCode

/-!
# The case of type names

A type name is made in one pass over a text, which remembers only whether a word begins. What comes
out is as if the text had been cut into words first: the maximal runs of characters that do not
separate, each with its first character in upper case and the others in lower case.

Since the case maps are settled, the pass may be repeated on a single word. It may not on several,
because the words of a type name can no longer be told apart: `"Order Flow"` becomes `"OrderFlow"`,
and that becomes `"Orderflow"`.

## Main definitions

* `MaximalRuns`: a text and the words in it.
* `wordCase`: a word with its first character in upper case and the others in lower case.

## Main results

* `maximalRuns_iff`: every text has its words, and no others.
* `MaximalRuns.pascalChars_eq`: the pass gives the words in their case.
* `pascalCase_exact`: what a type name is, for every text.
* `pascalCase_pascalCase`: on a single word the pass may be repeated.
-/

namespace ProcessStubs.Text

/-- **The words of a text**: the runs of characters that do not separate words. Each run comes after
separators, or none, and ends where the text does or at another separator. -/
inductive MaximalRuns : List Char → List (List Char) → Prop
  | nil {gap : List Char} (separators : ∀ c ∈ gap, isSeparator c = true) : MaximalRuns gap []
  | cons {gap word rest : List Char} {words : List (List Char)}
      (separators : ∀ c ∈ gap, isSeparator c = true) (nonempty : word ≠ [])
      (inside : ∀ c ∈ word, isSeparator c = false)
      (ends : ∀ c ∈ rest.head?, isSeparator c = true) (others : MaximalRuns rest words) :
      MaximalRuns (gap ++ word ++ rest) (word :: words)

/-- A word with its first character in upper case and the others in lower case. -/
def wordCase : List Char → List Char
  | [] => []
  | c :: rest => upper c :: rest.map lower

variable {cs gap word rest : List Char} {words : List (List Char)}

/-! ### Every text has its words -/

/-- A separator before a text adds no word. -/
theorem MaximalRuns.cons_separator {c : Char} (hc : isSeparator c = true)
    (h : MaximalRuns cs words) : MaximalRuns (c :: cs) words := by
  cases h with
  | nil separators => exact .nil (List.forall_mem_cons.mpr ⟨hc, separators⟩)
  | @cons gap word rest words separators nonempty inside ends others =>
      have wider : ∀ d ∈ c :: gap, isSeparator d = true := List.forall_mem_cons.mpr ⟨hc, separators⟩
      exact .cons wider nonempty inside ends others

/-- A character before a text that does not separate begins a word, or goes on with the first. -/
theorem MaximalRuns.cons_inside {c : Char} (hc : isSeparator c = false)
    (h : MaximalRuns cs words) : ∃ words', MaximalRuns (c :: cs) words' := by
  have alone : ∀ d ∈ [c], isSeparator d = false := by simpa using hc
  have gapless : ∀ d ∈ ([] : List Char), isSeparator d = true := List.forall_mem_nil _
  by_cases ends : ∀ d ∈ cs.head?, isSeparator d = true
  · exact ⟨_, .cons gapless (List.cons_ne_nil c []) alone ends h⟩
  · -- The text goes on with the word, so there is no separator before its first run.
    cases h with
    | nil separators =>
        exact absurd (fun d hd => separators d (List.mem_of_mem_head? hd)) ends
    | @cons gap word rest words separators nonempty inside ends' others =>
        cases gap with
        | nil =>
            have longer : ∀ d ∈ c :: word, isSeparator d = false :=
              List.forall_mem_cons.mpr ⟨hc, inside⟩
            exact ⟨_, .cons gapless (List.cons_ne_nil c word) longer ends' others⟩
        | cons d gap =>
            refine absurd ?_ ends
            rintro e he
            rw [← Option.mem_some.mp he]
            exact separators _ List.mem_cons_self

/-- Every text has words. -/
theorem exists_maximalRuns (cs : List Char) : ∃ words, MaximalRuns cs words := by
  induction cs with
  | nil => exact ⟨[], .nil (by simp)⟩
  | cons c cs ih =>
      obtain ⟨words, h⟩ := ih
      cases hc : isSeparator c with
      | true => exact ⟨words, h.cons_separator hc⟩
      | false => exact h.cons_inside hc

/-- The words of a text as the pieces between separators that are not empty. -/
def pieces (cs : List Char) : List (List Char) :=
  (splitWhere isSeparator cs).filter fun piece => !piece.isEmpty

/-- Separators before a text add no piece. -/
theorem pieces_separators (separators : ∀ c ∈ gap, isSeparator c = true) (rest : List Char) :
    pieces (gap ++ rest) = pieces rest := by
  induction gap with
  | nil => rfl
  | cons c gap ih =>
      obtain ⟨hc, others⟩ := List.forall_mem_cons.mp separators
      rw [← ih others]
      simp [pieces, splitWhere, hc]

/-- The first piece of a text that begins with a word is this word. -/
theorem pieces_word (nonempty : word ≠ []) (inside : ∀ c ∈ word, isSeparator c = false)
    (ends : ∀ c ∈ rest.head?, isSeparator c = true) :
    pieces (word ++ rest) = word :: pieces rest := by
  cases rest with
  | nil => simp [pieces, splitWhere_of_forall inside, splitWhere, nonempty]
  | cons c rest =>
      have hc : isSeparator c = true := ends c rfl
      simp [pieces, splitWhere_append_cons inside hc, splitWhere, hc, nonempty]

/-- **Every text has its words, and no others.** -/
theorem maximalRuns_iff : MaximalRuns cs words ↔ words = pieces cs := by
  have unique {cs : List Char} {words : List (List Char)} (h : MaximalRuns cs words) :
      words = pieces cs := by
    induction h with
    | @nil gap separators =>
        have none := pieces_separators separators []
        rw [List.append_nil] at none
        exact none.symm
    | cons separators nonempty inside ends _ ih =>
        rw [List.append_assoc, pieces_separators separators, pieces_word nonempty inside ends, ih]
  constructor
  · exact unique
  · rintro rfl
    obtain ⟨words, h⟩ := exists_maximalRuns cs
    exact unique h ▸ h

/-! ### The pass -/

/-- Separators before a word change nothing. -/
theorem pascalChars_separators (separators : ∀ c ∈ gap, isSeparator c = true) (rest : List Char) :
    pascalChars true (gap ++ rest) = pascalChars true rest := by
  induction gap with
  | nil => rfl
  | cons c gap ih =>
      obtain ⟨hc, others⟩ := List.forall_mem_cons.mp separators
      simp [pascalChars, hc, ih others]

/-- Inside of a word all characters get lower case. -/
theorem pascalChars_inside (inside : ∀ c ∈ word, isSeparator c = false) (rest : List Char) :
    pascalChars false (word ++ rest) = word.map lower ++ pascalChars false rest := by
  induction word with
  | nil => rfl
  | cons c word ih =>
      obtain ⟨hc, others⟩ := List.forall_mem_cons.mp inside
      simp [pascalChars, hc, ih others]

/-- At the end of a word a word may as well begin. -/
theorem pascalChars_of_ends (ends : ∀ c ∈ rest.head?, isSeparator c = true) :
    pascalChars false rest = pascalChars true rest := by
  cases rest with
  | nil => rfl
  | cons c rest =>
      have hc : isSeparator c = true := ends c rfl
      simp [pascalChars, hc]

/-- A word comes out in its case. -/
theorem pascalChars_word (inside : ∀ c ∈ word, isSeparator c = false)
    (ends : ∀ c ∈ rest.head?, isSeparator c = true) :
    pascalChars true (word ++ rest) = wordCase word ++ pascalChars true rest := by
  cases word with
  | nil => rfl
  | cons c word =>
      obtain ⟨hc, others⟩ := List.forall_mem_cons.mp inside
      simp [pascalChars, wordCase, hc, pascalChars_inside others, pascalChars_of_ends ends]

/-- A single word comes out in its case. -/
theorem pascalChars_eq_wordCase (inside : ∀ c ∈ word, isSeparator c = false) :
    pascalChars true word = wordCase word := by
  have ends : ∀ c ∈ ([] : List Char).head?, isSeparator c = true := by simp
  simpa [pascalChars] using pascalChars_word inside ends

/-- **The pass gives the words in their case**, one after the other. -/
theorem MaximalRuns.pascalChars_eq (h : MaximalRuns cs words) :
    pascalChars true cs = words.flatMap wordCase := by
  induction h with
  | @nil gap separators => simpa [pascalChars] using pascalChars_separators separators []
  | cons separators _ inside ends _ ih =>
      rw [List.append_assoc, pascalChars_separators separators, pascalChars_word inside ends, ih,
        List.flatMap_cons]

/-- There is one character for each that does not separate. -/
theorem length_pascalChars (start : Bool) (cs : List Char) :
    (pascalChars start cs).length = cs.countP fun c => !isSeparator c := by
  induction cs generalizing start with
  | nil => rfl
  | cons c rest ih => cases hc : isSeparator c <;> simp [pascalChars, hc, ih]

/-- No separator comes out. -/
theorem isSeparator_of_mem_pascalChars {start : Bool} {c : Char} (h : c ∈ pascalChars start cs) :
    isSeparator c = false := by
  induction cs generalizing start with
  | nil => cases h
  | cons d rest ih =>
      cases hd : isSeparator d with
      | true =>
          rw [pascalChars, if_pos hd] at h
          exact ih h
      | false =>
          rw [pascalChars, if_neg (by simp [hd])] at h
          rcases List.mem_cons.mp h with rfl | h
          · cases start <;> simp [hd]
          · exact ih h

/-! ### Type names -/

/-- **What the type name of a text is.** It is put together from the words of the text, each in its
case; so a separator cuts it in two. It has one character for each that does not separate words, and
none that does. -/
theorem pascalCase_exact (s : String) :
    (∃ words, (∀ runs, MaximalRuns s.toList runs ↔ runs = words) ∧
      pascalCase s = String.ofList (words.flatMap wordCase)) ∧
    (∀ c, isSeparator c = true → ∀ t,
      pascalCase (s ++ String.singleton c ++ t) = pascalCase s ++ pascalCase t) ∧
    (pascalCase s).length = s.toList.countP (fun c => !isSeparator c) ∧
    ∀ c ∈ (pascalCase s).toList, isSeparator c = false := by
  refine ⟨⟨pieces s.toList, fun _ => maximalRuns_iff, ?_⟩, ?_, ?_, ?_⟩
  · rw [pascalCase, (maximalRuns_iff.mpr rfl).pascalChars_eq]
  · intro c hc t
    have chars : (s ++ String.singleton c ++ t).toList = s.toList ++ c :: t.toList := by simp
    rw [pascalCase, chars, pascalChars_append true _ _ _ hc, String.ofList_append]
    rfl
  · rw [pascalCase, String.length_ofList, length_pascalChars]
  · intro c hc
    rw [pascalCase, String.toList_ofList] at hc
    exact isSeparator_of_mem_pascalChars hc

/-- A line separator cuts a type name in two. -/
theorem pascalCase_exact_lineSeparator :
    isSeparator '\u2028' = true ∧
      pascalCase ("ǆungel--ßE" ++ String.singleton '\u2028' ++ "İI") =
        pascalCase "ǆungel--ßE" ++ pascalCase "İI" := by
  have separates : isSeparator '\u2028' = true := by decide
  exact ⟨separates, (pascalCase_exact "ǆungel--ßE").2.1 _ separates _⟩

example : pascalCase "order-flow_two words" = "OrderFlowTwoWords" := by decide +kernel

/-- **The type name of a single word** is that of its type name. -/
theorem pascalCase_pascalCase {s : String} (single : ∀ c ∈ s.toList, isSeparator c = false) :
    pascalCase (pascalCase s) = pascalCase s ∧
      Stub.serviceTypeName (pascalCase s) = Stub.serviceTypeName s := by
  have once : pascalChars true s.toList = wordCase s.toList := pascalChars_eq_wordCase single
  have inside : ∀ c ∈ wordCase s.toList, isSeparator c = false :=
    once ▸ fun _ => isSeparator_of_mem_pascalChars
  have settled : wordCase (wordCase s.toList) = wordCase s.toList := by
    cases s.toList <;> simp [wordCase]
  have twice : pascalCase (pascalCase s) = pascalCase s := by
    rw [pascalCase, pascalCase, once, String.toList_ofList, pascalChars_eq_wordCase inside, settled]
  exact ⟨twice, by rw [Stub.serviceTypeName, Stub.serviceTypeName, twice]⟩

/-- A digraph, a sharp s, and both the dotted and the dotless letter make a word whose type name is
that of its type name. -/
theorem pascalCase_pascalCase_digraph :
    (∀ c ∈ "ǆßİıΣ".toList, isSeparator c = false) ∧
      pascalCase (pascalCase "ǆßİıΣ") = pascalCase "ǆßİıΣ" := by
  have inside : "ǆßİıΣ".toList.all (fun c => !isSeparator c) = true := by decide +kernel
  have single : ∀ c ∈ "ǆßİıΣ".toList, isSeparator c = false := by
    simpa only [List.all_eq_true, Bool.not_eq_true'] using inside
  exact ⟨single, (pascalCase_pascalCase single).1⟩

end ProcessStubs.Text
