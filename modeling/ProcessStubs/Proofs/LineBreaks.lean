import ProcessStubs.Proofs.CaseImages
import ProcessStubs.Proofs.MarkupNames
import ProcessStubs.Proofs.OneLine
import ProcessStubs.Proofs.PascalCase

/-!
# Line breaks of every kind

Readers of lines do not agree at which characters a line ends. All of them take some of the *line
boundaries*: a text without any of a class of boundaries is unbroken for its readers. What follows
holds for each such class, so that it does not matter which of them a reader takes.

Boundaries are neither printable nor do they stand in names, identifiers or numbers, and all of them
separate words. So the texts that messages are made of are unbroken, but for a text that is taken
over as it is.

## Main results

* `unbroken_quoted`, `unbroken_toString`, `unbroken_of_isName`, `unbroken_of_isPackageName`: texts
  that are unbroken whatever they stand for.
* `unbroken_pascalCase`, `unbroken_capitalized_iff`: type names made of words, and of one name.
-/

namespace ProcessStubs.Text

/-- The characters at which some reader of lines ends one. -/
def lineBoundaries : List Char :=
  ['\n', '\x0b', '\x0c', '\r', '\x1c', '\x1d', '\x1e', '\u0085', '\u2028', '\u2029']

/-- Whether some reader of lines ends one at a character. -/
def isLineBoundary (c : Char) : Bool := lineBoundaries.contains c

/-- The characters at which one reader of lines ends them. -/
def LineBreaks (breaks : Char → Bool) : Prop := ∀ c, breaks c = true → isLineBoundary c = true

/-- A text of one line for a reader. -/
def Unbroken (breaks : Char → Bool) (s : String) : Prop := ∀ c ∈ s.toList, breaks c = false

instance (breaks : Char → Bool) (s : String) : Decidable (Unbroken breaks s) :=
  List.decidableBAll (fun c => breaks c = false) s.toList

/-- Line feeds and carriage returns are line breaks. -/
theorem lineBreaks_isLineBreak : LineBreaks isLineBreak := by
  intro c hc
  rw [isLineBreak, Bool.or_eq_true, beq_iff_eq, beq_iff_eq] at hc
  rcases hc with rfl | rfl <;> decide

/-- Two texts are unbroken together exactly if each of them is. -/
@[simp]
theorem unbroken_append_iff {breaks : Char → Bool} {s t : String} :
    Unbroken breaks (s ++ t) ↔ Unbroken breaks s ∧ Unbroken breaks t := by
  simp only [Unbroken, String.toList_append, List.mem_append]
  exact ⟨fun h => ⟨fun c hc => h c (.inl hc), fun c hc => h c (.inr hc)⟩,
    fun h c hc => hc.elim (h.1 c) (h.2 c)⟩

namespace LineBreaks

variable {breaks : Char → Bool} {s : String}

/-- A character of a kind that no boundary is of does not break lines. -/
theorem eq_false_of (h : LineBreaks breaks) {p : Char → Bool}
    (apart : lineBoundaries.all (fun c => !p c) = true) {c : Char} (hc : p c = true) :
    breaks c = false := by
  rw [Bool.eq_false_iff]
  intro broken
  have other := List.all_eq_true.mp apart c (List.contains_iff_mem.mp (h c broken))
  rw [hc] at other
  cases other

/-- Fixed texts without boundaries are unbroken for every reader. -/
theorem unbroken_ofList (h : LineBreaks breaks) {cs : List Char}
    (hcs : cs.all (fun c => !isLineBoundary c) = true) : Unbroken breaks (String.ofList cs) := by
  intro c hc
  rw [String.toList_ofList] at hc
  rw [Bool.eq_false_iff]
  intro broken
  have plain := List.all_eq_true.mp hcs c hc
  rw [h c broken] at plain
  cases plain

/-! ### Texts that are unbroken whatever they stand for -/

/-- No line ends inside of a quoted text. -/
theorem unbroken_quoted (h : LineBreaks breaks) (s : String) : Unbroken breaks (quoted s) := by
  intro c hc
  rw [quoted, String.toList_ofList] at hc
  exact h.eq_false_of (by decide +kernel) (isPrintable_of_mem_quotedChars hc)

/-- No line ends inside of a number. -/
theorem unbroken_toString (h : LineBreaks breaks) (n : Nat) : Unbroken breaks (toString n) := by
  intro c hc
  have digits : (toString n).toList = Nat.toDigits 10 n := String.toList_ofList
  rw [digits] at hc
  have digit := Nat.isDigit_of_mem_toDigits (by decide) (by decide) hc
  exact h.eq_false_of (by decide) digit

/-- No line ends inside of a name of markup. -/
theorem unbroken_of_isName (h : LineBreaks breaks) (hs : Markup.IsName s.toList) :
    Unbroken breaks s :=
  fun c hc => h.eq_false_of (by decide +kernel) (hs c hc)

/-- No line ends inside of an identifier. -/
theorem unbroken_of_isIdentifier (h : LineBreaks breaks) (hs : isIdentifier s = true) :
    Unbroken breaks s :=
  fun _ hc => h.eq_false_of (by decide +kernel) (isIdentifierPart_of_mem hs hc)

/-- No line ends inside of the name of a package. -/
theorem unbroken_of_isPackageName (h : LineBreaks breaks) (hs : isPackageName s = true) :
    Unbroken breaks s := by
  rw [isPackageName, Bool.and_eq_true, List.all_eq_true] at hs
  intro c hc
  rcases isSep_or_mem_splitWhere (· == '.') hc with period | ⟨piece, hp, hcp⟩
  · rw [beq_iff_eq.mp period]
    exact h.eq_false_of (p := (· == '.')) (by decide) (by decide)
  · have usable := hs.2 (String.ofList piece) (List.mem_map_of_mem hp)
    refine h.unbroken_of_isIdentifier (isIdentifier_of_isUsableName usable) c ?_
    rw [String.toList_ofList]
    exact hcp

/-! ### Type names -/

/-- Line breaks separate words. -/
theorem isSeparator (h : LineBreaks breaks) {c : Char} (hc : breaks c = true) :
    isSeparator c = true := by
  have all : lineBoundaries.all Text.isSeparator = true := by decide +kernel
  exact List.all_eq_true.mp all c (List.contains_iff_mem.mp (h c hc))

/-- No line ends inside of words that are joined. -/
theorem unbroken_pascalCase (h : LineBreaks breaks) (s : String) :
    Unbroken breaks (pascalCase s) := by
  intro c hc
  rw [pascalCase, String.toList_ofList] at hc
  rw [Bool.eq_false_iff]
  intro broken
  have inside := isSeparator_of_mem_pascalChars hc
  rw [h.isSeparator broken] at inside
  cases inside

/-- In upper case lines end where they did. -/
theorem upper (h : LineBreaks breaks) (c : Char) : breaks (upper c) = breaks c := by
  by_cases hc : Text.isSeparator c = true
  · rw [upper_of_isSeparator hc]
  · have before : breaks c = false := by
      rw [Bool.eq_false_iff]
      exact fun broken => hc (h.isSeparator broken)
    have after : breaks (Text.upper c) = false := by
      rw [Bool.eq_false_iff]
      intro broken
      have separator := h.isSeparator broken
      rw [isSeparator_upper] at separator
      exact hc separator
    rw [before, after]

/-- A capitalized name is unbroken exactly if the name is. -/
theorem unbroken_capitalized_iff (h : LineBreaks breaks) :
    Unbroken breaks (capitalized s) ↔ Unbroken breaks s := by
  unfold capitalized Unbroken
  cases hs : s.toList with
  | nil => simp
  | cons c rest => simp [h.upper c]

end LineBreaks

end ProcessStubs.Text
