import ProcessStubs.Proofs.Literal
import ProcessStubs.Proofs.ModulePath
import ProcessStubs.RuntimeReference

/-!
# Texts of one line

A text of one line holds neither a line feed nor a carriage return. Joining such texts as lines and
breaking the result where one of the two stands gives the lines back. Names and quoted texts are
of one line, whatever they stand for.

## Main results

* `breakLines_joinWith`: the lines of joined lines are those that each of them breaks into.
* `oneLine_quoted`: a quoted text is of one line.
-/

namespace ProcessStubs.Text

/-- Whether a line ends at a character. -/
def isLineBreak (c : Char) : Bool := c == '\n' || c == '\r'

/-- The pieces of a text between line breaks. -/
def breakLines (s : String) : List String := (splitWhere isLineBreak s.toList).map String.ofList

/-- A text without line breaks. -/
def OneLine (s : String) : Prop := ∀ c ∈ s.toList, isLineBreak c = false

instance (s : String) : Decidable (OneLine s) :=
  List.decidableBAll (fun c => isLineBreak c = false) s.toList

/-- Two texts of one line are one together. -/
theorem OneLine.append {s t : String} (hs : OneLine s) (ht : OneLine t) : OneLine (s ++ t) := by
  intro c hc
  rw [String.toList_append, List.mem_append] at hc
  rcases hc with hc | hc
  · exact hs c hc
  · exact ht c hc

/-- Texts of one line joined by one are of one line. -/
theorem OneLine.joinWith {sep : String} {l : List String} (hsep : OneLine sep)
    (h : ∀ s ∈ l, OneLine s) : OneLine (joinWith sep l) := by
  induction l with
  | nil => exact fun c hc => absurd hc (by simp [Text.joinWith])
  | cons s rest ih =>
      have head : OneLine s := h s List.mem_cons_self
      have tail := ih fun t ht => h t (List.mem_cons_of_mem _ ht)
      cases rest with
      | nil => exact head
      | cons t rest => exact (head.append hsep).append tail

/-! ### Breaking lines -/

/-- A text of one line is this line. -/
theorem OneLine.breakLines_eq {s : String} (h : OneLine s) : breakLines s = [s] := by
  rw [breakLines, splitWhere_of_forall h, List.map_singleton, String.ofList_toList]

/-- A line feed ends a line, whatever stands before it. -/
theorem breakLines_append_lineFeed (s t : String) :
    breakLines (s ++ "\n" ++ t) = breakLines s ++ breakLines t := by
  have chars : (s ++ "\n" ++ t).toList = s.toList ++ '\n' :: t.toList := by
    rw [String.toList_append, String.toList_append, List.append_assoc]
    rfl
  rw [breakLines, chars, splitWhere_append_of_isSep rfl, List.map_append]
  rfl

/-- **The lines of joined lines** are those that each of them breaks into, and an empty one after
the last line feed. -/
theorem breakLines_joinWith {lines : List String} (nonempty : lines ≠ []) :
    breakLines (joinWith "\n" lines ++ "\n") = lines.flatMap breakLines ++ [""] := by
  induction lines with
  | nil => exact absurd rfl nonempty
  | cons s rest ih =>
      cases rest with
      | nil =>
          have last := breakLines_append_lineFeed s ""
          rw [String.append_empty] at last
          rw [List.flatMap_singleton]
          exact last
      | cons t rest =>
          have joined : joinWith "\n" (s :: t :: rest) =
              s ++ "\n" ++ joinWith "\n" (t :: rest) := rfl
          rw [joined, String.append_assoc, breakLines_append_lineFeed, ih (List.cons_ne_nil _ _),
            ← List.append_assoc]
          rfl

/-- Lines of one line each break into themselves. -/
theorem flatMap_breakLines {lines : List String} (h : ∀ s ∈ lines, OneLine s) :
    lines.flatMap breakLines = lines := by
  induction lines with
  | nil => rfl
  | cons s rest ih =>
      rw [List.flatMap_cons, (h s List.mem_cons_self).breakLines_eq,
        ih fun t ht => h t (List.mem_cons_of_mem _ ht)]
      rfl

/-! ### Names -/

/-- No line ends at a character that can stand in an identifier. -/
theorem isLineBreak_eq_false {c : Char} (part : isIdentifierPart c = true) :
    isLineBreak c = false := by
  have feed : isIdentifierPart '\n' = false := by decide +kernel
  have ret : isIdentifierPart '\r' = false := by decide +kernel
  rw [isLineBreak, Bool.or_eq_false_iff, beq_eq_false_iff_ne, beq_eq_false_iff_ne]
  refine ⟨?_, ?_⟩
  · rintro rfl
    rw [feed] at part
    cases part
  · rintro rfl
    rw [ret] at part
    cases part

/-- An identifier is of one line. -/
theorem oneLine_of_isIdentifier {s : String} (h : isIdentifier s = true) : OneLine s :=
  fun _ hc => isLineBreak_eq_false (isIdentifierPart_of_mem h hc)

/-- Each character of a list separates or stands in a piece. -/
theorem isSep_or_mem_splitWhere {α : Type} (isSep : α → Bool) {l : List α} {a : α} (h : a ∈ l) :
    isSep a = true ∨ ∃ piece ∈ splitWhere isSep l, a ∈ piece := by
  induction l with
  | nil => cases h
  | cons b rest ih =>
      cases sep : isSep b with
      | true =>
          rcases List.mem_cons.mp h with rfl | h
          · exact .inl sep
          · refine (ih h).imp_right ?_
            rintro ⟨piece, hp, ha⟩
            exact ⟨piece, by simp [splitWhere, sep, hp], ha⟩
      | false =>
          obtain ⟨first, pieces, hpieces⟩ :=
            List.exists_cons_of_ne_nil (splitWhere_ne_nil isSep rest)
          have split : splitWhere isSep (b :: rest) = (b :: first) :: pieces := by
            simp [splitWhere, sep, hpieces]
          rw [split]
          rcases List.mem_cons.mp h with rfl | h
          · exact .inr ⟨_, List.mem_cons_self, List.mem_cons_self⟩
          · rcases ih h with hsep | ⟨piece, hp, ha⟩
            · exact .inl hsep
            · rw [hpieces] at hp
              rcases List.mem_cons.mp hp with rfl | hp
              · exact .inr ⟨_, List.mem_cons_self, List.mem_cons_of_mem _ ha⟩
              · exact .inr ⟨piece, List.mem_cons_of_mem _ hp, ha⟩

/-- The name of a package is of one line. -/
theorem oneLine_of_isPackageName {s : String} (h : isPackageName s = true) : OneLine s := by
  rw [isPackageName, Bool.and_eq_true, List.all_eq_true] at h
  intro c hc
  rcases isSep_or_mem_splitWhere (· == '.') hc with period | ⟨piece, hp, hcp⟩
  · rw [beq_iff_eq.mp period]
    rfl
  · have usable := h.2 (String.ofList piece) (List.mem_map_of_mem hp)
    refine oneLine_of_isIdentifier (isIdentifier_of_isUsableName usable) c ?_
    rw [String.toList_ofList]
    exact hcp

/-! ### Quoted texts -/

/-- A character is quoted by printable ones. -/
theorem QuotedAs.isPrintable {q c d : Char} {piece : List Char} (h : QuotedAs q c piece)
    (hd : d ∈ piece) : isPrintable d = true := by
  have backslash : Text.isPrintable '\\' = true := by decide +kernel
  cases h with
  | simple escape _ =>
      rcases List.mem_cons.mp hd with rfl | hd
      · exact backslash
      · rw [List.mem_singleton.mp hd]
        unfold simpleEscape? at escape
        split at escape
        case h_11 => cases escape
        all_goals decide +kernel
  | plain _ _ printable =>
      rw [List.mem_singleton.mp hd]
      exact printable
  | number _ width _ =>
      rcases List.mem_cons.mp hd with rfl | hd
      · exact backslash
      rcases List.mem_cons.mp hd with rfl | hd
      · unfold hexWidth? at width
        split at width
        case h_4 => cases width
        all_goals decide +kernel
      · obtain ⟨e, he, rfl⟩ := exists_digit_of_mem_hexDigits hd
        have all : ∀ e < 16, Text.isPrintable (hexDigit e) = true := by decide +kernel
        exact all e he

/-- A quoted text is made of printable characters. -/
theorem isPrintable_of_mem_quotedChars {cs : List Char} {d : Char} (h : d ∈ quotedChars cs) :
    isPrintable d = true := by
  have hq := isQuote_quoteFor cs
  have quote : isPrintable (quoteFor cs) = true := by
    rcases hq with heq | heq
    all_goals
      rw [heq]
      decide +kernel
  rw [quotedChars_eq] at h
  rcases List.mem_cons.mp h with rfl | h
  · exact quote
  · rcases List.mem_append.mp h with h | h
    · obtain ⟨c, -, hd⟩ := List.mem_flatMap.mp h
      exact (quotedAs_quotedChar hq c).isPrintable hd
    · rw [List.mem_singleton.mp h]
      exact quote

/-- A quoted text is written without line breaks. -/
theorem isLineBreak_of_mem_quotedChars {cs : List Char} {d : Char} (h : d ∈ quotedChars cs) :
    isLineBreak d = false := by
  obtain ⟨feed, ret⟩ := ne_lineBreak_of_isPrintable (isPrintable_of_mem_quotedChars h)
  simp [isLineBreak, feed, ret]

/-- **A quoted text is of one line**, whatever it stands for. -/
theorem oneLine_quoted (s : String) : OneLine (quoted s) := by
  intro c hc
  rw [quoted, String.toList_ofList] at hc
  exact isLineBreak_of_mem_quotedChars hc

/-- A quoted text stays of one line when its double quotes are guarded. -/
theorem oneLine_guarded (s : String) :
    OneLine (String.ofList ((quotedChars s.toList).flatMap guardedChar)) := by
  intro c hc
  rw [String.toList_ofList] at hc
  obtain ⟨d, hd, hc⟩ := List.mem_flatMap.mp hc
  rw [guardedChar] at hc
  split at hc
  · rcases List.mem_cons.mp hc with rfl | hc
    · rfl
    · rw [List.mem_singleton.mp hc]
      rfl
  · rw [List.mem_singleton.mp hc]
    exact isLineBreak_of_mem_quotedChars hd

end ProcessStubs.Text
