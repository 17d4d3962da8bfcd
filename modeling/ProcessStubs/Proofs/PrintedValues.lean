import Mathlib.Tactic.SplitIfs
import ProcessStubs.Proofs.OneLine
import ProcessStubs.Proofs.Steps
import ProcessStubs.Toml.Printer
import ProcessStubs.Toml.Reader

/-!
# Values that are printed are read back

A text is printed between double quotes, character by character, and read again in the same pieces:
an escape is one character, and no piece but the last quote ends the text. A list of texts is
printed with a comma and a blank between two of them, and read with two steps for each.

All that is said of a reader is said with what follows the printed characters, so that values, lines
and whole tables are put together from it.

## Main definitions

* `Toml.PrintedChar`: how a character of a text is printed.
* `Toml.IsSimple`: a truth value, a text, or a list of texts.
* `Toml.basicChars`, `Toml.itemChars`: the characters of texts and of lists.

## Main results

* `Toml.PrintedChar.read`: a printed character is read as this character.
* `Toml.readQuoted_basicChars`: a printed text is read as this text.
* `Toml.readItems_itemChars`: so is a printed list.
* `Toml.readValue_valueText`: a simple value is printed, and read back.
-/

namespace ProcessStubs.Toml

open ProcessStubs.Text

/-! ### Characters -/

/-- The control characters, escaped by their numbers. -/
theorem escapedChar?_hexDigits {c : Char} (h : isControl c = true) :
    escapedChar? (hexDigits 4 c.toNat) = some c := by
  have each : ∀ n : Fin 128, escapedChar? (hexDigits 4 n) = some (Char.ofNat n) := by
    decide +kernel
  have small : c.toNat < 128 := by
    simp only [isControl, Bool.or_eq_true, Bool.and_eq_true, decide_eq_true_eq, beq_iff_eq] at h
    omega
  have read := each ⟨c.toNat, small⟩
  rwa [Char.ofNat_toNat] at read

/-- An escape of one letter is read as its character, if anything follows it. -/
theorem readEscape_short {letter c : Char} (escape : shortEscape? letter = some c)
    {rest : List Char} (more : rest ≠ []) :
    readEscape (letter :: rest) = .ok (c, ⟨rest, Nat.lt_succ_self _⟩) := by
  simp [readEscape, escape, more]

/-- An escape by a number is read as its character, if anything follows it. -/
theorem readEscape_number {c : Char} (control : isControl c = true) {rest : List Char}
    (more : rest ≠ []) : ∃ shorter, readEscape ('u' :: (hexDigits 4 c.toNat ++ rest)) =
      .ok (c, ⟨rest, shorter⟩) := by
  have size : (hexDigits 4 c.toNat).length = 4 := by simp [hexDigits]
  have room : ¬ (hexDigits 4 c.toNat ++ rest).length ≤ 4 := by
    have := List.length_pos_of_ne_nil more
    rw [List.length_append, size]
    omega
  have digits : (hexDigits 4 c.toNat ++ rest).take 4 = hexDigits 4 c.toNat := List.take_left' size
  have left : (hexDigits 4 c.toNat ++ rest).drop 4 = rest := List.drop_left' size
  have letter : shortEscape? 'u' = none := rfl
  have width : escapeWidth? 'u' = some 4 := rfl
  refine ⟨by rw [List.length_cons, List.length_append]; omega, ?_⟩
  rw [readEscape]
  simp only [letter, width, if_neg room, digits, escapedChar?_hexDigits control, left]

/-- What is read of a text goes on behind an escape. -/
theorem readBasic_escape {c : Char} {piece rest : List Char} {shorter : rest.length < piece.length}
    (escape : readEscape piece = .ok (c, ⟨rest, shorter⟩)) :
    readBasic ('\\' :: piece) =
      (readBasic rest).map fun (text, left) => (c :: text, left) := by
  rw [readBasic, if_neg (by decide), if_pos rfl, escape]
  change ((readBasic rest).bind _ : Except Halt _) = _
  cases readBasic rest <;> rfl

/-- **How a character is printed**: as an escape of one letter, as one by its number, or as
itself. -/
inductive PrintedChar (c : Char) : List Char → Prop
  | letter {letter : Char} : shortEscape? letter = some c → PrintedChar c ['\\', letter]
  | number : isControl c = true → PrintedChar c ('\\' :: 'u' :: hexDigits 4 c.toNat)
  | itself : c ≠ '"' → c ≠ '\\' → isControl c = false → PrintedChar c [c]

/-- A character is printed in one of these ways. -/
theorem printedChar_basicChar (c : Char) : PrintedChar c (basicChar c) := by
  rw [basicChar]
  split_ifs with quote backslash backspace tab feed form ret control
  · exact .letter (by rw [quote]; rfl)
  · exact .letter (by rw [backslash]; rfl)
  · exact .letter (backspace ▸ rfl)
  · exact .letter (tab ▸ rfl)
  · exact .letter (feed ▸ rfl)
  · exact .letter (form ▸ rfl)
  · exact .letter (ret ▸ rfl)
  · exact .number control
  · exact .itself quote backslash (by simpa using control)

/-- **A printed character is read as this character**, if anything follows it. -/
theorem PrintedChar.read {c : Char} {piece rest : List Char} (printed : PrintedChar c piece)
    (more : rest ≠ []) :
    readBasic (piece ++ rest) = (readBasic rest).map fun (text, left) => (c :: text, left) := by
  cases printed with
  | letter escape => exact readBasic_escape (readEscape_short escape more)
  | number control =>
      obtain ⟨shorter, escape⟩ := readEscape_number control more
      exact readBasic_escape escape
  | itself quote backslash control =>
      rw [List.singleton_append, readBasic, if_neg quote, if_neg backslash,
        if_neg (by simp [control])]
      cases readBasic rest <;> rfl

/-- No printed character begins with a quote. -/
theorem PrintedChar.exists_eq {c : Char} {piece : List Char} (printed : PrintedChar c piece) :
    ∃ d more, piece = d :: more ∧ d ≠ '"' := by
  cases printed with
  | letter => exact ⟨_, _, rfl, by decide⟩
  | number => exact ⟨_, _, rfl, by decide⟩
  | itself quote => exact ⟨_, _, rfl, quote⟩

/-- A printed character does not break the line. -/
theorem PrintedChar.isLineBreak_eq_false {c d : Char} {piece : List Char}
    (printed : PrintedChar c piece) (h : d ∈ piece) : Text.isLineBreak d = false := by
  rw [Text.isLineBreak, Bool.or_eq_false_iff, beq_eq_false_iff_ne, beq_eq_false_iff_ne]
  cases printed with
  | letter escape =>
      rcases List.mem_cons.mp h with rfl | h
      · decide
      · rw [List.mem_singleton.mp h]
        refine ⟨?_, ?_⟩
        all_goals
          rintro rfl
          cases escape
  | number =>
      rcases List.mem_cons.mp h with rfl | h
      · decide
      rcases List.mem_cons.mp h with rfl | h
      · decide
      obtain ⟨e, he, rfl⟩ := exists_digit_of_mem_hexDigits h
      have digits : ∀ e < 16, hexDigit e ≠ '\n' ∧ hexDigit e ≠ '\r' := by decide
      exact digits e he
  | itself _ _ control =>
      rw [List.mem_singleton.mp h]
      refine ⟨?_, ?_⟩
      all_goals
        rintro rfl
        cases control

/-! ### Texts -/

/-- The characters of a text in double quotes. -/
def basicChars (cs : List Char) : List Char := '"' :: (cs.flatMap basicChar ++ ['"'])

/-- The characters of a printed text. -/
theorem toList_basicText (s : String) : (basicText s).toList = basicChars s.toList := by
  simp [basicText, basicChars]

/-- **Printed characters are read** up to the last quote. -/
theorem readBasic_flatMap (cs rest : List Char) :
    readBasic (cs.flatMap basicChar ++ '"' :: rest) = .ok (cs, rest) := by
  induction cs with
  | nil => rw [List.flatMap_nil, List.nil_append, readBasic, if_pos rfl]
  | cons c cs ih =>
      rw [List.flatMap_cons, List.append_assoc, (printedChar_basicChar c).read (by simp), ih]
      rfl

/-- **A printed text is read as this text**, unless a further quote follows it. -/
theorem readQuoted_basicChars (cs : List Char) {rest : List Char} (next : rest.head? ≠ some '"') :
    ∃ body, basicChars cs ++ rest = '"' :: body ∧
      readQuoted '"' body = .ok (⟨cs, false⟩, rest) := by
  refine ⟨cs.flatMap basicChar ++ '"' :: rest, by simp [basicChars], ?_⟩
  cases cs with
  | nil =>
      cases rest with
      | nil => rfl
      | cons d rest =>
          have other : d ≠ '"' := fun quote => next (by rw [quote]; rfl)
          simp [readQuoted, other]
  | cons c cs =>
      obtain ⟨d, more, piece, other⟩ := (printedChar_basicChar c).exists_eq
      have read := readBasic_flatMap (c :: cs) rest
      have chars : (c :: cs).flatMap basicChar ++ '"' :: rest =
          d :: (more ++ (cs.flatMap basicChar ++ '"' :: rest)) := by simp [piece]
      rw [chars] at read ⊢
      simp only [readQuoted, if_neg other, if_true, read]
      rfl

/-! ### Values -/

/-- **A simple value**: a truth value, a text, or a list of texts. -/
inductive IsSimple : Value → Prop
  | boolean (b : Bool) : IsSimple (.boolean b)
  | text (s : String) : IsSimple (.text s)
  | texts (items : List String) : IsSimple (.list (items.map .text))

/-- The characters of further items of a list, up to its closing bracket. -/
def itemChars (items : List String) (rest : List Char) : List Char :=
  items.flatMap (fun s => ',' :: ' ' :: basicChars s.toList) ++ ']' :: rest

/-- **A text is read as a value.** -/
theorem readValue_basicChars (fuel level : Nat) (s : String) {rest : List Char}
    (next : rest.head? ≠ some '"') :
    readValue (fuel + 1) level (basicChars s.toList ++ rest) = .ok (.text s, rest) := by
  obtain ⟨body, chars, read⟩ := readQuoted_basicChars s.toList next
  rw [chars, readValue]
  simp only [true_or, if_true, read]
  rw [Except.map, String.ofList_toList]

/-- Characters that are neither gaps nor begin a comment stay. -/
theorem skipGaps_cons (fuel : Nat) {c : Char} (gap : isGap c = false) (comment : c ≠ '#')
    (rest : List Char) : skipGaps fuel (c :: rest) = .ok (c :: rest) := by
  cases fuel with
  | zero => rfl
  | succ fuel =>
      rw [skipGaps, List.dropWhile_cons_of_neg (by simp [gap])]
      split
      · next same => exact absurd (List.cons.inj same).1 comment
      · rfl

/-- A blank is passed over. -/
theorem skipGaps_blank (fuel : Nat) {c : Char} (gap : isGap c = false) (comment : c ≠ '#')
    (rest : List Char) : skipGaps (fuel + 1) (' ' :: c :: rest) = .ok (c :: rest) := by
  have same : skipGaps (fuel + 1) (' ' :: c :: rest) = skipGaps (fuel + 1) (c :: rest) := by
    rw [skipGaps, skipGaps, List.dropWhile_cons_of_pos rfl]
  rw [same, skipGaps_cons _ gap comment]

/-- What follows an item of a list is no quote. -/
theorem head?_itemChars (items : List String) (rest : List Char) :
    (itemChars items rest).head? ≠ some '"' := by
  cases items <;> simp [itemChars]

/-- An item of a list is read, and then the others. -/
theorem readItems_basicChars {fuel level : Nat} {s : String} {items : List String}
    {chars rest : List Char}
    (skipped : skipGaps (fuel + 1) chars = .ok (basicChars s.toList ++ itemChars items rest))
    (later : readItems (fuel + 1) level true (itemChars items rest) =
      .ok (items.map .text, rest)) :
    readItems (fuel + 2) level false chars = .ok ((s :: items).map .text, rest) := by
  have read := readValue_basicChars fuel level s (head?_itemChars items rest)
  rw [readItems, skipped, ok_bind]
  change (readValue (fuel + 1) level (basicChars s.toList ++ itemChars items rest) >>= _) = _
  rw [read, ok_bind]
  change (readItems (fuel + 1) level true (itemChars items rest) >>= _) = _
  rw [later]
  rfl

/-- **Further items of a list** are read, with two steps for each. -/
theorem readItems_itemChars {fuel level : Nat} {items : List String} {rest : List Char}
    (room : 2 * items.length + 1 ≤ fuel) :
    readItems fuel level true (itemChars items rest) = .ok (items.map .text, rest) := by
  induction items generalizing fuel with
  | nil =>
      obtain ⟨fuel, rfl⟩ : ∃ n, fuel = n + 1 := ⟨fuel - 1, by omega⟩
      rw [itemChars, List.flatMap_nil, List.nil_append, readItems, skipGaps_cons _ rfl (by decide)]
      rfl
  | cons s items ih =>
      rw [List.length_cons] at room
      obtain ⟨fuel, rfl⟩ : ∃ n, fuel = n + 3 := ⟨fuel - 3, by omega⟩
      have later : readItems (fuel + 1) level true (itemChars items rest) = _ := ih (by omega)
      have chars : itemChars (s :: items) rest =
          ',' :: ' ' :: (basicChars s.toList ++ itemChars items rest) := by simp [itemChars]
      rw [chars, readItems, skipGaps_cons _ rfl (by decide)]
      exact readItems_basicChars (skipGaps_blank fuel rfl (by decide) _) later

/-- The characters of a printed list that is not empty, after its opening bracket. -/
theorem toList_joinWith_basicText (s : String) (items : List String) (rest : List Char) :
    (joinWith ", " ((s :: items).map basicText)).toList ++ ']' :: rest =
      basicChars s.toList ++ itemChars items rest := by
  induction items generalizing s with
  | nil => simp [joinWith, itemChars, toList_basicText]
  | cons next items ih =>
      have joined : joinWith ", " ((s :: next :: items).map basicText) =
          basicText s ++ ", " ++ joinWith ", " ((next :: items).map basicText) := rfl
      have sep : ", ".toList = [',', ' '] := rfl
      rw [joined, String.toList_append, String.toList_append, List.append_assoc, ih, sep,
        toList_basicText]
      simp [itemChars]

/-- **A printed list is read** up to its closing bracket. -/
theorem readItems_joinWith {fuel level : Nat} {items : List String} {rest : List Char}
    (room : 2 * items.length + 1 ≤ fuel) :
    readItems fuel level false ((joinWith ", " (items.map basicText)).toList ++ ']' :: rest) =
      .ok (items.map .text, rest) := by
  cases items with
  | nil =>
      obtain ⟨fuel, rfl⟩ : ∃ n, fuel = n + 1 := ⟨fuel - 1, by omega⟩
      change readItems (fuel + 1) level false (']' :: rest) = _
      rw [readItems, skipGaps_cons _ rfl (by decide)]
      rfl
  | cons s items =>
      rw [List.length_cons] at room
      obtain ⟨fuel, rfl⟩ : ∃ n, fuel = n + 2 := ⟨fuel - 2, by omega⟩
      rw [toList_joinWith_basicText]
      exact readItems_basicChars (skipGaps_cons _ rfl (by decide) _)
        (readItems_itemChars (by omega))

/-- The texts of printed items. -/
theorem itemTexts_map (items : List String) :
    itemTexts (items.map .text) = some (items.map basicText) := by
  induction items with
  | nil => rfl
  | cons s items ih => simp [itemTexts, valueText, ih]

/-- Further items take at least as many characters as there are. -/
theorem length_le_itemChars (items : List String) (rest : List Char) :
    items.length ≤ (itemChars items rest).length := by
  induction items with
  | nil => exact Nat.zero_le _
  | cons s items ih =>
      simp only [itemChars, List.flatMap_cons, List.length_append, List.length_cons] at ih ⊢
      omega

/-- A list takes at least as many characters as it has items. -/
theorem length_le_joinWith (items : List String) :
    items.length ≤ (joinWith ", " (items.map basicText)).toList.length := by
  cases items with
  | nil => exact Nat.zero_le _
  | cons s items =>
      have chars := congrArg List.length (toList_joinWith_basicText s items [])
      have each := length_le_itemChars items []
      simp only [List.length_append, basicChars, List.length_cons, List.length_nil] at chars ⊢
      omega

/-- A printed text is of one line. -/
theorem oneLine_basicText (s : String) : OneLine (basicText s) := by
  intro d hd
  rw [toList_basicText, basicChars, List.mem_cons, List.mem_append, List.mem_singleton] at hd
  rcases hd with rfl | hd | rfl
  · rfl
  · obtain ⟨c, -, hc⟩ := List.mem_flatMap.mp hd
    exact (printedChar_basicChar c).isLineBreak_eq_false hc
  · rfl

/-- **A value and how it is printed**: the text begins like a value, is of one line, and is read as
the value before the end of a line. -/
structure PrintedAs (v : Value) (text : String) : Prop where
  printed : valueText v = some text
  start : ∃ c more, text.toList = c :: more ∧ c ≠ '=' ∧ isSpace c = false
  oneLine : OneLine text
  read : ∀ fuel rest, 2 * text.toList.length ≤ fuel →
    readValue (fuel + 1) 0 (text.toList ++ '\n' :: rest) = .ok (v, '\n' :: rest)

/-- A text is printed and read back. -/
theorem printedAs_text (s : String) : PrintedAs (.text s) (basicText s) where
  printed := rfl
  start := ⟨'"', _, toList_basicText s, by decide, rfl⟩
  oneLine := oneLine_basicText s
  read fuel rest _ := by rw [toList_basicText, readValue_basicChars fuel 0 s (by simp)]

/-- A truth value is printed and read back. -/
theorem printedAs_boolean (b : Bool) : PrintedAs (.boolean b) (if b then "true" else "false") where
  printed := rfl
  start := by cases b <;> exact ⟨_, _, rfl, by decide, rfl⟩
  oneLine := by cases b <;> decide
  read fuel rest _ := by
    cases b <;> rfl

/-- A list of texts is printed and read back. -/
theorem printedAs_texts (items : List String) :
    PrintedAs (.list (items.map .text)) ("[" ++ joinWith ", " (items.map basicText) ++ "]") where
  printed := by simp [valueText, itemTexts_map]
  start := ⟨'[', (joinWith ", " (items.map basicText)).toList ++ [']'], by simp, by decide, rfl⟩
  oneLine := by
    have sep : OneLine ", " := by decide
    have opening : OneLine "[" := by decide
    refine (opening.append (sep.joinWith ?_)).append (by decide)
    intro text htext
    obtain ⟨s, -, rfl⟩ := List.mem_map.mp htext
    exact oneLine_basicText s
  read fuel rest room := by
    have chars : ("[" ++ joinWith ", " (items.map basicText) ++ "]").toList ++ '\n' :: rest =
        '[' :: ((joinWith ", " (items.map basicText)).toList ++ ']' :: '\n' :: rest) := by simp
    have size := length_le_joinWith items
    have length : ("[" ++ joinWith ", " (items.map basicText) ++ "]").toList.length =
        (joinWith ", " (items.map basicText)).toList.length + 2 := by simp
    rw [length] at room
    rw [chars, readValue, if_neg (by decide), if_neg (by decide), if_neg (by decide),
      if_neg (by decide), if_pos rfl, if_neg (by simp), readItems_joinWith (by omega)]
    rfl

/-- **A simple value is printed and read back.** -/
theorem exists_printedAs {v : Value} (simple : IsSimple v) : ∃ text, PrintedAs v text := by
  cases simple with
  | boolean b => exact ⟨_, printedAs_boolean b⟩
  | text s => exact ⟨_, printedAs_text s⟩
  | texts items => exact ⟨_, printedAs_texts items⟩

end ProcessStubs.Toml
