import ProcessStubs.Proofs.KeyedList
import ProcessStubs.Proofs.PrintedValues

/-!
# Tables that are printed are read back

A table of simple values is printed with one line for each field, and each line is read as this
field and nothing else: the key ends before the equals sign, the value at the end of the line. The
fields are then collected again in the same order, since no two have the same key.

## Main definitions

* `Toml.PrintedField`: a field and the line that it is printed on.
* `Toml.leafOf`: the definition that a field makes.

## Main results

* `Toml.readName_keyText`: a printed key is read as this key.
* `Toml.PrintedField.readField_eq`: a printed line is read as its field.
* `Toml.readTop_lines`: the lines are read one after the other.
* `Toml.readToml_printToml`: a table of simple values is printed and read back.
-/

namespace ProcessStubs.Toml

open ProcessStubs.Text

/-! ### Keys -/

/-- The characters of bare names are among the first ones. -/
theorem toNat_lt_of_isBareChar {c : Char} (h : isBareChar c = true) : c.toNat < 128 := by
  change (decide (65 ≤ c.val ∧ c.val ≤ 90) || (decide (97 ≤ c.val) && decide (c.val ≤ 122)) ||
    (decide (48 ≤ c.val) && decide (c.val ≤ 57)) || c == '-' || c == '_') = true at h
  simp only [Bool.or_eq_true, Bool.and_eq_true, decide_eq_true_eq, beq_iff_eq,
    UInt32.le_iff_toNat_le] at h
  change ((((65 ≤ c.toNat ∧ c.toNat ≤ 90) ∨ (97 ≤ c.toNat ∧ c.toNat ≤ 122)) ∨
    (48 ≤ c.toNat ∧ c.toNat ≤ 57)) ∨ c = '-') ∨ c = '_' at h
  rcases h with (letter | rfl) | rfl
  · omega
  · decide
  · decide

/-- A character of a bare name is neither a blank nor a sign that means something on a line. -/
theorem not_special_of_isBareChar {c : Char} (h : isBareChar c = true) :
    isSpace c = false ∧ isBlank c = false ∧ isLineEnd c = false ∧
      c ∉ ['"', '\'', '#', '['] := by
  have each : ∀ n : Fin 128, isBareChar (Char.ofNat n) = true →
      isSpace (Char.ofNat n) = false ∧ isBlank (Char.ofNat n) = false ∧
        isLineEnd (Char.ofNat n) = false ∧ Char.ofNat n ∉ ['"', '\'', '#', '['] := by
    decide +kernel
  have found := each ⟨c.toNat, toNat_lt_of_isBareChar h⟩
  rw [Char.ofNat_toNat] at found
  exact found h

/-- Where no character is blank, nothing is stripped from the start. -/
theorem stripStart_eq_self {cs : List Char} (h : ∀ c ∈ cs, isBlank c = false) :
    stripStart cs = cs := by
  cases cs with
  | nil => rfl
  | cons c rest => exact List.dropWhile_cons_of_neg (by simp [h c List.mem_cons_self])

/-- The blank after a name is stripped. -/
theorem trimmed_append_blank {name : List Char} (nonempty : name ≠ [])
    (h : ∀ c ∈ name, isBlank c = false) : trimmed (name ++ [' ']) = name := by
  have start : stripStart (name ++ [' ']) = name ++ [' '] := by
    cases name with
    | nil => exact absurd rfl nonempty
    | cons c rest => exact List.dropWhile_cons_of_neg (by simp [h c List.mem_cons_self])
  have blank : stripStart (' ' :: name.reverse) = stripStart name.reverse :=
    List.dropWhile_cons_of_pos (by decide)
  have stop : stripStart name.reverse = name.reverse :=
    stripStart_eq_self fun c hc => h c (List.mem_reverse.mp hc)
  rw [trimmed, start, stripEnd, List.reverse_concat, blank, stop, List.reverse_reverse]

/-- A bare name is read up to the equals sign. -/
theorem readBareName_append {name : List Char} (nonempty : name ≠ [])
    (bare : ∀ c ∈ name, isBareChar c = true) (more : List Char) :
    readBareName (name ++ ' ' :: '=' :: more) = .ok (String.ofList name, '=' :: more) := by
  have chars : name ++ ' ' :: '=' :: more = (name ++ [' ']) ++ '=' :: more := by simp
  have part : ∀ c ∈ name ++ [' '], (isBareChar c || isSpace c) = true := by
    intro c hc
    rcases List.mem_append.mp hc with hc | hc
    · rw [bare c hc, Bool.true_or]
    · rw [List.mem_singleton.mp hc]
      rfl
  have before : (name ++ ' ' :: '=' :: more).takeWhile (fun c => isBareChar c || isSpace c) =
      name ++ [' '] := by
    rw [chars, List.takeWhile_append_of_pos part, List.takeWhile_cons_of_neg (by decide),
      List.append_nil]
  have after : (name ++ ' ' :: '=' :: more).dropWhile (fun c => isBareChar c || isSpace c) =
      '=' :: more := by
    rw [chars, List.dropWhile_append_of_pos part, List.dropWhile_cons_of_neg (by decide)]
  have kept : trimmed (name ++ [' ']) = name :=
    trimmed_append_blank nonempty fun c hc => (not_special_of_isBareChar (bare c hc)).2.1
  have plain : name.any isSpace = false := by
    rw [List.any_eq_false]
    intro c hc
    simp [(not_special_of_isBareChar (bare c hc)).1]
  rw [readBareName]
  simp only [before, after, kept, plain]
  simp [nonempty]

/-- **A printed key is read as this key.** -/
theorem readName_keyText (key : String) (more : List Char) :
    readName ((keyText key).toList ++ ' ' :: '=' :: more) = .ok (key, '=' :: more) := by
  rw [keyText]
  split
  · next bare =>
      obtain ⟨nonempty, bare⟩ := bare
      have bare := List.all_eq_true.mp bare
      obtain ⟨c, rest, chars⟩ := List.exists_cons_of_ne_nil
        fun none => nonempty (String.toList_eq_nil_iff.mp none)
      obtain ⟨space, -, -, special⟩ := not_special_of_isBareChar (bare c (by simp [chars]))
      have unquoted : ¬ (c = '"' ∨ c = '\'') := by
        rintro (rfl | rfl) <;> simp at special
      have read := readBareName_append (by simp [chars]) bare more
      rw [String.ofList_toList] at read
      rw [chars, List.cons_append] at read ⊢
      rw [readName, List.dropWhile_cons_of_neg (by simp [space])]
      simp only [if_neg unquoted, read]
  · have next : (' ' :: '=' :: more).head? ≠ some '"' := by simp
    obtain ⟨body, chars, read⟩ := readQuoted_basicChars key.toList next
    rw [toList_basicText, chars, readName, List.dropWhile_cons_of_neg (by decide)]
    simp only [true_or, if_true, read, ok_bind]
    rw [if_neg (by decide), String.ofList_toList]
    rfl

/-- The first character of a printed key. -/
theorem exists_keyText_eq (key : String) :
    ∃ c rest, (keyText key).toList = c :: rest ∧ isSpace c = false ∧ isLineEnd c = false ∧
      c ≠ '#' ∧ c ≠ '[' := by
  rw [keyText]
  split
  · next bare =>
      obtain ⟨nonempty, bare⟩ := bare
      obtain ⟨c, rest, chars⟩ := List.exists_cons_of_ne_nil
        fun none => nonempty (String.toList_eq_nil_iff.mp none)
      have hc : isBareChar c = true := List.all_eq_true.mp bare c (by simp [chars])
      obtain ⟨space, -, lineEnd, special⟩ := not_special_of_isBareChar hc
      refine ⟨c, rest, chars, space, lineEnd, ?_, ?_⟩ <;> rintro rfl <;> simp at special
  · exact ⟨'"', _, toList_basicText key, rfl, rfl, by decide, by decide⟩

/-- A printed key is of one line. -/
theorem oneLine_keyText (key : String) : OneLine (keyText key) := by
  rw [keyText]
  split
  · next bare =>
      intro c hc
      exact (not_special_of_isBareChar (List.all_eq_true.mp bare.2 c hc)).2.2.1
  · exact oneLine_basicText key

/-! ### Lines -/

/-- **A field and the line that it is printed on.** -/
def PrintedField (field : String × Value) (line : String) : Prop :=
  ∃ text, PrintedAs field.2 text ∧ line = keyText field.1 ++ " = " ++ text ++ "\n"

/-- What follows the equals sign of a printed line. -/
theorem skipEquals_value {c : Char} (other : c ≠ '=') (space : isSpace c = false)
    (more : List Char) : skipEquals false ('=' :: ' ' :: c :: more) = .ok (c :: more) := by
  simp [skipEquals, other, space, show isSpace ' ' = true from rfl]

namespace PrintedField

variable {field : String × Value} {line : String}

/-- The characters of a printed line, and what follows them. -/
theorem toList_line (key text : String) (rest : List Char) :
    (keyText key ++ " = " ++ text ++ "\n").toList ++ rest =
      (keyText key).toList ++ ' ' :: '=' :: ' ' :: (text.toList ++ '\n' :: rest) := by
  simp

/-- A printed line is that of its field. -/
theorem fieldLine_eq (h : PrintedField field line) : fieldLine field.1 field.2 = .ok line := by
  obtain ⟨text, printed, rfl⟩ := h
  have value := printed.printed
  obtain ⟨key, v⟩ := field
  cases v with
  | null => cases value
  | _ => simp only [fieldLine, value]

/-- **A printed line is read as its field.** -/
theorem readField_eq (h : PrintedField field line) {fuel : Nat} (rest : List Char)
    (room : 2 * line.toList.length ≤ fuel) :
    readField fuel (line.toList ++ rest) = .ok (([field.1], field.2), rest) := by
  obtain ⟨text, printed, rfl⟩ := h
  have size : text.toList.length < (keyText field.1 ++ " = " ++ text ++ "\n").toList.length := by
    simp only [String.toList_append, List.length_append]
    have : "\n".toList.length = 1 := rfl
    omega
  obtain ⟨fuel, rfl⟩ : ∃ n, fuel = n + 1 := ⟨fuel - 1, by omega⟩
  obtain ⟨c, more, chars, other, space⟩ := printed.start
  have key : readKey
      ((keyText field.1).toList ++ ' ' :: '=' :: ' ' :: (text.toList ++ '\n' :: rest)) =
      .ok ([field.1], '=' :: ' ' :: (text.toList ++ '\n' :: rest)) := by
    rw [readKey, readNames, readName_keyText]
    rfl
  have equals : skipEquals false ('=' :: ' ' :: (text.toList ++ '\n' :: rest)) =
      .ok (text.toList ++ '\n' :: rest) := by
    rw [chars, List.cons_append, skipEquals_value other space]
  have value := printed.read fuel rest (by omega)
  rw [toList_line, readField, key, ok_bind]
  simp only [equals, value, ok_bind]
  rfl

/-- A printed line is where a field begins. -/
theorem nextItem_eq (h : PrintedField field line) (fuel : Nat) (rest : List Char) :
    nextItem (fuel + 1) (line.toList ++ rest) = .ok (.field (line.toList ++ rest)) := by
  obtain ⟨text, -, rfl⟩ := h
  obtain ⟨c, more, chars, space, lineEnd, comment, header⟩ := exists_keyText_eq field.1
  rw [toList_line, chars, List.cons_append, nextItem, List.dropWhile_cons_of_neg (by simp [space])]
  simp [lineEnd, comment, header]

/-- There is no carriage return on a printed line. -/
theorem not_mem_return (h : PrintedField field line) : '\r' ∉ line.toList := by
  obtain ⟨text, printed, rfl⟩ := h
  have sep : OneLine " = " := by decide
  have line : OneLine (keyText field.1 ++ " = " ++ text) :=
    ((oneLine_keyText field.1).append sep).append printed.oneLine
  intro hmem
  rw [String.toList_append] at hmem
  rcases List.mem_append.mp hmem with hmem | hmem
  · exact absurd (line _ hmem) (by decide)
  · exact absurd hmem (by decide)

end PrintedField

/-! ### Tables -/

/-- The definition that a field makes. -/
def leafOf (field : String × Value) : Key × Node := (⟨field.1, false⟩, .leaf field.2)

/-- A field with a new key is defined after the others. -/
theorem define_of_fresh {body : Body} {key : String} (fresh : body.pieces key = []) (v : Value) :
    body.define [key] v = .ok (body ++ [leafOf (key, v)]) := by
  have checked : body.checkJoined key = .ok () := by
    rw [Body.checkJoined, fresh]
    rfl
  rw [Body.define, Body.add, show additionFuel = 404 + 1 from rfl, addNode]
  simp only [checked, ok_bind, fresh]
  rfl

variable {fields : List (String × Value)} {lines : List String}

/-- Simple values are printed, each on a line. -/
theorem exists_printedLines (simple : ∀ field ∈ fields, IsSimple field.2) :
    ∃ lines, List.Forall₂ PrintedField fields lines := by
  induction fields with
  | nil => exact ⟨[], .nil⟩
  | cons field fields ih =>
      obtain ⟨first, others⟩ := List.forall_mem_cons.mp simple
      obtain ⟨text, printed⟩ := exists_printedAs first
      obtain ⟨lines, later⟩ := ih others
      exact ⟨_ :: lines, .cons ⟨text, printed, rfl⟩ later⟩

/-- The lines of the fields are the text of the table. -/
theorem printToml_eq (h : List.Forall₂ PrintedField fields lines) :
    printToml fields = .ok (String.join lines) := by
  have printed : fields.mapM (fun field => fieldLine field.1 field.2) = .ok lines := by
    induction h with
    | nil => rfl
    | cons first _ ih =>
        rw [List.mapM_cons, ih]
        simp only [first.fieldLine_eq, ok_bind]
        rfl
  change (fields.mapM fun field => fieldLine field.1 field.2).map String.join = _
  rw [printed]
  rfl

/-- **The lines are read one after the other**, if their keys are new and no two are the same. -/
theorem readTop_lines (h : List.Forall₂ PrintedField fields lines) {fuel : Nat} {body : Body}
    (fresh : ∀ field ∈ fields, body.pieces field.1 = []) (distinct : (Assoc.keys fields).Nodup)
    (room : fields.length < fuel) :
    readTop fuel body (lines.flatMap String.toList) = .ok (body ++ fields.map leafOf) := by
  induction h generalizing fuel body with
  | nil =>
      obtain ⟨fuel, rfl⟩ : ∃ n, fuel = n + 1 := ⟨fuel - 1, by omega⟩
      rw [List.flatMap_nil, List.map_nil, List.append_nil]
      rfl
  | @cons field line fields lines first _ ih =>
      obtain ⟨fuel, rfl⟩ : ∃ n, fuel = n + 1 := ⟨fuel - 1, by omega⟩
      obtain ⟨new, distinct⟩ := List.nodup_cons.mp distinct
      obtain ⟨first_fresh, fresh⟩ := List.forall_mem_cons.mp fresh
      rw [List.length_cons] at room
      have read : readField (2 * (line.toList ++ lines.flatMap String.toList).length + 4)
          (line.toList ++ lines.flatMap String.toList) = _ :=
        first.readField_eq _ (by rw [List.length_append]; omega)
      have others : ∀ other ∈ fields, Body.pieces (body ++ [leafOf field]) other.1 = [] := by
        intro other hother
        have differs : field.1 ≠ other.1 := fun same => new (same ▸ List.mem_map_of_mem hother)
        have before := fresh other hother
        rw [Body.pieces] at before ⊢
        rw [List.filter_append, before, List.nil_append]
        exact List.filter_cons_of_neg (by simp [leafOf, differs])
      have later := ih others distinct (Nat.lt_of_succ_lt_succ room)
      rw [List.flatMap_cons, readTop, first.nextItem_eq, ok_bind]
      simp only [read, ok_bind, define_of_fresh first_fresh, placed, later]
      simp

/-- A name that is no key has no definition. -/
theorem pieces_eq_nil {key : String} (h : key ∉ Assoc.keys fields) :
    Body.pieces (fields.map leafOf) key = [] := by
  rw [Body.pieces, List.filter_eq_nil_iff]
  rintro entry hentry
  obtain ⟨field, hfield, rfl⟩ := List.mem_map.mp hentry
  have differs : field.1 ≠ key := fun same => h (same ▸ List.mem_map_of_mem hfield)
  simp [leafOf, differs]

/-- The definition of a field is the only one of its name. -/
theorem pieces_map_leafOf (distinct : (Assoc.keys fields).Nodup) {field : String × Value}
    (h : field ∈ fields) : Body.pieces (fields.map leafOf) field.1 = [leafOf field] := by
  induction fields with
  | nil => cases h
  | cons first fields ih =>
      obtain ⟨new, distinct⟩ := List.nodup_cons.mp distinct
      rcases List.mem_cons.mp h with rfl | h
      · have others := pieces_eq_nil new
        rw [Body.pieces] at others ⊢
        rw [List.map_cons, List.filter_cons_of_pos (by simp [leafOf]), others]
      · have differs : first.1 ≠ field.1 := fun same => new (same ▸ List.mem_map_of_mem h)
        have found := ih distinct h
        rw [Body.pieces] at found ⊢
        rw [List.map_cons, List.filter_cons_of_neg (by simp [leafOf, differs]), found]

/-- **The fields of distinct definitions** are those that made them. -/
theorem fields_map_leafOf (distinct : (Assoc.keys fields).Nodup) :
    Body.fields (fields.map leafOf) = .ok fields := by
  have names : Body.names (fields.map leafOf) = fields.map Prod.fst := by
    have keys : (fields.map leafOf).map (·.1.name) = fields.map Prod.fst := by
      rw [List.map_map]
      rfl
    rw [Body.names, keys]
    exact eraseDups_of_nodup distinct
  rw [Body.fields, show additionFuel = 403 + 1 + 1 from rfl, fieldsOf, names, mapM_eq_ok_iff,
    List.forall₂_map_left_iff, List.forall₂_same]
  intro field hfield
  rw [pieces_map_leafOf distinct hfield]
  rfl

/-- There are at least as many characters as lines. -/
theorem length_le_of_printed (h : List.Forall₂ PrintedField fields lines) :
    fields.length ≤ (lines.flatMap String.toList).length := by
  induction h with
  | nil => exact Nat.le_refl 0
  | cons first _ ih =>
      obtain ⟨text, -, rfl⟩ := first
      have feed : "\n".toList.length = 1 := rfl
      simp only [List.flatMap_cons, List.length_append, List.length_cons, String.toList_append,
        feed]
      omega

/-- There is no carriage return on printed lines. -/
theorem not_mem_return_of_printed (h : List.Forall₂ PrintedField fields lines) :
    '\r' ∉ lines.flatMap String.toList := by
  induction h with
  | nil => exact List.not_mem_nil
  | cons first _ ih =>
      rw [List.flatMap_cons, List.mem_append, not_or]
      exact ⟨first.not_mem_return, ih⟩

/-- **A table of simple values is printed and read back**, in the same order. -/
theorem readToml_printToml (simple : ∀ field ∈ fields, IsSimple field.2)
    (distinct : (Assoc.keys fields).Nodup) :
    ∃ text, printToml fields = .ok text ∧ readToml text = .ok fields ∧ '\r' ∉ text.toList := by
  obtain ⟨lines, printed⟩ := exists_printedLines simple
  have chars : (String.join lines).toList = lines.flatMap String.toList := String.toList_join
  have room := Nat.lt_succ_of_le (length_le_of_printed printed)
  refine ⟨String.join lines, printToml_eq printed, ?_, ?_⟩
  · have unplaced : ∀ field ∈ fields, Body.pieces [] field.1 = [] := fun _ _ => rfl
    have read := readTop_lines printed unplaced distinct room
    rw [readToml, chars, read]
    simp only [List.nil_append, fields_map_leafOf distinct]
    rfl
  · rw [chars]
    exact not_mem_return_of_printed printed

end ProcessStubs.Toml
