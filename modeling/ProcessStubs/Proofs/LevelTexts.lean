import Mathlib.Data.List.Forall2
import Mathlib.Data.Nat.Digits.Defs
import ProcessStubs.Log.Level
import ProcessStubs.Proofs.CaseImages
import ProcessStubs.Proofs.KeyedList

/-!
# Levels given by texts

A text gives a log level by its name or by a number, in upper or lower case and with blanks around
it. Any text may stand in the environment, and one that gives no level should count as none.

It does, with one exception: a text of digits that cannot be read as a number is a fault. A
superscript two is a digit without a decimal value, and no number is read from more digits than
`maxDecimalDigits`. The exception is about the text as it is given, since upper case neither makes
digits nor changes them.

## Main definitions

* `Denotes`: decimal digits and the number that they denote by their places.
* `GivesLevel`: a text and the level that it gives.
* `Unreadable`: a text of digits that cannot be read as a number.
* `TellsLevel`: each text that gives a level is read as such, and all others count as none.

## Main results

* `decimalNumber?_eq_some_iff`: numbers are read by the places of their digits.
* `upperForm_eq_or`: upper case leaves digits and what is no digit apart.
* `tellsLevel_iff`: which texts are read as they should be.
-/

namespace ProcessStubs

open Text

/-! ### What levels texts give -/

/-- **The number that decimal digits denote**, digits of any script, the first of which has the
highest place. -/
def Text.Denotes (cs : List Char) (n : Nat) : Prop :=
  ∃ digits, List.Forall₂ (fun c d => decimalValue? c = some d) cs digits ∧
    n = Nat.ofDigits 10 digits.reverse

namespace Log

/-- **A text gives a level**: it is the name of the level in upper or lower case, or the number of
the level in decimal digits, perhaps with blanks around. -/
inductive GivesLevel (text : String) : Level → Prop
  | name {l : Level} (named : (upperText (strip text), l) ∈ levelAliases) : GivesLevel text l
  | number {n : Nat} (nonempty : upperText (strip text) ≠ "")
      (digits : Denotes (upperText (strip text)).toList n) : GivesLevel text n

/-- **A text of digits that cannot be read as a number**: one of them has no decimal value, or there
are too many. There may be blanks around. -/
structure Unreadable (text : String) : Prop where
  nonempty : strip text ≠ ""
  digits : ∀ c ∈ (strip text).toList, isDigit c = true
  excess : (∃ c ∈ (strip text).toList, decimalValue? c = none) ∨
    maxDecimalDigits < (strip text).toList.length

/-- **A text is read as it should be**: it is no fault, a level is read from it exactly if it gives
this level, and it counts as none exactly if it gives none. -/
structure TellsLevel (text : String) : Prop where
  returns : ∃ level?, environmentLevel (some text) = .ok level?
  given : ∀ l, environmentLevel (some text) = .ok (some l) ↔ GivesLevel text l
  none : environmentLevel (some text) = .ok none ↔ ∀ l, ¬ GivesLevel text l

end Log

namespace Text

variable {c : Char} {cs : List Char} {n : Nat} {s : String}

/-! ### Numbers by the places of their digits -/

/-- Digits that follow a number multiply it by ten each. -/
theorem foldlM_decimalValue?_eq_some_iff {start : Nat} :
    cs.foldlM (fun n c => (decimalValue? c).map (n * 10 + ·)) start = some n ↔
      ∃ digits, List.Forall₂ (fun c d => decimalValue? c = some d) cs digits ∧
        n = start * 10 ^ digits.length + Nat.ofDigits 10 digits.reverse := by
  induction cs generalizing start with
  | nil =>
      simp only [List.foldlM_nil, List.forall₂_nil_left_iff, exists_eq_left]
      simp [eq_comm]
  | cons c cs ih =>
      simp only [List.foldlM_cons, Option.bind_eq_bind, Option.bind_eq_some_iff,
        Option.map_eq_some_iff, List.forall₂_cons_left_iff]
      have place (d : Nat) (digits : List Nat) :
          (start * 10 + d) * 10 ^ digits.length + Nat.ofDigits 10 digits.reverse =
            start * 10 ^ (d :: digits).length + Nat.ofDigits 10 (d :: digits).reverse := by
        rw [List.reverse_cons, Nat.ofDigits_append, Nat.ofDigits_singleton, List.length_reverse,
          List.length_cons, Nat.pow_succ]
        ring
      constructor
      · rintro ⟨next, ⟨d, value, rfl⟩, rest⟩
        obtain ⟨digits, values, rfl⟩ := ih.mp rest
        exact ⟨d :: digits, ⟨d, digits, value, values, rfl⟩, place d digits⟩
      · rintro ⟨-, ⟨d, digits, value, values, rfl⟩, rfl⟩
        exact ⟨_, ⟨d, value, rfl⟩, ih.mpr ⟨digits, values, (place d digits).symm⟩⟩

/-- **Numbers are read by the places of their digits.** -/
theorem decimalNumber?_eq_some_iff : decimalNumber? cs = some n ↔ Denotes cs n := by
  rw [decimalNumber?, foldlM_decimalValue?_eq_some_iff]
  simp [Denotes]

/-- Characters denote a number exactly if each has a decimal value. -/
theorem exists_denotes_iff : (∃ n, Denotes cs n) ↔ ∀ c ∈ cs, ∃ d, decimalValue? c = some d := by
  constructor
  · rintro ⟨n, digits, values, -⟩
    induction values with
    | nil => simp
    | cons value _ ih => exact List.forall_mem_cons.mpr ⟨⟨_, value⟩, ih⟩
  · intro valued
    refine ⟨_, cs.map fun c => (decimalValue? c).getD 0, ?_, rfl⟩
    rw [List.forall₂_map_right_iff, List.forall₂_same]
    intro c hc
    obtain ⟨d, value⟩ := valued c hc
    rw [value, Option.getD_some]

/-- What has a decimal value is a digit. -/
theorem isDigit_of_decimalValue? {d : Nat} (h : decimalValue? c = some d) : isDigit c = true := by
  obtain ⟨range, found, -⟩ := Option.map_eq_some_iff.mp h
  have inside : range.1 ≤ c.toNat ∧ c.toNat ≤ range.2 := by simpa using List.find?_some found
  rw [isDigit, Bool.or_eq_true]
  exact .inl (inRanges_iff.mpr ⟨range, List.mem_of_find?_eq_some found, inside⟩)

/-! ### Digits in upper case -/

/-- The code points of all digits. -/
def digitRanges : List (Nat × Nat) := decimalRanges ++ otherDigitRanges

/-- A character is a digit if its code point is in one of the ranges. -/
theorem isDigit_eq (c : Char) : isDigit c = inRanges digitRanges c.toNat := by
  simp [isDigit, inRanges, digitRanges]

/-- The table of capital letters neither maps a digit nor to one. -/
theorem upperRuns_apart_digitRanges : ∀ r ∈ upperRuns, ∀ s ∈ digitRanges,
    r.misses s.1 s.2 = true ∧ (r.last < s.1 ∨ s.2 < r.first) :=
  apart_of_test (by decide +kernel)

/-- No digit has a form of several characters, and none of these forms begins with one. -/
theorem upperForms_apart_digitRanges : ∀ r ∈ upperForms,
    r.target + (r.last - r.first) < 0xD800 ∧ ∀ s ∈ digitRanges, (r.last < s.1 ∨ s.2 < r.first) ∧
      (r.target + (r.last - r.first) < s.1 ∨ s.2 < r.target) := by
  have test : upperForms.all (fun r =>
      (r.target + (r.last - r.first)).blt 0xD800 && digitRanges.all fun s =>
        (r.last.blt s.1 || s.2.blt r.first) &&
          ((r.target + (r.last - r.first)).blt s.1 || s.2.blt r.target)) = true := by
    decide +kernel
  simpa only [List.all_eq_true, Bool.and_eq_true, Bool.or_eq_true, Nat.blt_eq] using test

/-- **Upper case leaves digits alone** and makes none: a character keeps its form, or neither is it
a digit nor is its form one of digits. -/
theorem upperForm_eq_or (c : Char) :
    upperForm c = [c] ∨ isDigit c = false ∧ (upperForm c).all isDigit = false := by
  rw [upperForm]
  cases found : upperForms.findSome? (·.form? c.toNat) with
  | none =>
      have single := settled_upperRuns.mapCase_eq_or_of_apart upperRuns_apart_digitRanges c
      rw [← isDigit_eq, ← isDigit_eq] at single
      rcases single with same | ⟨before, after⟩
      · exact .inl (by rw [upper, same])
      · exact .inr ⟨before, by simp [upper, after]⟩
  | some codes =>
      obtain ⟨r, hr, form⟩ := List.exists_of_findSome?_eq_some found
      obtain ⟨valid, apart⟩ := upperForms_apart_digitRanges r hr
      rw [FormRun.form?] at form
      split at form
      · next inside =>
          rw [Bool.and_eq_true, decide_eq_true_eq, decide_eq_true_eq] at inside
          cases form
          have first : (Char.ofNat (r.target + (c.toNat - r.first))).toNat =
              r.target + (c.toNat - r.first) := by
            have low : (r.target + (c.toNat - r.first)).isValidChar := .inl (by omega)
            rw [Char.ofNat, dif_pos low]
            rfl
          have before : isDigit c = false := by
            rw [isDigit_eq, Bool.eq_false_iff, Ne, inRanges_iff]
            rintro ⟨s, hs, lo, hi⟩
            have outside := (apart s hs).1
            omega
          have after : isDigit (Char.ofNat (r.target + (c.toNat - r.first))) = false := by
            rw [isDigit_eq, first, Bool.eq_false_iff, Ne, inRanges_iff]
            rintro ⟨s, hs, lo, hi⟩
            have outside := (apart s hs).2
            omega
          exact .inr ⟨before, by simp [after]⟩
      · cases form

/-- A text of digits is the same in upper case. -/
theorem upperText_of_digits (digits : ∀ c ∈ s.toList, isDigit c = true) : upperText s = s := by
  have same : s.toList.flatMap upperForm = s.toList.flatMap fun c => [c] := by
    refine List.flatMap_congr fun c hc => ?_
    rcases upperForm_eq_or c with same | ⟨other, -⟩
    · exact same
    · rw [digits c hc] at other
      cases other
  rw [upperText, same, List.flatMap_singleton', String.ofList_toList]

/-- A text whose upper case consists of digits consists of digits. -/
theorem digits_of_upperText (digits : ∀ c ∈ (upperText s).toList, isDigit c = true) :
    ∀ c ∈ s.toList, isDigit c = true := by
  intro c hc
  have form : ∀ d ∈ upperForm c, isDigit d = true := fun d hd =>
    digits d (by rw [upperText, String.toList_ofList]; exact List.mem_flatMap.mpr ⟨c, hc, hd⟩)
  rcases upperForm_eq_or c with same | ⟨-, other⟩
  · exact form c (by rw [same]; exact List.mem_singleton.mpr rfl)
  · rw [List.all_eq_true.mpr form] at other
    cases other

end Text

namespace Log

variable {text : String} {l : Level}

/-! ### Names of levels -/

/-- The names of levels are different. -/
theorem nodup_levelAliases : (Assoc.keys levelAliases).Nodup := by decide

/-- No name of a level consists of digits. -/
theorem exists_of_mem_levelAliases {name : String} (h : (name, l) ∈ levelAliases) :
    ∃ c ∈ name.toList, isDigit c = false := by
  have others : levelAliases.all (fun e => e.1.toList.any fun c => !isDigit c) = true := by
    decide +kernel
  simpa using List.all_eq_true.mp others _ h

/-! ### Reading them -/

/-- A text of digits is read as a number. -/
theorem levelOfText_of_digits (nonempty : strip text ≠ "")
    (digits : ∀ c ∈ (strip text).toList, isDigit c = true) :
    levelOfText text = (levelNumber (strip text).toList).map some := by
  have some : (strip text).toList.isEmpty = false := by simpa using nonempty
  have all : (strip text).toList.all isDigit = true := List.all_eq_true.mpr digits
  rw [levelOfText, upperText_of_digits digits]
  simp only [some, all, Bool.not_false, Bool.and_self, if_true]
  cases levelNumber (strip text).toList <;> rfl

/-- Every other text is read as a name. -/
theorem levelOfText_of_other
    (other : ¬ (strip text ≠ "" ∧ ∀ c ∈ (strip text).toList, isDigit c = true)) :
    levelOfText text = .ok (Assoc.get? (upperText (strip text)) levelAliases) := by
  rw [levelOfText]
  refine if_neg ?_
  rw [Bool.and_eq_true, Bool.not_eq_true', List.all_eq_true]
  rintro ⟨nonempty, digits⟩
  have before := digits_of_upperText digits
  refine other ⟨?_, before⟩
  rwa [upperText_of_digits before, List.isEmpty_eq_false_iff, Ne, String.toList_eq_nil_iff]
    at nonempty

/-- The number that digits denote is read, unless there are too many. -/
theorem levelNumber_of_denotes {cs : List Char} {n : Nat} (denotes : Denotes cs n)
    (short : cs.length ≤ maxDecimalDigits) : levelNumber cs = .ok (n : Level) := by
  rw [levelNumber, decimalNumber?_eq_some_iff.mpr denotes]
  simp only [short, if_true]

/-- No number is read from characters without a decimal value, or from too many. -/
theorem levelNumber_of_excess {cs : List Char}
    (excess : (∃ c ∈ cs, decimalValue? c = none) ∨ maxDecimalDigits < cs.length) :
    levelNumber cs = .error (.notNumber (String.ofList cs)) := by
  rw [levelNumber]
  split
  · next n read =>
      refine if_neg ?_
      rcases excess with ⟨c, hc, valueless⟩ | long
      · obtain ⟨d, value⟩ := exists_denotes_iff.mp ⟨n, decimalNumber?_eq_some_iff.mp read⟩ c hc
        rw [valueless] at value
        cases value
      · omega
  · rfl

/-- **A text of digits without a number is a fault.** -/
theorem environmentLevel_of_unreadable (h : Unreadable text) :
    environmentLevel (some text) = .error (.notNumber (strip text)) := by
  rw [environmentLevel, levelOfText_of_digits h.nonempty h.digits, levelNumber_of_excess h.excess,
    String.ofList_toList]
  rfl

/-- A text of digits gives one level: the number that they denote. -/
theorem givesLevel_iff_of_digits {n : Nat} (nonempty : strip text ≠ "")
    (digits : ∀ c ∈ (strip text).toList, isDigit c = true)
    (denotes : Denotes (strip text).toList n) : GivesLevel text l ↔ l = n := by
  have same : upperText (strip text) = strip text := upperText_of_digits digits
  constructor
  · intro gives
    cases gives with
    | name named =>
        obtain ⟨c, hc, other⟩ := exists_of_mem_levelAliases named
        rw [digits c (same ▸ hc)] at other
        cases other
    | number _ denotes' =>
        have read := decimalNumber?_eq_some_iff.mpr denotes
        rw [← same, decimalNumber?_eq_some_iff.mpr denotes'] at read
        cases read
        rfl
  · rintro rfl
    exact .number (by rwa [same]) (by rwa [same])

/-- A text that does not consist of digits gives the level that it names. -/
theorem givesLevel_iff_of_other
    (other : ¬ (strip text ≠ "" ∧ ∀ c ∈ (strip text).toList, isDigit c = true)) :
    GivesLevel text l ↔ (upperText (strip text), l) ∈ levelAliases := by
  constructor
  · intro gives
    cases gives with
    | name named => exact named
    | number nonempty denotes =>
        have valued := exists_denotes_iff.mp ⟨_, denotes⟩
        have digits : ∀ c ∈ (strip text).toList, isDigit c = true :=
          digits_of_upperText fun c hc => isDigit_of_decimalValue? (valued c hc).choose_spec
        rw [upperText_of_digits digits] at nonempty
        exact absurd ⟨nonempty, digits⟩ other
  · exact .name

/-- A text of digits that is not unreadable denotes a number. -/
theorem exists_denotes_of_readable (nonempty : strip text ≠ "")
    (digits : ∀ c ∈ (strip text).toList, isDigit c = true) (h : ¬ Unreadable text) :
    ∃ n, Denotes (strip text).toList n ∧ (strip text).toList.length ≤ maxDecimalDigits := by
  have regular : ¬ ((∃ c ∈ (strip text).toList, decimalValue? c = none) ∨
      maxDecimalDigits < (strip text).toList.length) := fun excess =>
    h ⟨nonempty, digits, excess⟩
  push Not at regular
  obtain ⟨valued, short⟩ := regular
  obtain ⟨n, denotes⟩ := exists_denotes_iff.mpr fun c hc =>
    Option.ne_none_iff_exists'.mp (valued c hc)
  exact ⟨n, denotes, short⟩

/-- **Every other text is read by what it gives.** -/
theorem exists_environmentLevel (h : ¬ Unreadable text) :
    ∃ level?, environmentLevel (some text) = .ok level? ∧
      ∀ l, level? = some l ↔ GivesLevel text l := by
  by_cases digital : strip text ≠ "" ∧ ∀ c ∈ (strip text).toList, isDigit c = true
  · obtain ⟨nonempty, digits⟩ := digital
    obtain ⟨n, denotes, short⟩ := exists_denotes_of_readable nonempty digits h
    refine ⟨some n, ?_, fun l => ?_⟩
    · rw [environmentLevel, levelOfText_of_digits nonempty digits,
        levelNumber_of_denotes denotes short]
      rfl
    · rw [givesLevel_iff_of_digits nonempty digits denotes, Option.some.injEq, eq_comm]
  · refine ⟨Assoc.get? (upperText (strip text)) levelAliases, ?_, fun l => ?_⟩
    · rw [environmentLevel, levelOfText_of_other digital]
    · rw [Assoc.get?_eq_some_iff nodup_levelAliases, givesLevel_iff_of_other digital]

/-- The level that is read from a text is the one that it gives, unless it is unreadable. -/
theorem environmentLevel_eq_some_iff :
    environmentLevel (some text) = .ok (some l) ↔ GivesLevel text l ∧ ¬ Unreadable text := by
  by_cases unreadable : Unreadable text
  · rw [environmentLevel_of_unreadable unreadable]
    exact ⟨nofun, fun ⟨_, readable⟩ => absurd unreadable readable⟩
  · obtain ⟨level?, read, gives⟩ := exists_environmentLevel unreadable
    rw [read, Except.ok.injEq, gives]
    exact ⟨fun h => ⟨h, unreadable⟩, And.left⟩

/-- **Which texts are read as they should be**: all but those of digits that cannot be read as a
number. Each of these is a fault, and nothing else is one. -/
theorem tellsLevel_iff (text : String) :
    (TellsLevel text ↔ ¬ Unreadable text) ∧
    ∀ fault, environmentLevel (some text) = .error fault ↔
      Unreadable text ∧ fault = .notNumber (strip text) := by
  by_cases unreadable : Unreadable text
  · have failed := environmentLevel_of_unreadable unreadable
    refine ⟨⟨fun told => ?_, fun readable => absurd unreadable readable⟩, fun fault => ?_⟩
    · obtain ⟨level?, read⟩ := told.returns
      rw [failed] at read
      cases read
    · rw [failed, Except.error.injEq, eq_comm]
      exact ⟨fun same => ⟨unreadable, same⟩, And.right⟩
  · obtain ⟨level?, read, gives⟩ := exists_environmentLevel unreadable
    refine ⟨⟨fun _ => unreadable, fun _ => ⟨⟨level?, read⟩, fun l => ?_, ?_⟩⟩, fun fault => ?_⟩
    · rw [read, Except.ok.injEq, gives]
    · rw [read, Except.ok.injEq, Option.eq_none_iff_forall_not_mem]
      exact forall_congr' fun l => not_congr (gives l)
    · rw [read]
      exact ⟨nofun, fun ⟨h, _⟩ => absurd h unreadable⟩

/-- A superscript two is a digit without a decimal value. -/
theorem unreadable_superscript : Unreadable "²" where
  nonempty := by decide +kernel
  digits := by
    have all : (strip "²").toList.all isDigit = true := by decide +kernel
    exact List.all_eq_true.mp all
  excess := by
    have any : (strip "²").toList.any (fun c => (decimalValue? c).isNone) = true := by
      decide +kernel
    obtain ⟨c, hc, valueless⟩ := List.any_eq_true.mp any
    exact .inl ⟨c, hc, Option.isNone_iff_eq_none.mp valueless⟩

/-- It is not read as it should be. -/
theorem not_tellsLevel_superscript : ¬ TellsLevel "²" := by
  intro told
  obtain ⟨level?, read⟩ := told.returns
  rw [environmentLevel_of_unreadable unreadable_superscript] at read
  cases read

example : environmentLevel (some " ٣٠ ") = .ok (some 30) := by rfl

end Log

end ProcessStubs
