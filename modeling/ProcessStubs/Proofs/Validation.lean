import ProcessStubs.Proofs.Frozen
import ProcessStubs.Proofs.OneLine

/-!
# What freezing checks

A draft gives the name of a package and a reference to a runtime, and gives the default for each
that is not set. Freezing accepts a reference exactly if it is written `module:Name`, and what it
checks is what it keeps.

It checks what is given, too, with one exception: an empty text given as the reference counts as not
set. No empty text is a reference, so such a draft should be refused, and it is frozen with the
default runtime instead, unless its package is refused anyway. The package has no such exception.

## Main definitions

* `IsReference`: a text written `module:Name`.
* `Draft.givenPackage`, `Draft.givenRuntime`: what a draft gives.
* `Draft.CheckedAsGiven`: what a draft gives is what is checked and kept.

## Main results

* `runtimeOf_eq_ok_iff`: references are read exactly as they are written.
* `Draft.freeze_eq_error_iff`: which drafts are refused, and what for.
* `Draft.checkedAsGiven_iff`: when freezing checks what it was given.
-/

namespace ProcessStubs

open Text

/-! ### References -/

/-- A text written `module:Name`, with the name of a package and an identifier. -/
def IsReference (s : String) : Prop :=
  ∃ moduleName typeName, isPackageName moduleName = true ∧ isIdentifier typeName = true ∧
    s = moduleName ++ ":" ++ typeName

/-- A colon cannot stand in an identifier. -/
theorem isIdentifierPart_colon : isIdentifierPart ':' = false := by decide +kernel

/-- The name of a package holds no colon. -/
theorem colon_not_mem_of_isPackageName {s : String} (h : isPackageName s = true) :
    ':' ∉ s.toList := by
  intro hmem
  rcases isSep_or_mem_splitWhere (· == '.') hmem with period | ⟨piece, hpiece, hcolon⟩
  · cases period
  · have usable : isUsableName (String.ofList piece) = true :=
      isUsableName_of_mem_package h (List.mem_map_of_mem hpiece)
    refine not_mem_of_isUsableName usable isIdentifierPart_colon ?_
    rwa [String.toList_ofList]

/-- A reference is cut at its first colon. -/
theorem RuntimeReference.ofString?_append {moduleName : String} (colon : ':' ∉ moduleName.toList)
    (typeName : String) :
    ofString? (moduleName ++ ":" ++ typeName) =
      if isPackageName moduleName && isIdentifier typeName then some ⟨moduleName, typeName⟩
      else none := by
  have chars : (moduleName ++ ":" ++ typeName).toList =
      moduleName.toList ++ ':' :: typeName.toList := by simp
  have inside : ∀ c ∈ moduleName.toList, (c != ':') = true := fun c hc =>
    bne_iff_ne.mpr fun heq => colon (heq ▸ hc)
  have before : (moduleName.toList ++ ':' :: typeName.toList).takeWhile (· != ':') =
      moduleName.toList := by
    rw [List.takeWhile_append_of_pos inside, List.takeWhile_cons_of_neg (by simp),
      List.append_nil]
  have after : (moduleName.toList ++ ':' :: typeName.toList).dropWhile (· != ':') =
      ':' :: typeName.toList := by
    rw [List.dropWhile_append_of_pos inside, List.dropWhile_cons_of_neg (by simp)]
  rw [ofString?]
  simp only [chars, before, after, String.ofList_toList]

/-- A text without a colon refers to nothing. -/
theorem RuntimeReference.ofString?_of_not_mem {s : String} (h : ':' ∉ s.toList) :
    ofString? s = none := by
  have other : ∀ c ∈ s.toList, (c != ':') = true := fun c hc =>
    bne_iff_ne.mpr fun heq => h (heq ▸ hc)
  have rest : s.toList.dropWhile (· != ':') = [] := by
    rw [← List.append_nil s.toList, List.dropWhile_append_of_pos other, List.dropWhile_nil]
  rw [ofString?]
  simp only [rest]

/-- **A reference is read as it is written**, with what stands before its colon and behind it. -/
theorem RuntimeReference.ofString?_eq_some_iff {s : String} {r : RuntimeReference} :
    ofString? s = some r ↔
      isPackageName r.moduleName = true ∧ isIdentifier r.typeName = true ∧
        s = r.moduleName ++ ":" ++ r.typeName := by
  constructor
  · intro h
    by_cases hmem : ':' ∈ s.toList
    · obtain ⟨before, after, chars, colon⟩ := List.eq_append_cons_of_mem hmem
      have cut : s = String.ofList before ++ ":" ++ String.ofList after := by
        rw [← String.toList_inj, chars]
        simp
      rw [cut, ofString?_append (by rwa [String.toList_ofList])] at h
      split at h
      · next valid =>
          cases h
          obtain ⟨package, identifier⟩ := Bool.and_eq_true_iff.mp valid
          exact ⟨package, identifier, cut⟩
      · cases h
    · rw [ofString?_of_not_mem hmem] at h
      cases h
  · rintro ⟨package, identifier, rfl⟩
    rw [ofString?_append (colon_not_mem_of_isPackageName package), package, identifier]
    rfl

/-- **References are read exactly as they are written.** -/
theorem runtimeOf_eq_ok_iff {s : String} {r : RuntimeReference} :
    runtimeOf s = .ok r ↔
      isPackageName r.moduleName = true ∧ isIdentifier r.typeName = true ∧
        s = r.moduleName ++ ":" ++ r.typeName := by
  rw [← RuntimeReference.ofString?_eq_some_iff, runtimeOf]
  cases RuntimeReference.ofString? s <;> simp

/-- A text can be read as a reference exactly if it is one. -/
theorem exists_runtimeOf_iff {s : String} : (∃ r, runtimeOf s = .ok r) ↔ IsReference s := by
  constructor
  · rintro ⟨r, h⟩
    exact ⟨r.moduleName, r.typeName, runtimeOf_eq_ok_iff.mp h⟩
  · rintro ⟨moduleName, typeName, h⟩
    exact ⟨⟨moduleName, typeName⟩, runtimeOf_eq_ok_iff.mpr h⟩

/-- A text that is no reference is refused as what it is. -/
theorem runtimeOf_of_not_isReference {s : String} (h : ¬ IsReference s) :
    runtimeOf s = .error (.invalidRuntime s) := by
  rw [runtimeOf]
  split
  · next r read => exact absurd (exists_runtimeOf_iff.mp ⟨r, by rw [runtimeOf, read]⟩) h
  · rfl

/-- No reference is empty. -/
theorem not_isReference_empty : ¬ IsReference "" := by
  rw [← exists_runtimeOf_iff]
  rintro ⟨r, h⟩
  cases h

/-- The default reference is one. -/
theorem isReference_default : IsReference Settings.defaultRuntime :=
  exists_runtimeOf_iff.mp ⟨_, Settings.runtimeOf_standard⟩

/-! ### What a draft gives -/

namespace Draft

/-- The package that a draft gives, the default if it is not set. -/
def givenPackage (d : Draft) : String := d.packageName.getD Settings.defaultPackage

/-- The reference that a draft gives, the default if it is not set. -/
def givenRuntime (d : Draft) : String := d.runtimeService.getD Settings.defaultRuntime

/-- The reference that freezing uses: the default also if the draft gives an empty text. -/
def usedRuntime (d : Draft) : String :=
  (d.runtimeService.filter (· ≠ "")).getD Settings.defaultRuntime

/-- **What a draft gives is checked**: it is refused because of its settings exactly if the package
or the reference that it gives is none, and otherwise it is frozen with both, unless its patterns
are no entries of a set. -/
structure CheckedAsGiven (d : Draft) (t : FileTree) : Prop where
  refused : (∃ fault, d.freeze t = .error fault ∧ fault ≠ .wrongType) ↔
    ¬ (isPackageName d.givenPackage = true ∧ IsReference d.givenRuntime)
  kept : isPackageName d.givenPackage = true → IsReference d.givenRuntime →
    d.excludePatterns.all Value.isHashable = true →
    ∃ s, d.freeze t = .ok s ∧ s.packageName = d.givenPackage ∧ s.runtimeService = d.givenRuntime

variable {d : Draft} {t : FileTree}

/-- What is used is what is given, but for an empty text. -/
theorem usedRuntime_eq (h : d.runtimeService ≠ some "") : d.usedRuntime = d.givenRuntime := by
  rw [usedRuntime, givenRuntime]
  cases hr : d.runtimeService with
  | none => rfl
  | some reference =>
      have nonempty : reference ≠ "" := fun empty => h (by rw [hr, empty])
      rw [Option.filter_some_pos (by simpa using nonempty)]

/-- For an empty text the default is used. -/
theorem usedRuntime_of_empty (h : d.runtimeService = some "") :
    d.usedRuntime = Settings.defaultRuntime := by
  rw [usedRuntime, h]
  rfl

/-- The steps of freezing, in order. -/
theorem freeze_eq (d : Draft) (t : FileTree) :
    d.freeze t =
      if isPackageName d.givenPackage then
        (runtimeOf d.usedRuntime).bind fun _ =>
          if d.excludePatterns.all Value.isHashable then .ok (d.settings t) else .error .wrongType
      else .error (.invalidPackage d.givenPackage) := by
  rw [freeze]
  change (if !isPackageName d.givenPackage then _ else _) = _
  cases isPackageName d.givenPackage with
  | false => rfl
  | true =>
      change (runtimeOf d.usedRuntime).bind _ = (runtimeOf d.usedRuntime).bind _
      cases runtimeOf d.usedRuntime with
      | error fault => rfl
      | ok runtime =>
          change (if !d.excludePatterns.all Value.isHashable then _ else _) =
            if d.excludePatterns.all Value.isHashable then _ else _
          cases d.excludePatterns.all Value.isHashable <;> rfl

/-- **Which drafts are refused**, and what for: first for the package, then for the reference that
is used, then for their patterns. -/
theorem freeze_eq_error_iff {fault : SettingsFault} :
    d.freeze t = .error fault ↔
      isPackageName d.givenPackage = false ∧ fault = .invalidPackage d.givenPackage ∨
      isPackageName d.givenPackage = true ∧ ¬ IsReference d.usedRuntime ∧
        fault = .invalidRuntime d.usedRuntime ∨
      isPackageName d.givenPackage = true ∧ IsReference d.usedRuntime ∧
        d.excludePatterns.all Value.isHashable = false ∧ fault = .wrongType := by
  rw [freeze_eq]
  cases package : isPackageName d.givenPackage with
  | false => simp [@eq_comm _ fault]
  | true =>
      by_cases reference : IsReference d.usedRuntime
      · obtain ⟨r, read⟩ := exists_runtimeOf_iff.mpr reference
        cases hashable : d.excludePatterns.all Value.isHashable <;>
          simp [read, reference, Except.bind, @eq_comm _ fault]
      · simp [runtimeOf_of_not_isReference reference, reference, Except.bind, @eq_comm _ fault]

/-- A draft is refused because of its settings exactly if its package is none or the reference that
is used is none. -/
theorem refused_iff :
    (∃ fault, d.freeze t = .error fault ∧ fault ≠ .wrongType) ↔
      ¬ (isPackageName d.givenPackage = true ∧ IsReference d.usedRuntime) := by
  constructor
  · rintro ⟨fault, refused, other⟩ ⟨package, reference⟩
    rcases freeze_eq_error_iff.mp refused with ⟨bad, -⟩ | ⟨-, bad, -⟩ | ⟨-, -, -, rfl⟩
    · rw [package] at bad
      cases bad
    · exact bad reference
    · exact other rfl
  · intro invalid
    cases package : isPackageName d.givenPackage with
    | false => exact ⟨_, freeze_eq_error_iff.mpr (.inl ⟨package, rfl⟩), nofun⟩
    | true =>
        have bad : ¬ IsReference d.usedRuntime := fun reference => invalid ⟨package, reference⟩
        exact ⟨_, freeze_eq_error_iff.mpr (.inr (.inl ⟨package, bad, rfl⟩)), nofun⟩

/-- With a package and a reference that are one, a draft is frozen with both, unless its patterns
are no entries of a set. -/
theorem exists_freeze_eq_ok (package : isPackageName d.givenPackage = true)
    (reference : IsReference d.usedRuntime)
    (hashable : d.excludePatterns.all Value.isHashable = true) :
    ∃ s, d.freeze t = .ok s ∧ s.packageName = d.givenPackage ∧
      s.runtimeService = d.usedRuntime :=
  ⟨d.settings t,
    freeze_eq_ok_iff.mpr ⟨package, exists_runtimeOf_iff.mpr reference, hashable, rfl⟩, rfl, rfl⟩

/-- **When freezing checks what it was given**: unless an empty text is given as the reference and
the package is one. An empty text is frozen as no text is. -/
theorem checkedAsGiven_iff (d : Draft) (t : FileTree) :
    (d.CheckedAsGiven t ↔ ¬ (d.runtimeService = some "" ∧ isPackageName d.givenPackage = true)) ∧
    { d with runtimeService := some "" }.freeze t =
      { d with runtimeService := none }.freeze t := by
  refine ⟨⟨?_, fun regular => ?_⟩, ?_⟩
  · rintro checked ⟨unset, package⟩
    have given : d.givenRuntime = "" := by rw [givenRuntime, unset, Option.getD_some]
    have used : IsReference d.usedRuntime := by
      rw [usedRuntime_of_empty unset]
      exact isReference_default
    -- What is given is no reference, so the draft would have to be refused.
    have refused := checked.refused.mpr fun valid =>
      not_isReference_empty (given ▸ valid.2)
    exact refused_iff.mp refused ⟨package, used⟩
  · by_cases unset : d.runtimeService = some ""
    · have bad : ¬ isPackageName d.givenPackage = true := fun package => regular ⟨unset, package⟩
      refine ⟨?_, fun package => absurd package bad⟩
      rw [refused_iff]
      exact ⟨fun _ valid => bad valid.1, fun _ valid => bad valid.1⟩
    · have used := usedRuntime_eq unset
      refine ⟨?_, ?_⟩
      · rw [refused_iff, used]
      · rw [← used]
        exact exists_freeze_eq_ok
  · rw [freeze_eq, freeze_eq]
    rfl

/-- A draft in which nothing is set but an empty text as the reference. -/
def withEmptyRuntime : Draft := { empty with runtimeService := some "" }

/-- It gives no reference, and is not refused. -/
theorem not_checkedAsGiven_withEmptyRuntime : ¬ withEmptyRuntime.CheckedAsGiven ⟨[], []⟩ := by
  intro checked
  obtain ⟨fault, refused, -⟩ := checked.refused.mpr fun valid => not_isReference_empty valid.2
  have frozen : withEmptyRuntime.freeze ⟨[], []⟩ = .ok Settings.standard := by rfl
  rw [frozen] at refused
  cases refused

end Draft

end ProcessStubs
