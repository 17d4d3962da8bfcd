import ProcessStubs.Proofs.KeyedList
import ProcessStubs.Proofs.SettingFiles

/-!
# Layers of settings

A draft is made of three layers: the defaults, the table of a setting file, and overrides. Each
layer takes its fields into the draft one by one. A field has one place in the draft and leaves all
others, so what a layer does to a place depends on the one field of that place, whatever the order
of the fields is; only warnings come in that order.

Overrides of the right types are taken like the fields of a table, from another directory, and they
alone can ask for a preview.

## Main definitions

* `FieldType`: what the fields of a setting file hold.
* `Draft.Takes`: what a layer does to each place of a draft.
* `Draft.Layered`: the draft of all layers, place by place.

## Main results

* `Draft.takes_applyField`: one field.
* `Draft.takes_through`: the fields of a layer.
* `Draft.loadMerged_layers`: all layers.
-/

namespace ProcessStubs

open Draft

/-! ### Fields -/

/-- What a field of a setting file can hold. -/
inductive FieldType where
  | path
  | text
  | patterns
  | policy
  | truth
deriving Repr, DecidableEq

/-- What the field of a key holds, if it is one of a setting file. -/
def fieldType? : String → Option FieldType
  | "source_dir" | "output_dir" => some .path
  | "package_name" | "runtime_service" => some .text
  | "exclude_patterns" => some .patterns
  | "collision_policy" => some .policy
  | "write_init_files" => some .truth
  | _ => none

namespace FieldType

/-- Whether a value is of a type. -/
def holds : FieldType → Value → Bool
  | path, v | text, v => v.text?.isSome
  | patterns, v => v.texts?.isSome
  | policy, v => (v.text?.bind CollisionPolicy.ofName?).isSome
  | truth, v => v.boolean?.isSome

/-- What is said of a value that is not of the type. -/
def complaint (key : String) (v : Value) : FieldType → String
  | path | text => notString key v
  | patterns => "'exclude_patterns' must be a list of strings"
  | policy => ""
  | truth => "'write_init_files' must be a boolean"

end FieldType

/-- What is said of a field that is unknown or of the wrong type. A policy that is none is not
warned of: it is a fault. -/
def fieldComplaint? (key : String) (v : Value) : Option String :=
  match fieldType? key with
  | none => some ("Unknown config key '" ++ key ++ "' ignored")
  | some .policy => none
  | some type => if type.holds v then none else some (type.complaint key v)

/-- The warnings about the fields of a file, in order. -/
def fieldWarnings (file : Path) (fields : List (String × Value)) : List Diagnostic :=
  fields.filterMap fun (key, v) =>
    (fieldComplaint? key v).map fun message => ⟨.warning, message, some file⟩

/-- The real path of a value that is a path, taken from a directory. -/
def pathIn (t : FileTree) (directory : Path) (v : Value) : Option Path :=
  v.text?.bind fun s => (realPath t (directory / Path.ofString s)).toOption

/-- The policy in a value. -/
def policyIn (v : Value) : Option CollisionPolicy := v.text?.bind CollisionPolicy.ofName?

/-- A field whose path has a real path, if it holds one. -/
def Resolves (t : FileTree) (directory : Path) (key : String) (v : Value) : Prop :=
  fieldType? key = some .path → v.text?.isSome → (pathIn t directory v).isSome

/-- A field that can be taken: its path has a real path, its policy is one. -/
def CanTake (t : FileTree) (directory : Path) (key : String) (v : Value) : Prop :=
  Resolves t directory key v ∧ (fieldType? key = some .policy → (policyIn v).isSome)

/-- The path in a value is the real path of the text in it. -/
theorem pathIn_eq_some_iff {t : FileTree} {directory p : Path} {v : Value} :
    pathIn t directory v = some p ↔
      ∃ s, v.text? = some s ∧ realPath t (directory / Path.ofString s) = .ok p := by
  have real (s : String) : (realPath t (directory / Path.ofString s)).toOption = some p ↔
      realPath t (directory / Path.ofString s) = .ok p := by
    cases realPath t (directory / Path.ofString s) <;> simp [Except.toOption]
  simp only [pathIn, Option.bind_eq_some_iff, real]

/-- What an override of a key holds, if there is one. -/
def overrideType? (key : String) : Option FieldType :=
  if key = "dry_run" then some .truth else fieldType? key

/-- Overrides of the right types: under each key, a value of its type or nothing. -/
def Overrides.WellTyped (o : Overrides) : Prop :=
  ∀ key type v, overrideType? key = some type → o.given? key = some v → type.holds v = true

/-- Overrides each of whose paths has a real path. -/
def Overrides.Resolve (t : FileTree) (directory : Path) (o : Overrides) : Prop :=
  ∀ key v, fieldType? key = some .path → o.given? key = some v → (pathIn t directory v).isSome

namespace Draft

/-- **What a layer does to a draft**, place by place. The paths of the layer are taken from
`directory`, and warnings are about `file`. -/
structure Takes (t : FileTree) (file directory : Path) (fields : List (String × Value))
    (d d' : Draft) : Prop where
  sourceDirectory : d'.sourceDirectory =
    ((Assoc.get? "source_dir" fields).bind (pathIn t directory)).or d.sourceDirectory
  outputDirectory : d'.outputDirectory =
    ((Assoc.get? "output_dir" fields).bind (pathIn t directory)).or d.outputDirectory
  packageName : d'.packageName =
    ((Assoc.get? "package_name" fields).bind Value.text?).or d.packageName
  runtimeService : d'.runtimeService =
    ((Assoc.get? "runtime_service" fields).bind Value.text?).or d.runtimeService
  excludePatterns : d'.excludePatterns = d.excludePatterns ++
    (((Assoc.get? "exclude_patterns" fields).bind Value.texts?).getD []).map .text
  collisionPolicy : d'.collisionPolicy =
    ((Assoc.get? "collision_policy" fields).bind policyIn).or d.collisionPolicy
  packageMarkers : d'.packageMarkers =
    ((Assoc.get? "write_init_files" fields).bind Value.boolean?).or d.packageMarkers
  dryRun : d'.dryRun = d.dryRun
  configFiles : d'.configFiles = d.configFiles
  diagnostics : d'.diagnostics = d.diagnostics ++ fieldWarnings file fields

variable {t : FileTree} {file directory : Path} {key : String} {v : Value} {d d' d'' : Draft}

/-- The value of a key among no field but one is that field's, if it is of the key. -/
theorem bind_get?_singleton {α : Type} {k : String} {read : Value → Option α}
    (h : key = k → read v = none) : (Assoc.get? k [(key, v)]).bind read = none := by
  by_cases hk : key = k
  · simpa [Assoc.get?, hk] using h hk
  · simp [Assoc.get?, hk]

/-- A value that is complained of is not of the type of its field, and this is no policy. -/
theorem holds_eq_false {message : String} {type : FieldType}
    (h : fieldComplaint? key v = some message) (known : fieldType? key = some type) :
    type ≠ .policy ∧ type.holds v = false := by
  rw [fieldComplaint?, known] at h
  cases type <;> simp_all

/-- A field that is complained of changes no place. -/
theorem takes_warn {message : String} (h : fieldComplaint? key v = some message) :
    Takes t file directory [(key, v)] d (d.warn file message) := by
  have path (hk : fieldType? key = some .path) : pathIn t directory v = none := by
    have unheld := (holds_eq_false h hk).2
    simp_all [FieldType.holds, pathIn]
  have text (hk : fieldType? key = some .text) : v.text? = none := by
    simpa [FieldType.holds] using (holds_eq_false h hk).2
  have patterns (hk : fieldType? key = some .patterns) : v.texts? = none := by
    simpa [FieldType.holds] using (holds_eq_false h hk).2
  have truth (hk : fieldType? key = some .truth) : v.boolean? = none := by
    simpa [FieldType.holds] using (holds_eq_false h hk).2
  have policy (hk : fieldType? key = some .policy) : policyIn v = none :=
    absurd rfl (holds_eq_false h hk).1
  constructor
  case sourceDirectory | outputDirectory =>
    rw [bind_get?_singleton]
    · rfl
    · rintro rfl
      exact path rfl
  case packageName | runtimeService =>
    rw [bind_get?_singleton]
    · rfl
    · rintro rfl
      exact text rfl
  case excludePatterns =>
    rw [bind_get?_singleton]
    · simp [warn]
    · rintro rfl
      exact patterns rfl
  case collisionPolicy =>
    rw [bind_get?_singleton]
    · rfl
    · rintro rfl
      exact policy rfl
  case packageMarkers =>
    rw [bind_get?_singleton]
    · rfl
    · rintro rfl
      exact truth rfl
  case dryRun | configFiles => rfl
  case diagnostics => simp [warn, fieldWarnings, h]

/-- **One field**: it is taken if it can be, and has its own place. -/
theorem takes_applyField (file : Path) (h : CanTake t directory key v) :
    ∃ d', applyField t file directory key v d = .ok d' ∧
      Takes t file directory [(key, v)] d d' := by
  obtain ⟨path, policy⟩ := h
  unfold applyField
  split
  case h_1 | h_2 =>
    split
    case h_1 s hv =>
      obtain ⟨p, hp⟩ := Option.isSome_iff_exists.mp (path rfl (by rw [hv]; rfl))
      obtain ⟨s', hs', real⟩ := pathIn_eq_some_iff.mp hp
      cases hs'.symm.trans hv
      refine ⟨_, by rw [real, ok_bind]; rfl, ?_⟩
      constructor <;> simp [Assoc.get?, fieldWarnings, fieldComplaint?, fieldType?,
        FieldType.holds, hv, hp]
    case h_2 hv =>
      exact ⟨_, rfl, takes_warn (by
        simp [fieldComplaint?, fieldType?, FieldType.holds, FieldType.complaint, hv])⟩
  case h_3 | h_4 | h_5 | h_7 =>
    split
    case h_1 hv =>
      refine ⟨_, rfl, ?_⟩
      constructor <;> simp [Assoc.get?, fieldWarnings, fieldComplaint?, fieldType?,
        FieldType.holds, hv]
    case h_2 hv =>
      exact ⟨_, rfl, takes_warn (by
        simp [fieldComplaint?, fieldType?, FieldType.holds, FieldType.complaint, hv])⟩
  case h_6 =>
    obtain ⟨p, hp⟩ := Option.isSome_iff_exists.mp (policy rfl)
    rw [policyIn] at hp
    rw [hp]
    refine ⟨_, rfl, ?_⟩
    constructor <;> simp [Assoc.get?, fieldWarnings, fieldComplaint?, fieldType?, policyIn, hp]
  case h_8 => exact ⟨_, rfl, takes_warn (by simp_all [fieldComplaint?, fieldType?])⟩

/-- The fields that are paths. -/
theorem eq_of_fieldType?_path (h : fieldType? key = some .path) :
    key = "source_dir" ∨ key = "output_dir" := by
  unfold fieldType? at h
  split at h <;> simp_all

/-- The field that is a policy. -/
theorem eq_of_fieldType?_policy (h : fieldType? key = some .policy) :
    key = "collision_policy" := by
  unfold fieldType? at h
  split at h <;> simp_all

/-- A field that was taken can be. -/
theorem canTake_of_applyField (h : applyField t file directory key v d = .ok d') :
    CanTake t directory key v := by
  constructor
  · intro known text
    obtain ⟨s, hv⟩ := Option.isSome_iff_exists.mp text
    rcases eq_of_fieldType?_path known with rfl | rfl
    all_goals
      simp only [applyField, hv] at h
      obtain ⟨p, hp, -⟩ := bind_eq_ok_iff.mp h
      exact Option.isSome_iff_exists.mpr ⟨p, pathIn_eq_some_iff.mpr ⟨s, hv, hp⟩⟩
  · intro known
    cases eq_of_fieldType?_policy known
    simp only [applyField] at h
    split at h
    · next p hp => exact Option.isSome_iff_exists.mpr ⟨p, hp⟩
    · cases h

/-! ### Layers -/

/-- A key is that of the first field and of none after it, or is looked for in those after it. -/
theorem get?_cons_cases {rest : List (String × Value)} (fresh : key ∉ Assoc.keys rest)
    (v : Value) (k : String) :
    (Assoc.get? k rest = none ∧ Assoc.get? k ((key, v) :: rest) = Assoc.get? k [(key, v)]) ∨
    (Assoc.get? k [(key, v)] = none ∧ Assoc.get? k ((key, v) :: rest) = Assoc.get? k rest) := by
  by_cases hk : key = k
  · subst hk
    have absent : Assoc.get? key rest = none := by
      rwa [← Option.not_isSome_iff_eq_none, Assoc.isSome_get?]
    exact .inl ⟨absent, by simp [Assoc.get?]⟩
  · exact .inr ⟨by simp [Assoc.get?, hk], by simp [Assoc.get?, hk]⟩

/-- A value is read from the first field or from those after it, or stays. -/
theorem or_bind_get?_cons {α : Type} {k : String} {read : Value → Option α}
    {rest : List (String × Value)} (fresh : key ∉ Assoc.keys rest) (x : Option α) :
    ((Assoc.get? k ((key, v) :: rest)).bind read).or x =
      ((Assoc.get? k rest).bind read).or (((Assoc.get? k [(key, v)]).bind read).or x) := by
  rcases get?_cons_cases fresh v k with ⟨absent, same⟩ | ⟨absent, same⟩
  · simp [absent, same]
  · simp [absent, same]

/-- **A field and those after it** are taken together. -/
theorem Takes.cons {rest : List (String × Value)} (fresh : key ∉ Assoc.keys rest)
    (first : Takes t file directory [(key, v)] d d') (later : Takes t file directory rest d' d'') :
    Takes t file directory ((key, v) :: rest) d d'' where
  sourceDirectory := by rw [later.sourceDirectory, first.sourceDirectory, or_bind_get?_cons fresh]
  outputDirectory := by rw [later.outputDirectory, first.outputDirectory, or_bind_get?_cons fresh]
  packageName := by rw [later.packageName, first.packageName, or_bind_get?_cons fresh]
  runtimeService := by rw [later.runtimeService, first.runtimeService, or_bind_get?_cons fresh]
  collisionPolicy := by
    rw [later.collisionPolicy, first.collisionPolicy, or_bind_get?_cons fresh]
  packageMarkers := by rw [later.packageMarkers, first.packageMarkers, or_bind_get?_cons fresh]
  dryRun := later.dryRun.trans first.dryRun
  configFiles := later.configFiles.trans first.configFiles
  excludePatterns := by
    rw [later.excludePatterns, first.excludePatterns]
    rcases get?_cons_cases fresh v "exclude_patterns" with ⟨absent, same⟩ | ⟨absent, same⟩
    · simp [absent, same]
    · simp [absent, same]
  diagnostics := by
    rw [later.diagnostics, first.diagnostics]
    simp only [fieldWarnings, List.append_assoc, List.filterMap_cons, List.filterMap_nil]
    split <;> rfl

/-- The fields of a layer that can all be taken. -/
def AllTake (t : FileTree) (directory : Path) (fields : List (String × Value)) : Prop :=
  ∀ x ∈ fields, CanTake t directory x.1 x.2

/-- **The fields of a layer** are all taken, whatever their order, if each of them can be. -/
theorem takes_through (file : Path) {fields : List (String × Value)}
    (distinct : (Assoc.keys fields).Nodup) (h : AllTake t directory fields) :
    ∃ d', d.through (fields.map fun x => applyField t file directory x.1 x.2) = (d', none) ∧
      Takes t file directory fields d d' := by
  induction fields generalizing d with
  | nil => exact ⟨d, rfl, by constructor <;> simp [Assoc.get?, fieldWarnings]⟩
  | cons x rest ih =>
      rw [Assoc.keys_cons, List.nodup_cons] at distinct
      obtain ⟨hx, hrest⟩ := List.forall_mem_cons.mp h
      obtain ⟨d₁, taken, first⟩ := takes_applyField (d := d) file hx
      obtain ⟨d₂, through, later⟩ := ih (d := d₁) distinct.2 hrest
      exact ⟨d₂, by simpa [Draft.through, taken] using through, first.cons distinct.1 later⟩

/-- Steps that all succeed do so each from some draft. -/
theorem exists_of_through {steps : List (Draft → Except SetupFault Draft)}
    (h : (d.through steps).2 = none) : ∀ step ∈ steps, ∃ d₁ d₂, step d₁ = .ok d₂ := by
  induction steps generalizing d with
  | nil => simp
  | cons step rest ih =>
      rw [Draft.through] at h
      split at h
      · next d' taken => exact List.forall_mem_cons.mpr ⟨⟨d, d', taken⟩, ih h⟩
      · cases h

/-- Fields that were taken can all be. -/
theorem allTake_of_through {fields : List (String × Value)}
    (h : (d.through (fields.map fun x => applyField t file directory x.1 x.2)).2 = none) :
    AllTake t directory fields := by
  intro x hx
  obtain ⟨d₁, d₂, taken⟩ := exists_of_through h _ (List.mem_map_of_mem hx)
  exact canTake_of_applyField taken

/-! ### Overrides -/

/-- **What overrides do to a draft**, place by place. -/
structure Overridden (t : FileTree) (directory : Path) (o : Overrides) (d d' : Draft) :
    Prop where
  sourceDirectory : d'.sourceDirectory =
    ((o.given? "source_dir").bind (pathIn t directory)).or d.sourceDirectory
  outputDirectory : d'.outputDirectory =
    ((o.given? "output_dir").bind (pathIn t directory)).or d.outputDirectory
  packageName : d'.packageName = ((o.given? "package_name").bind Value.text?).or d.packageName
  runtimeService : d'.runtimeService =
    ((o.given? "runtime_service").bind Value.text?).or d.runtimeService
  excludePatterns : d'.excludePatterns = d.excludePatterns ++
    (((o.given? "exclude_patterns").bind Value.texts?).getD []).map .text
  collisionPolicy : d'.collisionPolicy =
    ((o.given? "collision_policy").bind policyIn).or d.collisionPolicy
  packageMarkers : d'.packageMarkers =
    ((o.given? "write_init_files").bind Value.boolean?).or d.packageMarkers
  dryRun : d'.dryRun = ((o.given? "dry_run").bind Value.boolean?).or d.dryRun
  configFiles : d'.configFiles = d.configFiles
  diagnostics : d'.diagnostics = d.diagnostics

variable {o : Overrides} {base : Path}

/-- A step for an override that is not given, or is taken. -/
theorem override_eq_ok {take : Value → Draft → Except SetupFault Draft}
    (absent : o.given? key = none → d' = d)
    (given : ∀ v, o.given? key = some v → take v d = .ok d') :
    override o key take d = .ok d' := by
  rw [override]
  split
  · next v hv => exact given v hv
  · next none => rw [absent none]

/-- The items of a list of texts are these texts. -/
theorem eq_map_of_texts? {items : List Value} {texts : List String}
    (h : Value.texts? (.list items) = some texts) : items = texts.map .text := by
  rw [Value.texts?] at h
  induction items generalizing texts with
  | nil =>
      cases h
      rfl
  | cons x rest ih =>
      rw [List.mapM_cons] at h
      obtain ⟨s, hs, h⟩ := Option.bind_eq_some_iff.mp h
      obtain ⟨later, hlater, h⟩ := Option.bind_eq_some_iff.mp h
      cases h
      cases x <;> cases hs
      rw [ih hlater, List.map_cons]

/-- A step for an override that has a place of its own, if the override can be taken. -/
theorem override_place {α : Type} {key : String} {take : Value → Draft → Except SetupFault Draft}
    (read : Value → Option α) (place : Draft → Option α) (put : Option α → Draft → Draft)
    (same : ∀ d, put (place d) d = d)
    (taken : ∀ v d, o.given? key = some v →
      ∃ x, read v = some x ∧ take v d = .ok (put (some x) d)) (d : Draft) :
    override o key take d = .ok (put (((o.given? key).bind read).or (place d)) d) := by
  apply override_eq_ok
  · intro absent
    rw [absent, Option.bind_none, Option.none_or, same]
  · intro v hv
    obtain ⟨x, hx, ok⟩ := taken v d hv
    rw [hv, Option.bind_some, hx, ok]
    rfl

/-- An override that is a path. -/
theorem override_path {key : String} (known : fieldType? key = some .path)
    (resolve : o.Resolve t base)
    (place : Draft → Option Path) (put : Option Path → Draft → Draft)
    (same : ∀ d, put (place d) d = d) :
    override o key (fun v d => do
      let p ← overridePath t base v
      return put (some p) d) d =
      .ok (put (((o.given? key).bind (pathIn t base)).or (place d)) d) := by
  refine override_place (pathIn t base) place put same ?_ d
  intro v d hv
  obtain ⟨p, hp⟩ := Option.isSome_iff_exists.mp (resolve key v known hv)
  obtain ⟨s, hs, real⟩ := pathIn_eq_some_iff.mp hp
  refine ⟨p, hp, ?_⟩
  simp only [overridePath, hs, real, ok_bind]
  rfl

/-- An override that is a text. -/
theorem override_text {key : String} (known : overrideType? key = some .text)
    (typed : o.WellTyped) (place : Draft → Option String) (put : Option String → Draft → Draft)
    (same : ∀ d, put (place d) d = d) :
    override o key (fun v d => .ok (put (some v.shown) d)) d =
      .ok (put (((o.given? key).bind Value.text?).or (place d)) d) := by
  refine override_place Value.text? place put same ?_ d
  intro v d hv
  have holds := typed key .text v known hv
  cases v <;> cases holds
  exact ⟨_, rfl, rfl⟩

/-- An override that is a truth value. -/
theorem override_truth {key : String} (known : overrideType? key = some .truth)
    (typed : o.WellTyped) (place : Draft → Option Bool) (put : Option Bool → Draft → Draft)
    (same : ∀ d, put (place d) d = d) :
    override o key (fun v d => .ok (put (some v.isTrue) d)) d =
      .ok (put (((o.given? key).bind Value.boolean?).or (place d)) d) := by
  refine override_place Value.boolean? place put same ?_ d
  intro v d hv
  have holds := typed key .truth v known hv
  cases v <;> cases holds
  exact ⟨_, rfl, rfl⟩

/-- The policy of an override of the right type. -/
theorem exists_policy (typed : o.WellTyped) (hv : o.given? "collision_policy" = some v) :
    ∃ p, policyIn v = some p ∧ CollisionPolicy.ofName? v.shown = some p := by
  have holds := typed "collision_policy" .policy v rfl hv
  rw [FieldType.holds] at holds
  obtain ⟨p, hp⟩ := Option.isSome_iff_exists.mp holds
  obtain ⟨s, hs, found⟩ := Option.bind_eq_some_iff.mp hp
  have shown : v.shown = s := by
    cases v <;> cases hs
    rfl
  exact ⟨p, hp, shown ▸ found⟩

/-- The override that is a list of patterns. An empty one is left out, and adds nothing. -/
theorem override_patterns (typed : o.WellTyped) :
    override o "exclude_patterns" (fun v d => do
      if v.isTrue then
        let items ← overrideItems v
        return { d with excludePatterns := d.excludePatterns ++ items }
      else return d) d =
      .ok { d with excludePatterns := d.excludePatterns ++
        (((o.given? "exclude_patterns").bind Value.texts?).getD []).map .text } := by
  apply override_eq_ok
  · intro absent
    simp [absent]
  · intro v hv
    have holds := typed "exclude_patterns" .patterns v rfl hv
    obtain ⟨texts, htexts⟩ := Option.isSome_iff_exists.mp holds
    cases v with
    | list items =>
        have same := eq_map_of_texts? htexts
        simp only [hv, Option.bind_some, htexts, Option.getD_some, ← same, Value.isTrue]
        cases items with
        | nil => simp [pure, Except.pure]
        | cons => rfl
    | _ => cases htexts

/-- A step that succeeds, and those after it. -/
theorem through_of_ok {step : Draft → Except SetupFault Draft}
    {steps : List (Draft → Except SetupFault Draft)} {result : Draft × Option SetupFault}
    (first : step d = .ok d') (later : d'.through steps = result) :
    d.through (step :: steps) = result := by
  rw [through, first]
  exact later

/-- **Overrides of the right types** are all taken if their paths have real paths. -/
theorem overridden_through (typed : o.WellTyped) (resolve : o.Resolve t base) :
    ∃ d', d.through (overrideSteps t base o) = (d', none) ∧ Overridden t base o d d' := by
  refine ⟨_,
    through_of_ok (override_path rfl resolve (·.sourceDirectory)
      (fun x d => { d with sourceDirectory := x }) fun _ => rfl) <|
    through_of_ok (override_path rfl resolve (·.outputDirectory)
      (fun x d => { d with outputDirectory := x }) fun _ => rfl) <|
    through_of_ok (override_text rfl typed (·.packageName)
      (fun x d => { d with packageName := x }) fun _ => rfl) <|
    through_of_ok (override_text rfl typed (·.runtimeService)
      (fun x d => { d with runtimeService := x }) fun _ => rfl) <|
    through_of_ok (override_patterns typed) <|
    through_of_ok (override_place policyIn (·.collisionPolicy)
      (fun x d => { d with collisionPolicy := x }) (fun _ => rfl) ?_ _) <|
    through_of_ok (override_truth rfl typed (·.packageMarkers)
      (fun x d => { d with packageMarkers := x }) fun _ => rfl) <|
    through_of_ok (override_truth rfl typed (·.dryRun)
      (fun x d => { d with dryRun := x }) fun _ => rfl) rfl, ?_⟩
  · intro v d hv
    obtain ⟨p, hp, found⟩ := exists_policy typed hv
    exact ⟨p, hp, by simp only [found]⟩
  · constructor <;> rfl

/-- An override whose path was taken has a real path. -/
theorem isSome_pathIn_of_override {key : String} (put : Path → Draft → Draft)
    (h : override o key (fun v d => do
      let p ← overridePath t base v
      return put p d) d = .ok d') (hv : o.given? key = some v) : (pathIn t base v).isSome := by
  simp only [override, hv] at h
  obtain ⟨p, hp, -⟩ := bind_eq_ok_iff.mp h
  rw [overridePath] at hp
  split at hp
  · next s hs => exact Option.isSome_iff_exists.mpr ⟨p, pathIn_eq_some_iff.mpr ⟨s, hs, hp⟩⟩
  · cases hp

/-- Overrides that were taken have real paths. -/
theorem resolve_of_through (h : (d.through (overrideSteps t base o)).2 = none) :
    o.Resolve t base := by
  intro key v known hv
  have taken := exists_of_through h
  simp only [overrideSteps, List.forall_mem_cons] at taken
  obtain ⟨⟨d₁, d₂, source⟩, ⟨d₃, d₄, output⟩, -⟩ := taken
  rcases eq_of_fieldType?_path known with rfl | rfl
  · exact isSome_pathIn_of_override (fun p d => { d with sourceDirectory := some p }) source hv
  · exact isSome_pathIn_of_override (fun p d => { d with outputDirectory := some p }) output hv

end Draft

/-! ### All layers -/

/-- A setting file that is used: its path, the real path of its directory, and what is loaded. -/
structure SettingSource where
  file : Path
  directory : Path
  loaded : LoadedFields

namespace SettingSource

/-- A file whose fields are a table: its keys are distinct. A policy in it is one. -/
structure Sound (s : SettingSource) : Prop where
  distinct : (Assoc.keys s.loaded.fields).Nodup
  policy : ∀ v, ("collision_policy", v) ∈ s.loaded.fields → (policyIn v).isSome

/-- Files that differ in the order of their fields alone. -/
structure Reordered (s s' : SettingSource) : Prop where
  file : s'.file = s.file
  directory : s'.directory = s.directory
  diagnostics : s'.loaded.diagnostics = s.loaded.diagnostics
  fields : s.loaded.fields.Perm s'.loaded.fields

/-- What a file says under a key, if it is of the right type. -/
def said? {α : Type} (s : SettingSource) (key : String) (read : Value → Option α) : Option α :=
  (Assoc.get? key s.loaded.fields).bind read

/-- The warnings about a file and its fields, those of the loader first. -/
def diagnostics (s : SettingSource) : List Diagnostic :=
  s.loaded.diagnostics ++ fieldWarnings s.file s.loaded.fields

end SettingSource

namespace Draft

/-- The setting file that is used, if one is named or found. -/
inductive Found (t : FileTree) (configFile : Option Path) (base : Path) :
    Option SettingSource → Prop
  | nothing {log : List LogEntry} :
      configFile = none → findSettingFile t base = .ok (none, log) → Found t configFile base none
  | file {file real : Path} {loaded : LoadedFields} :
      configFile = some file ∨
        configFile = none ∧ (∃ log, findSettingFile t base = .ok (some file, log)) →
      loadSettingFields t file = .ok loaded → realPath t file = .ok real →
      Found t configFile base (some ⟨file, real.parent, loaded⟩)

/-- **What the layers are made from**: the directory of the defaults, the one that the paths of
overrides are taken from, and the setting file. -/
structure Origin (t : FileTree) (configFile directory : Option Path) (base here : Path)
    (source : Option SettingSource) : Prop where
  found_base : baseOf t directory = .ok base
  found_here : baseOf t (some base) = .ok here
  found_source : Found t configFile base source

/-- All paths of the layers have real paths. -/
def Resolvable (t : FileTree) (here : Path) (source : Option SettingSource) (o : Overrides) :
    Prop :=
  (∀ s ∈ source, ∀ x ∈ s.loaded.fields, Resolves t s.directory x.1 x.2) ∧ o.Resolve t here

/-- **The layers of one setting**: the override if there is one, or else what the file says in the
right type, or else the default. -/
def layered {α : Type} (override file : Option α) (default : α) : α :=
  override.getD (file.getD default)

/-- **The draft of all layers**, place by place. -/
structure Layered (t : FileTree) (base here : Path) (source : Option SettingSource)
    (o : Overrides) (d : Draft) : Prop where
  sourceDirectory : d.sourceDirectory = some (layered
    ((o.given? "source_dir").bind (pathIn t here))
    (source.bind fun s => s.said? "source_dir" (pathIn t s.directory))
    (base / Settings.defaultSource))
  outputDirectory : d.outputDirectory = some (layered
    ((o.given? "output_dir").bind (pathIn t here))
    (source.bind fun s => s.said? "output_dir" (pathIn t s.directory))
    (base / Settings.defaultOutput))
  packageName : d.packageName = some (layered
    ((o.given? "package_name").bind Value.text?)
    (source.bind fun s => s.said? "package_name" Value.text?)
    Settings.defaultPackage)
  runtimeService : d.runtimeService = some (layered
    ((o.given? "runtime_service").bind Value.text?)
    (source.bind fun s => s.said? "runtime_service" Value.text?)
    Settings.defaultRuntime)
  excludePatterns : d.excludePatterns =
    ((source.bind fun s => s.said? "exclude_patterns" Value.texts?).getD []).map .text ++
      (((o.given? "exclude_patterns").bind Value.texts?).getD []).map .text
  collisionPolicy : d.collisionPolicy = some (layered
    ((o.given? "collision_policy").bind policyIn)
    (source.bind fun s => s.said? "collision_policy" policyIn)
    .warn)
  packageMarkers : d.packageMarkers = some (layered
    ((o.given? "write_init_files").bind Value.boolean?)
    (source.bind fun s => s.said? "write_init_files" Value.boolean?)
    true)
  dryRun : d.dryRun = some (((o.given? "dry_run").bind Value.boolean?).getD false)
  configFiles : d.configFiles = (source.map (·.file)).toList
  diagnostics : d.diagnostics = (source.map (·.diagnostics)).getD []

/-- Drafts that are equal but for the order of the warnings about fields, and for the log. -/
structure SameButOrder (loader : List Diagnostic) (d d' : Draft) : Prop where
  others : { d with diagnostics := d'.diagnostics, log := d'.log } = d'
  warnings : ∃ w w', d.diagnostics = loader ++ w ∧ d'.diagnostics = loader ++ w' ∧ w.Perm w'

variable {t : FileTree} {file base here : Path} {configFile directory? : Option Path}
  {source : Option SettingSource} {o : Overrides} {d d' : Draft}

/-- The defaults are the draft without a file and overrides. -/
theorem layered_defaults (log : List LogEntry) :
    Layered t base here none [] { defaults base with log := log } := by
  constructor <;> rfl

/-- The draft of a file and no overrides, from what the fields of the file have done. -/
theorem layered_of_takes {s : SettingSource} {log : List LogEntry}
    (taken : Takes t s.file s.directory s.loaded.fields { defaults base with
      diagnostics := s.loaded.diagnostics, configFiles := [s.file], log := log } d) :
    Layered t base here (some s) [] d where
  sourceDirectory := by
    rw [taken.sourceDirectory]
    exact Option.or_some
  outputDirectory := by
    rw [taken.outputDirectory]
    exact Option.or_some
  packageName := by
    rw [taken.packageName]
    exact Option.or_some
  runtimeService := by
    rw [taken.runtimeService]
    exact Option.or_some
  excludePatterns := by
    rw [taken.excludePatterns]
    simp [defaults, empty, SettingSource.said?, Overrides.given?, Assoc.get?]
  collisionPolicy := by
    rw [taken.collisionPolicy]
    exact Option.or_some
  packageMarkers := by
    rw [taken.packageMarkers]
    exact Option.or_some
  dryRun := taken.dryRun
  configFiles := taken.configFiles
  diagnostics := taken.diagnostics

/-- An override before what is there. -/
theorem or_layered {α : Type} (given file : Option α) (default : α) :
    given.or (some (layered none file default)) = some (layered given file default) := by
  cases given <;> rfl

/-- The draft of all layers, from that without overrides and what these have done. -/
theorem Layered.overridden (without : Layered t base here source [] d)
    (taken : Overridden t here o d d') : Layered t base here source o d' where
  sourceDirectory := by
    rw [taken.sourceDirectory, without.sourceDirectory]
    exact or_layered _ _ _
  outputDirectory := by
    rw [taken.outputDirectory, without.outputDirectory]
    exact or_layered _ _ _
  packageName := by
    rw [taken.packageName, without.packageName]
    exact or_layered _ _ _
  runtimeService := by
    rw [taken.runtimeService, without.runtimeService]
    exact or_layered _ _ _
  excludePatterns := by
    rw [taken.excludePatterns, without.excludePatterns]
    simp [Overrides.given?, Assoc.get?]
  collisionPolicy := by
    rw [taken.collisionPolicy, without.collisionPolicy]
    exact or_layered _ _ _
  packageMarkers := by
    rw [taken.packageMarkers, without.packageMarkers]
    exact or_layered _ _ _
  dryRun := by
    rw [taken.dryRun, without.dryRun]
    exact Option.or_some
  configFiles := taken.configFiles.trans without.configFiles
  diagnostics := taken.diagnostics.trans without.diagnostics

/-- The fields of a sound file can be taken if their paths have real paths. -/
theorem allTake_iff {s : SettingSource} (sound : s.Sound) :
    AllTake t s.directory s.loaded.fields ↔
      ∀ x ∈ s.loaded.fields, Resolves t s.directory x.1 x.2 := by
  constructor
  · intro h x hx
    exact (h x hx).1
  · intro h x hx
    refine ⟨h x hx, ?_⟩
    intro known
    exact sound.policy x.2 (eq_of_fieldType?_policy known ▸ hx)

/-- What has been logged is no matter of the layers. -/
theorem Layered.logged (h : Layered t base here source o d) (log : List LogEntry) :
    Layered t base here source o { d with log := log } :=
  ⟨h.sourceDirectory, h.outputDirectory, h.packageName, h.runtimeService, h.excludePatterns,
    h.collisionPolicy, h.packageMarkers, h.dryRun, h.configFiles, h.diagnostics⟩

/-- **The layer of a file** on the defaults: it is made if the paths of the file have real paths. -/
theorem layered_loadFile {s : SettingSource} {real : Path} (base here : Path)
    (log : List LogEntry) (sound : s.Sound)
    (loaded : loadSettingFields t s.file = .ok s.loaded)
    (resolved : realPath t s.file = .ok real) (parent : real.parent = s.directory)
    (start : d = { defaults base with log := log }) :
    ((d.loadFile t s.file).2 = none ↔ ∀ x ∈ s.loaded.fields, Resolves t s.directory x.1 x.2) ∧
    ((d.loadFile t s.file).2 = none →
      Layered t base here (some s) [] (d.loadFile t s.file).1) := by
  subst start
  simp only [loadFile, loaded, applyFields, resolved, parent]
  rw [← allTake_iff sound]
  constructor
  · constructor
    · intro h
      split at h
      · cases h
      · next through => exact allTake_of_through (congrArg Prod.snd through)
    · intro h
      obtain ⟨d', through, -⟩ := takes_through s.file sound.distinct h
      rw [through]
  · intro h
    split at h
    · cases h
    · next d₁ through =>
        have take : AllTake t s.directory s.loaded.fields :=
          allTake_of_through (congrArg Prod.snd through)
        obtain ⟨d₂, same, taken⟩ := takes_through s.file sound.distinct take
        cases through.symm.trans same
        exact (layered_of_takes taken).logged _

/-- Loading all layers is taking the overrides after the layer of the file. -/
theorem loadMerged_of_origin (origin : Origin t configFile directory? base here source)
    (sound : ∀ s ∈ source, s.Sound) :
    ∃ d fault, (fault = none ↔ ∀ s ∈ source, ∀ x ∈ s.loaded.fields,
        Resolves t s.directory x.1 x.2) ∧
      (fault = none → Layered t base here source [] d) ∧
      (fault = none →
        loadMerged t configFile o directory? = d.through (overrideSteps t here o)) ∧
      ∀ f, fault = some f → loadMerged t configFile o directory? = (d, some f) := by
  obtain ⟨hbase, hhere, found⟩ := origin
  cases found with
  | @nothing log unnamed found =>
      refine ⟨_, none, by simp, fun _ => layered_defaults ((defaults base).log ++ log), ?_, nofun⟩
      intro
      simp only [loadMerged, hbase, unnamed, found, applyOverrides, hhere]
  | @file file real loaded used hloaded hreal =>
      have layer (log : List LogEntry) :=
        layered_loadFile base here log (sound _ rfl) hloaded hreal rfl rfl
      rcases used with rfl | ⟨rfl, log, found⟩
      · obtain ⟨made, layered⟩ := layer ((defaults base).log ++ [])
        refine ⟨_, _, by simpa using made, layered, fun h => ?_, fun f h => ?_⟩
        · simp only [loadMerged, hbase, applyOverrides, hhere, h]
        · simp only [loadMerged, hbase, h]
      · obtain ⟨made, layered⟩ := layer ((defaults base).log ++ log)
        refine ⟨_, _, by simpa using made, layered, fun h => ?_, fun f h => ?_⟩
        · simp only [loadMerged, hbase, found, applyOverrides, hhere, h]
        · simp only [loadMerged, hbase, found, h]

/-- What is looked up under a key does not depend on the order of the fields. -/
theorem said?_eq_of_reordered {α : Type} {s s' : SettingSource} (h : s.Reordered s')
    (distinct : (Assoc.keys s.loaded.fields).Nodup) (key : String) (read : Value → Option α) :
    s'.said? key read = s.said? key read := by
  have keys : (Assoc.keys s'.loaded.fields).Nodup := (h.fields.map Prod.fst).nodup_iff.mp distinct
  have same : Assoc.get? key s'.loaded.fields = Assoc.get? key s.loaded.fields := by
    ext v
    rw [Assoc.get?_eq_some_iff keys, Assoc.get?_eq_some_iff distinct, h.fields.mem_iff]
  rw [SettingSource.said?, same, SettingSource.said?]

/-- There is one draft of all layers, but for the log. -/
theorem Layered.unique (h : Layered t base here source o d) (h' : Layered t base here source o d') :
    { d with log := [] } = { d' with log := [] } := by
  cases d
  cases d'
  simp only [Draft.mk.injEq]
  exact ⟨h.sourceDirectory.trans h'.sourceDirectory.symm,
    h.outputDirectory.trans h'.outputDirectory.symm, h.packageName.trans h'.packageName.symm,
    h.runtimeService.trans h'.runtimeService.symm, h.excludePatterns.trans h'.excludePatterns.symm,
    h.collisionPolicy.trans h'.collisionPolicy.symm, h.packageMarkers.trans h'.packageMarkers.symm,
    h.dryRun.trans h'.dryRun.symm, h.configFiles.trans h'.configFiles.symm,
    h.diagnostics.trans h'.diagnostics.symm, trivial⟩

/-- The draft of a file with its fields in another order is that of the file, but for the order of
the warnings. -/
theorem Layered.of_reordered {s s' : SettingSource} {t' : FileTree} (reordered : s.Reordered s')
    (distinct : (Assoc.keys s.loaded.fields).Nodup) (paths : ∀ p, t'.realPath p = t.realPath p)
    (h : Layered t' base here (some s') o d) :
    Layered t base here (some s) o { d with diagnostics := s.diagnostics } := by
  have pathIn_eq (directory : Path) : pathIn t' directory = pathIn t directory := by
    funext v
    simp only [pathIn, realPath, paths]
  have said {α : Type} := said?_eq_of_reordered (α := α) reordered distinct
  constructor
  case sourceDirectory => simp [h.sourceDirectory, pathIn_eq, said, reordered.directory]
  case outputDirectory => simp [h.outputDirectory, pathIn_eq, said, reordered.directory]
  case packageName => simp [h.packageName, said]
  case runtimeService => simp [h.runtimeService, said]
  case excludePatterns => simp [h.excludePatterns, said]
  case collisionPolicy => simp [h.collisionPolicy, said]
  case packageMarkers => simp [h.packageMarkers, said]
  case dryRun => exact h.dryRun
  case configFiles => simp [h.configFiles, reordered.file]
  case diagnostics => rfl

/-- **The order of the fields** of a file is that of the warnings about them, and nothing else. -/
theorem Layered.sameButOrder {s s' : SettingSource} {t' : FileTree} (reordered : s.Reordered s')
    (distinct : (Assoc.keys s.loaded.fields).Nodup) (paths : ∀ p, t'.realPath p = t.realPath p)
    (h : Layered t base here (some s) o d) (h' : Layered t' base here (some s') o d') :
    SameButOrder s.loaded.diagnostics d d' where
  others := by
    have alike := h.unique (h'.of_reordered reordered distinct paths)
    cases d
    cases d'
    simp_all
  warnings := by
    refine ⟨fieldWarnings s.file s.loaded.fields, fieldWarnings s.file s'.loaded.fields,
      h.diagnostics, ?_, reordered.fields.filterMap _⟩
    rw [h'.diagnostics, Option.map_some, Option.getD_some, SettingSource.diagnostics,
      reordered.diagnostics, reordered.file]

/-- Files that differ in the order of their fields are alike sound, and alike resolved. -/
theorem sound_of_reordered {s s' : SettingSource} (h : s.Reordered s') (sound : s.Sound) :
    s'.Sound where
  distinct := (h.fields.map Prod.fst).nodup_iff.mp sound.distinct
  policy v hv := sound.policy v (h.fields.mem_iff.mpr hv)

/-- The paths of files that differ in the order of their fields have the same real paths. -/
theorem resolvable_of_reordered {s s' : SettingSource} {t' : FileTree} (h : s.Reordered s')
    (paths : ∀ p, t'.realPath p = t.realPath p) (resolvable : Resolvable t here (some s) o) :
    Resolvable t' here (some s') o := by
  have pathIn_eq (directory : Path) : pathIn t' directory = pathIn t directory := by
    funext v
    simp only [pathIn, realPath, paths]
  simp only [Resolvable, Resolves, Overrides.Resolve, pathIn_eq]
  refine ⟨?_, resolvable.2⟩
  rintro _ ⟨⟩ x hx
  rw [h.directory]
  exact resolvable.1 s rfl x (h.fields.mem_iff.mpr hx)

/-- **Loading all layers** succeeds if their paths have real paths, and makes the draft of all
layers. -/
theorem loadMerged_eq (origin : Origin t configFile directory? base here source)
    (sound : ∀ s ∈ source, s.Sound) (typed : o.WellTyped) :
    ((loadMerged t configFile o directory?).2 = none ↔ Resolvable t here source o) ∧
    (Resolvable t here source o →
      Layered t base here source o (loadMerged t configFile o directory?).1) := by
  obtain ⟨d, fault, made, layered, goes_on, stops⟩ := loadMerged_of_origin (o := o) origin sound
  rw [Resolvable, ← made]
  cases fault with
  | some f => simp [stops f rfl]
  | none =>
      rw [goes_on rfl]
      simp only [true_and]
      refine ⟨⟨resolve_of_through, fun resolve => ?_⟩, fun resolve => ?_⟩
      · obtain ⟨d', through, -⟩ := overridden_through (d := d) typed resolve
        rw [through]
      · obtain ⟨d', through, taken⟩ := overridden_through (d := d) typed resolve
        rw [through]
        exact (layered rfl).overridden taken

/-- The file of a draft that was made with it was loaded, and has a real path. -/
theorem exists_of_loadFile (h : (d.loadFile t file).2 = none) :
    ∃ loaded real, loadSettingFields t file = .ok loaded ∧ realPath t file = .ok real := by
  rw [loadFile] at h
  split at h
  · cases h
  · next loaded hloaded =>
      cases hreal : realPath t file with
      | error f => simp [applyFields, hreal] at h
      | ok real => exact ⟨loaded, real, hloaded, rfl⟩

/-- A draft that was made was made from something. -/
theorem exists_origin (h : (loadMerged t configFile o directory?).2 = none) :
    ∃ base here source, Origin t configFile directory? base here source := by
  rw [loadMerged] at h
  split at h
  · cases h
  · next base hbase =>
      simp only at h
      split at h
      · cases h
      · next file log found =>
          split at h
          · cases h
          · next layer =>
              rw [applyOverrides] at h
              split at h
              · cases h
              · next here hhere =>
                  cases file with
                  | none =>
                      cases configFile with
                      | some file => cases found
                      | none => exact ⟨base, here, none, hbase, hhere, .nothing rfl found⟩
                  | some file =>
                      obtain ⟨loaded, real, hloaded, hreal⟩ := exists_of_loadFile layer
                      refine ⟨base, here, _, hbase, hhere, .file ?_ hloaded hreal⟩
                      cases configFile with
                      | some given =>
                          cases found
                          exact .inl rfl
                      | none => exact .inr ⟨rfl, log, found⟩

/-- **Layered settings.** A draft of all layers is made exactly if the directories and the file that
it is made from are found and the paths that are given have real paths. Then each setting is that of
the overrides, or else that of the setting file in the right type, or else the default; a preview is
asked for by overrides alone, patterns are those of the file and then those of the overrides, and
the diagnostics are those of loading the file and then one warning for each field that is unknown or
of the wrong type, in order. The order of the fields is the order of these warnings, and nothing
else. -/
theorem loadMerged_layers (typed : o.WellTyped)
    (sound : ∀ base here s, Origin t configFile directory? base here (some s) → s.Sound) :
    ((loadMerged t configFile o directory?).2 = none ↔ ∃ base here source,
      Origin t configFile directory? base here source ∧ Resolvable t here source o) ∧
    (∀ base here source, Origin t configFile directory? base here source →
      (loadMerged t configFile o directory?).2 = none →
      Layered t base here source o (loadMerged t configFile o directory?).1) ∧
    (∀ base here s s' t', Origin t configFile directory? base here (some s) →
      Origin t' configFile directory? base here (some s') →
      s.Reordered s' → (∀ p, t'.realPath p = t.realPath p) →
      (loadMerged t configFile o directory?).2 = none →
      (loadMerged t' configFile o directory?).2 = none ∧
      SameButOrder s.loaded.diagnostics (loadMerged t configFile o directory?).1
        (loadMerged t' configFile o directory?).1) := by
  have made {base here : Path} {source : Option SettingSource}
      (origin : Origin t configFile directory? base here source) :=
    loadMerged_eq origin (fun s hs => sound base here s (hs ▸ origin)) typed
  refine ⟨⟨?_, ?_⟩, ?_, ?_⟩
  · intro h
    obtain ⟨base, here, source, origin⟩ := exists_origin h
    exact ⟨base, here, source, origin, (made origin).1.mp h⟩
  · rintro ⟨base, here, source, origin, resolvable⟩
    exact (made origin).1.mpr resolvable
  · intro base here source origin h
    exact (made origin).2 ((made origin).1.mp h)
  · intro base here s s' t' origin origin' reordered paths h
    have sound_s := sound base here s origin
    have resolvable := (made origin).1.mp h
    have resolvable' := resolvable_of_reordered reordered paths resolvable
    have made' := loadMerged_eq origin' (o := o)
      (by rintro _ ⟨⟩; exact sound_of_reordered reordered sound_s) typed
    exact ⟨made'.1.mpr resolvable', ((made origin).2 resolvable).sameButOrder reordered
      sound_s.distinct paths (made'.2 resolvable')⟩

/-- A tree of one setting file. -/
def oneSettingFile (content : ByteArray) : FileTree := ⟨[], [([settingFileName], .file content)]⟩

/-- The file is found, from the root, and read. -/
theorem found_oneSettingFile (content : ByteArray) :
    let t := oneSettingFile content
    baseOf t none = .ok ⟨.root, []⟩ ∧ baseOf t (some ⟨.root, []⟩) = .ok ⟨.root, []⟩ ∧
      findSettingFile t ⟨.root, []⟩ = .ok (some ⟨.root, [settingFileName]⟩, []) ∧
      realPath t ⟨.root, [settingFileName]⟩ = .ok ⟨.root, [settingFileName]⟩ ∧
      t.read ⟨.root, [settingFileName]⟩ = .ok content := by
  intro t
  have root : t.locate .target ⟨.root, []⟩ = .ok (.taken [] .directory) := by
    rw [FileTree.locate_of_walk ⟨rfl, by decide⟩]
    exact congrArg (Except.mapError _) (FileTree.walk_nil rfl)
  have file : t.locate .target ⟨.root, [settingFileName]⟩ =
      .ok (.taken [settingFileName] (.file content)) := by
    obtain ⟨named, possible⟩ := isShortName_of_settings (.inl rfl)
    exact FileTree.locate_root_file named possible rfl
  have real_root : realPath t ⟨.root, []⟩ = .ok ⟨.root, []⟩ := by
    simp [realPath, FileTree.realPath, Path.hasZero, FileTree.origin, Path.isAbsolute,
      FileTree.resolveNames, root, mapError_ok]
  have entry : t.entryAt? [settingFileName] = some (.file content) := rfl
  have real_file : realPath t ⟨.root, [settingFileName]⟩ = .ok ⟨.root, [settingFileName]⟩ := by
    have nonzero : (Path.mk .root [settingFileName]).hasZero = false := by
      simp [Path.hasZero, settingFileName]
    have down : settingFileName ≠ ".." := by decide
    simp [realPath, FileTree.realPath, nonzero, FileTree.origin, Path.isAbsolute,
      FileTree.resolveNames, down, entry, file, mapError_ok]
  refine ⟨real_root, real_root, ?_, real_file, ?_⟩
  · have is_file : isSettingFile t ⟨.root, [settingFileName]⟩ = .ok true := by
      simp [isSettingFile, FileTree.isFile, FileTree.lookup, file]
      rfl
    simp [findSettingFile, Path.child, is_file]
    rfl
  · rw [FileTree.read, file]
    rfl

/-- A setting file with a field of the right type and one of the wrong type. -/
def twoFieldsText : String := "package_name='a'\nruntime_service=1"

/-- The tree of this file. -/
def twoFields : FileTree := oneSettingFile twoFieldsText.toUTF8

/-- The fields of the file. -/
theorem readToml_twoFieldsText : ∃ w : Value, w.text? = none ∧
    Toml.readToml twoFieldsText = .ok [("package_name", .text "a"), ("runtime_service", w)] := by
  have texts : (Toml.readToml twoFieldsText).toOption.map
      (fun fields => fields.map fun x => (x.1, x.2.text?)) =
        some [("package_name", some "a"), ("runtime_service", none)] := by
    decide +kernel
  obtain ⟨fields, read, texts⟩ := Option.map_eq_some_iff.mp texts
  obtain ⟨⟨k, v⟩, rest, rfl, hv, texts⟩ := List.map_eq_cons_iff.mp texts
  obtain ⟨⟨k', w⟩, rest', rfl, hw, texts⟩ := List.map_eq_cons_iff.mp texts
  cases List.map_eq_nil_iff.mp texts
  cases v <;> cases hv
  obtain ⟨rfl, hw⟩ := Prod.mk.inj hw
  refine ⟨w, hw, ?_⟩
  cases parsed : Toml.readToml twoFieldsText with
  | error f => simp [parsed, Except.toOption] at read
  | ok fields =>
      rw [parsed] at read
      cases read
      rfl

/-- The fields are loaded. -/
theorem loadSettingFields_twoFields : ∃ w : Value, w.text? = none ∧
    loadSettingFields twoFields ⟨.root, [settingFileName]⟩ =
      .ok ⟨[("package_name", .text "a"), ("runtime_service", w)], [], []⟩ := by
  obtain ⟨w, hw, parsed⟩ := readToml_twoFieldsText
  have text : twoFields.readText ⟨.root, [settingFileName]⟩ = .ok twoFieldsText :=
    (readText_of_read (found_oneSettingFile _).2.2.2.2).trans
      (textOfBytes_toUTF8 (by decide +kernel))
  have loaded : loadFields twoFields ⟨.root, [settingFileName]⟩ =
      .ok ⟨[("package_name", .text "a"), ("runtime_service", w)], [], []⟩ := by
    simp only [loadFields, text, parsed]
  refine ⟨w, hw, ?_⟩
  rw [loadSettingFields, loaded, ok_bind]
  rfl

/-- Overrides that ask for a preview, and give nothing as the package. -/
def previewOnly : Overrides := [("dry_run", .boolean true), ("package_name", .null)]

/-- The one override that is given there is a truth value. -/
theorem previewOnly_wellTyped : previewOnly.WellTyped := by
  intro key type v known given
  rw [previewOnly] at given
  by_cases preview : key = "dry_run"
  · subst preview
    cases known
    cases given
    rfl
  · by_cases package : key = "package_name"
    · subst package
      cases given
    · simp [Overrides.given?, Assoc.get?, Ne.symm preview, Ne.symm package] at given

/-- Where that file is, the text is the package, the number is left out, and the preview is that of
the overrides. -/
theorem loadMerged_layers_twoFields :
    let d := loadMerged twoFields none previewOnly none
    d.2 = none ∧ d.1.packageName = some "a" ∧ d.1.dryRun = some true ∧
      d.1.diagnostics.length = 1 := by
  obtain ⟨w, hw, loads⟩ := loadSettingFields_twoFields
  obtain ⟨root, root', found, real, -⟩ := found_oneSettingFile twoFieldsText.toUTF8
  have origin : Origin twoFields none none ⟨.root, []⟩ ⟨.root, []⟩
      (some ⟨⟨.root, [settingFileName]⟩, ⟨.root, []⟩, _⟩) :=
    ⟨root, root', .file (.inr ⟨rfl, [], found⟩) loads real⟩
  have sound : ∀ base here s, Origin twoFields none none base here (some s) → s.Sound := by
    rintro base here s ⟨hbase, -, hsource⟩
    cases root.symm.trans hbase
    cases hsource with
    | file used loaded _ =>
        rcases used with used | ⟨-, log, used⟩
        · cases used
        · cases found.symm.trans used
          cases loads.symm.trans loaded
          exact ⟨by simp, by simp⟩
  obtain ⟨returns, layered, -⟩ := loadMerged_layers previewOnly_wellTyped sound
  have made : (loadMerged twoFields none previewOnly none).2 = none := by
    refine returns.mpr ⟨_, _, _, origin, ?_, ?_⟩
    · rintro _ ⟨⟩ x hx known
      simp only [List.mem_cons, List.not_mem_nil, or_false] at hx
      rcases hx with rfl | rfl <;> cases known
    · intro key v known given
      rcases eq_of_fieldType?_path known with rfl | rfl <;> cases given
  have layers := layered _ _ _ origin made
  refine ⟨made, layers.packageName.trans ?_, layers.dryRun.trans ?_, ?_⟩
  · rfl
  · rfl
  · have package : fieldComplaint? "package_name" (.text "a") = none := rfl
    have runtime : fieldComplaint? "runtime_service" w = some (notString "runtime_service" w) := by
      simp [fieldComplaint?, fieldType?, FieldType.holds, FieldType.complaint, hw]
    rw [layers.diagnostics]
    simp [SettingSource.diagnostics, fieldWarnings, package, runtime]

end Draft

end ProcessStubs
