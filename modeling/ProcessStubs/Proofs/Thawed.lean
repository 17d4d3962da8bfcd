import ProcessStubs.Proofs.Layers
import ProcessStubs.Proofs.RepeatedPatterns
import ProcessStubs.Proofs.ResolvedPaths
import ProcessStubs.Proofs.Validation

/-!
# Freezing before and after edits

Freezing fills in defaults and leaves out repeated patterns. Neither is seen by a later edit: an
override puts its value in its place, whether something was there or not, and patterns that are
added are compared with those that are left, which are all there were. So settings can be frozen,
thawed and edited, and are what they would have been if the draft had been edited before.

The proof follows the steps of the overrides. Two drafts are alike if freezing cannot tell them
apart; each step fails on both for the same reason or keeps them alike.

## Main definitions

* `Draft.Alike`: two drafts that freezing cannot tell apart.
* `Draft.refrozen`: what a draft is frozen to after overrides.

## Main results

* `Draft.distinctEntries_append`: patterns can be left out before others are added.
* `Draft.alike_thaw`: frozen settings, thawed, are like the draft that they were made from.
* `Draft.alike_through`: drafts that are alike stay so, step by step.
* `Draft.refrozen_thaw`: freezing is not seen by a later edit.
-/

namespace ProcessStubs

namespace Draft

/-! ### Patterns that are left out -/

/-- What is left out once is not left out again. -/
theorem distinctEntries_distinctEntries (l : List Value) :
    distinctEntries (distinctEntries l) = distinctEntries l := by
  induction l using List.reverseRecOn with
  | nil => rfl
  | append_singleton l v ih =>
      rw [distinctEntries_concat]
      split
      · exact ih
      · next new => rw [distinctEntries_concat, ih, if_neg new]

/-- **Patterns can be left out before others are added.** -/
theorem distinctEntries_append (l m : List Value) :
    distinctEntries (distinctEntries l ++ m) = distinctEntries (l ++ m) := by
  -- What is added only sees what is left of the values before.
  have added (l : List Value) : distinctEntries (l ++ m) = m.foldl
      (fun kept v => if kept.any (·.sameEntry v) then kept else kept ++ [v])
      (distinctEntries l) := List.foldl_append
  rw [added, added, distinctEntries_distinctEntries]

/-- The values that are left were there. -/
theorem mem_of_mem_distinctEntries {l : List Value} {v : Value} (h : v ∈ distinctEntries l) :
    v ∈ l := by
  induction l using List.reverseRecOn with
  | nil => cases h
  | append_singleton l w ih =>
      rw [distinctEntries_concat] at h
      split at h
      · exact List.mem_append_left _ (ih h)
      · rcases List.mem_append.mp h with h | h
        · exact List.mem_append_left _ (ih h)
        · exact List.mem_append_right _ h

/-! ### Drafts that are alike -/

/-- **Two drafts that freezing cannot tell apart**: they would be frozen to the same settings, and
either both or none of them have patterns that are entries of a set. -/
structure Alike (t : FileTree) (d d' : Draft) : Prop where
  settings : d.settings t = d'.settings t
  hashable : d.excludePatterns.all Value.isHashable = d'.excludePatterns.all Value.isHashable

/-- The outcomes of a step on two drafts that are alike: the same fault, or drafts that are
alike. -/
inductive AlikeOutcomes (t : FileTree) :
    Except SetupFault Draft → Except SetupFault Draft → Prop
  | stopped (fault : SetupFault) : AlikeOutcomes t (.error fault) (.error fault)
  | done {d d' : Draft} (alike : Alike t d d') : AlikeOutcomes t (.ok d) (.ok d')

/-- A step that keeps drafts alike. -/
def KeepsAlike (t : FileTree) (step : Draft → Except SetupFault Draft) : Prop :=
  ∀ d d', Alike t d d' → AlikeOutcomes t (step d) (step d')

variable {t t₀ : FileTree} {d d' : Draft} {s : Settings} {base : Path} {o : Overrides}

/-- Drafts that are alike are frozen alike. -/
theorem Alike.freeze_eq (h : Alike t d d') : d.freeze t = d'.freeze t := by
  have package : d.givenPackage = d'.givenPackage := congrArg Settings.packageName h.settings
  have runtime : d.usedRuntime = d'.usedRuntime := congrArg Settings.runtimeService h.settings
  rw [Draft.freeze_eq, Draft.freeze_eq, package, runtime, h.hashable, h.settings]

/-- **Frozen settings, thawed, are like the draft** that they were made from. -/
theorem alike_thaw (frozen : d.freeze t₀ = .ok s)
    (same : t.workingDirectory = t₀.workingDirectory) :
    Alike t s.thaw d := by
  obtain ⟨-, ⟨runtime, read⟩, hashable, rfl⟩ := freeze_eq_ok_iff.mp frozen
  have given : (d.settings t₀).runtimeService ≠ "" := by
    intro empty
    rw [empty] at read
    cases read
  constructor
  · simp only [Draft.settings, Settings.thaw, same, Option.getD_some,
      distinctEntries_distinctEntries]
    rw [Option.filter_some_pos (by simpa [Draft.settings] using given)]
    rfl
  · rw [hashable, List.all_eq_true]
    intro v hv
    exact List.all_eq_true.mp hashable v (mem_of_mem_distinctEntries hv)

/-! ### Steps on drafts that are alike -/

/-- A step that takes a value from elsewhere into the same place of the settings, whatever the draft
is, keeps drafts alike. -/
theorem keepsAlike_put {α : Type} (x : Except SetupFault α) (put : α → Draft → Draft)
    (place : α → Settings → Settings)
    (placed : ∀ a d, (put a d).settings t = place a (d.settings t))
    (patterns : ∀ a d, (put a d).excludePatterns = d.excludePatterns) :
    KeepsAlike t fun d => do
      let a ← x
      return put a d := by
  intro d d' alike
  cases x with
  | error fault => exact .stopped fault
  | ok a =>
      refine .done ⟨?_, ?_⟩
      · rw [placed, placed, alike.settings]
      · rw [patterns, patterns, alike.hashable]

/-- A step that adds patterns keeps drafts alike. -/
theorem keepsAlike_add (x : Except SetupFault (List Value)) :
    KeepsAlike t fun d => do
      let items ← x
      return { d with excludePatterns := d.excludePatterns ++ items } := by
  intro d d' alike
  cases x with
  | error fault => exact .stopped fault
  | ok items =>
      refine .done ⟨?_, ?_⟩
      · have left : distinctEntries d.excludePatterns = distinctEntries d'.excludePatterns :=
          congrArg Settings.excludePatterns alike.settings
        have added : distinctEntries (d.excludePatterns ++ items) =
            distinctEntries (d'.excludePatterns ++ items) := by
          rw [← distinctEntries_append, left, distinctEntries_append]
        change
          { d.settings t with excludePatterns := distinctEntries (d.excludePatterns ++ items) } =
          { d'.settings t with excludePatterns := distinctEntries (d'.excludePatterns ++ items) }
        rw [added, alike.settings]
      · rw [List.all_append, List.all_append, alike.hashable]

/-- A step for an override keeps drafts alike if taking the override does. -/
theorem keepsAlike_override {key : String} {take : Value → Draft → Except SetupFault Draft}
    (taken : ∀ v, KeepsAlike t (take v)) : KeepsAlike t (override o key take) := by
  intro d d' alike
  rw [override, override]
  split
  · next v _ => exact taken v d d' alike
  · exact .done alike

/-- Adding the items of an override keeps drafts alike. -/
theorem keepsAlike_items (v : Value) :
    KeepsAlike t fun d => do
      if v.isTrue then
        let items ← overrideItems v
        return { d with excludePatterns := d.excludePatterns ++ items }
      else return d := by
  cases v.isTrue with
  | false => exact fun _ _ alike => .done alike
  | true => exact keepsAlike_add (overrideItems v)

/-- **The steps for overrides keep drafts alike.** -/
theorem keepsAlike_overrideSteps (base : Path) (o : Overrides) :
    ∀ step ∈ overrideSteps t base o, KeepsAlike t step := by
  simp only [overrideSteps, List.forall_mem_cons]
  refine ⟨keepsAlike_override fun v => ?source, keepsAlike_override fun v => ?output,
    keepsAlike_override fun v => ?package, keepsAlike_override fun v => ?runtime,
    keepsAlike_override fun v => keepsAlike_items v, keepsAlike_override fun v => ?policy,
    keepsAlike_override fun v => ?markers, keepsAlike_override fun v => ?preview,
    List.forall_mem_nil _⟩
  case source =>
    exact keepsAlike_put (overridePath t base v) (fun p d => { d with sourceDirectory := some p })
      (fun p s => { s with sourceDirectory := p }) (fun _ _ => rfl) fun _ _ => rfl
  case output =>
    exact keepsAlike_put (overridePath t base v) (fun p d => { d with outputDirectory := some p })
      (fun p s => { s with outputDirectory := p }) (fun _ _ => rfl) fun _ _ => rfl
  case package =>
    exact keepsAlike_put (.ok v.shown) (fun name d => { d with packageName := some name })
      (fun name s => { s with packageName := name }) (fun _ _ => rfl) fun _ _ => rfl
  case runtime =>
    exact keepsAlike_put (.ok v.shown) (fun name d => { d with runtimeService := some name })
      (fun name s => { s with
        runtimeService := ((some name).filter (· ≠ "")).getD Settings.defaultRuntime })
      (fun _ _ => rfl) fun _ _ => rfl
  case policy =>
    cases CollisionPolicy.ofName? v.shown with
    | none => exact fun _ _ _ => .stopped _
    | some p =>
        exact keepsAlike_put (.ok p) (fun p d => { d with collisionPolicy := some p })
          (fun p s => { s with collisionPolicy := p }) (fun _ _ => rfl) fun _ _ => rfl
  case markers =>
    exact keepsAlike_put (.ok v.isTrue) (fun b d => { d with packageMarkers := some b })
      (fun b s => { s with packageMarkers := b }) (fun _ _ => rfl) fun _ _ => rfl
  case preview =>
    exact keepsAlike_put (.ok v.isTrue) (fun b d => { d with dryRun := some b })
      (fun b s => { s with dryRun := b }) (fun _ _ => rfl) fun _ _ => rfl

/-- **Drafts that are alike stay so**, step by step: the first step that fails on one of them fails
on the other for the same reason. -/
theorem alike_through {steps : List (Draft → Except SetupFault Draft)}
    (keep : ∀ step ∈ steps, KeepsAlike t step) (alike : Alike t d d') :
    (d.through steps).2 = (d'.through steps).2 ∧
      Alike t (d.through steps).1 (d'.through steps).1 := by
  induction steps generalizing d d' with
  | nil => exact ⟨rfl, alike⟩
  | cons step steps ih =>
      have later := fun step h => keep step (List.mem_cons_of_mem _ h)
      rw [through, through]
      have outcomes := keep step List.mem_cons_self d d' alike
      generalize step d = x at outcomes ⊢
      generalize step d' = x' at outcomes ⊢
      cases outcomes with
      | stopped fault => exact ⟨rfl, alike⟩
      | done alike => exact ih later alike

/-- What a draft is frozen to after overrides. -/
def refrozen (d : Draft) (t : FileTree) (directory : Option Path) (o : Overrides) :
    Except SetupFault Settings :=
  match d.applyOverrides t directory o with
  | (d, none) => (d.freeze t).mapError .settings
  | (_, some fault) => .error fault

/-- Drafts that are alike are frozen alike after the same overrides. -/
theorem Alike.refrozen_eq (alike : Alike t d d') (directory : Option Path) (o : Overrides) :
    d.refrozen t directory o = d'.refrozen t directory o := by
  rw [refrozen, refrozen, applyOverrides, applyOverrides]
  cases baseOf t directory with
  | error fault => rfl
  | ok base =>
      dsimp only
      obtain ⟨same, after⟩ := alike_through (keepsAlike_overrideSteps base o) alike
      generalize d.through (overrideSteps t base o) = made at same after ⊢
      generalize d'.through (overrideSteps t base o) = made' at same after ⊢
      obtain ⟨e, fault⟩ := made
      obtain ⟨e', fault'⟩ := made'
      obtain rfl : fault = fault' := same
      cases fault with
      | some fault => rfl
      | none => simp only [after.freeze_eq]

/-! ### How freezing after overrides ends -/

/-- A step that goes on with patterns that are entries of a set if it was given such, or stops
because of the settings, for another reason than a type. -/
def EndsRegularly (step : Draft → Except SetupFault Draft) : Prop :=
  ∀ d, d.excludePatterns.all Value.isHashable = true →
    (∃ d', step d = .ok d' ∧ d'.excludePatterns.all Value.isHashable = true) ∨
      ∃ fault, step d = .error (.settings fault) ∧ fault ≠ .wrongType

/-- A step for an override ends regularly if taking the override does, whenever it is given. -/
theorem endsRegularly_override {key : String} {take : Value → Draft → Except SetupFault Draft}
    (taken : ∀ v, o.given? key = some v → EndsRegularly (take v)) :
    EndsRegularly (override o key take) := by
  intro d hashable
  rw [override]
  split
  · next v given => exact taken v given d hashable
  · exact .inl ⟨d, rfl, hashable⟩

/-- A step that sets something else than patterns ends regularly. -/
theorem endsRegularly_put {put : Draft → Draft}
    (patterns : ∀ d, (put d).excludePatterns = d.excludePatterns) :
    EndsRegularly fun d => .ok (put d) :=
  fun d hashable => .inl ⟨put d, rfl, by rwa [patterns]⟩

/-- A step that sets a path ends regularly if the path has a real path. -/
theorem endsRegularly_path {v : Value} (resolves : (pathIn t base v).isSome = true)
    {put : Path → Draft → Draft}
    (patterns : ∀ p d, (put p d).excludePatterns = d.excludePatterns) :
    EndsRegularly fun d => do
      let p ← overridePath t base v
      return put p d := by
  obtain ⟨p, hp⟩ := Option.isSome_iff_exists.mp resolves
  obtain ⟨s, hs, real⟩ := pathIn_eq_some_iff.mp hp
  have taken : overridePath t base v = .ok p := by simp only [overridePath, hs, real]
  simp only [taken, ok_bind]
  exact endsRegularly_put (patterns p)

/-- A step that adds a list of texts ends regularly. -/
theorem endsRegularly_items {v : Value} (texts : v.texts?.isSome = true) :
    EndsRegularly fun d => do
      if v.isTrue then
        let items ← overrideItems v
        return { d with excludePatterns := d.excludePatterns ++ items }
      else return d := by
  obtain ⟨lines, hlines⟩ := Option.isSome_iff_exists.mp texts
  intro d hashable
  cases v with
  | list items =>
      have added : items.all Value.isHashable = true := by
        simp [eq_map_of_texts? hlines, Value.isHashable]
      cases given : Value.isTrue (.list items) with
      | false => exact .inl ⟨d, rfl, hashable⟩
      | true => exact .inl ⟨_, rfl, by rw [List.all_append, hashable, added, Bool.and_self]⟩
  | _ => cases hlines

/-- **The steps for overrides end regularly** if the paths among these have real paths and the
patterns are texts. -/
theorem endsRegularly_overrideSteps (resolve : o.Resolve t base)
    (texts : ∀ v, o.given? "exclude_patterns" = some v → v.texts?.isSome = true) :
    ∀ step ∈ overrideSteps t base o, EndsRegularly step := by
  simp only [overrideSteps, List.forall_mem_cons]
  refine ⟨endsRegularly_override fun v given => ?source,
    endsRegularly_override fun v given => ?output,
    endsRegularly_override fun v _ => endsRegularly_put fun _ => rfl,
    endsRegularly_override fun v _ => endsRegularly_put fun _ => rfl,
    endsRegularly_override fun v given => endsRegularly_items (texts v given),
    endsRegularly_override fun v _ => ?policy,
    endsRegularly_override fun v _ => endsRegularly_put fun _ => rfl,
    endsRegularly_override fun v _ => endsRegularly_put fun _ => rfl, List.forall_mem_nil _⟩
  case source => exact endsRegularly_path (resolve _ v rfl given) fun _ _ => rfl
  case output => exact endsRegularly_path (resolve _ v rfl given) fun _ _ => rfl
  case policy =>
    cases CollisionPolicy.ofName? v.shown with
    | none => exact fun _ _ => .inr ⟨_, rfl, by simp⟩
    | some p => exact endsRegularly_put fun _ => rfl

/-- Steps that end regularly do so one after the other. -/
theorem endsRegularly_through {steps : List (Draft → Except SetupFault Draft)}
    (regular : ∀ step ∈ steps, EndsRegularly step)
    (hashable : d.excludePatterns.all Value.isHashable = true) :
    (∃ d', d.through steps = (d', none) ∧ d'.excludePatterns.all Value.isHashable = true) ∨
      ∃ d' fault, d.through steps = (d', some (.settings fault)) ∧ fault ≠ .wrongType := by
  induction steps generalizing d with
  | nil => exact .inl ⟨d, rfl, hashable⟩
  | cons step steps ih =>
      have later := fun step h => regular step (List.mem_cons_of_mem _ h)
      rcases regular step List.mem_cons_self d hashable with ⟨e, first, kept⟩ | ⟨f, first, other⟩
      · simpa only [through, first] using ih later kept
      · exact .inr ⟨d, f, by rw [through, first], other⟩

/-- After such overrides a draft is frozen, or refused because of its settings. -/
theorem refrozen_regular {directory : Option Path} (hbase : baseOf t directory = .ok base)
    (resolve : o.Resolve t base)
    (texts : ∀ v, o.given? "exclude_patterns" = some v → v.texts?.isSome = true)
    (hashable : d.excludePatterns.all Value.isHashable = true) :
    (∃ s, d.refrozen t directory o = .ok s) ∨
      ∃ fault, d.refrozen t directory o = .error (.settings fault) ∧ fault ≠ .wrongType := by
  simp only [refrozen, applyOverrides, hbase]
  rcases endsRegularly_through (endsRegularly_overrideSteps resolve texts) hashable with
    ⟨e, made, kept⟩ | ⟨e, fault, made, other⟩
  · simp only [made]
    cases frozen : e.freeze t with
    | ok s => exact .inl ⟨s, rfl⟩
    | error fault =>
        refine .inr ⟨fault, rfl, ?_⟩
        rintro rfl
        rcases freeze_eq_error_iff.mp frozen with ⟨-, wrong⟩ | ⟨-, -, wrong⟩ | ⟨-, -, unhashable, -⟩
        · cases wrong
        · cases wrong
        · rw [kept] at unhashable
          cases unhashable
  · simp only [made]
    exact .inr ⟨fault, rfl, other⟩

/-- **Freezing is not seen by a later edit.** Settings that a draft was frozen to are, thawed and
frozen once more in the same working directory, these settings; and after any overrides, the same
settings are made of the thawed draft as of the draft itself, or the same fault stops both. If the
paths among the overrides have real paths and the patterns are texts, then either settings are made
or what is wrong is in the settings, and no type is. -/
theorem refrozen_thaw (frozen : d.freeze t₀ = .ok s)
    (same : t.workingDirectory = t₀.workingDirectory) (directory : Option Path) (o : Overrides) :
    s.thaw.freeze t = .ok s ∧
    s.thaw.refrozen t directory o = d.refrozen t directory o ∧
    ((∃ base, baseOf t directory = .ok base ∧ o.Resolve t base) →
      (∀ v, o.given? "exclude_patterns" = some v → v.texts?.isSome = true) →
      (∃ s', s.thaw.refrozen t directory o = .ok s') ∨
        ∃ fault, s.thaw.refrozen t directory o = .error (.settings fault) ∧
          fault ≠ .wrongType) := by
  have alike := alike_thaw frozen same
  refine ⟨?_, alike.refrozen_eq directory o, ?_⟩
  · rw [alike.freeze_eq, Draft.freeze_eq, ← frozen, Draft.freeze_eq, Draft.settings, same]
    rfl
  · rintro ⟨base, hbase, resolve⟩ texts
    refine refrozen_regular hbase resolve texts ?_
    rw [alike.hashable]
    exact (freeze_eq_ok_iff.mp frozen).2.2.1

/-- Overrides that give a pattern, and a text that is no policy or one that is. -/
def patternAndPolicy (policy : String) : Overrides :=
  [("exclude_patterns", .list [.text "a"]), ("collision_policy", .text policy)]

/-- A draft that repeats a pattern. -/
def repeating : Draft := excluding ⟨.root, []⟩ ["a", "b", "a"]

/-- The root as the working directory of an empty tree. -/
theorem baseOf_root : baseOf ⟨[], []⟩ none = .ok ⟨.root, []⟩ :=
  baseOf_none (FileTree.proper_of_root nofun nofun) (by simp [Path.hasZero])

/-- What it is frozen to after such overrides. -/
theorem refrozen_repeating :
    repeating.refrozen ⟨[], []⟩ none (patternAndPolicy "error") =
      .ok { repeating.settings ⟨[], []⟩ with collisionPolicy := .error } ∧
    repeating.refrozen ⟨[], []⟩ none (patternAndPolicy "none") =
      .error (.settings (.invalidPolicy (.text "none"))) := by
  simp only [refrozen, applyOverrides, baseOf_root]
  exact ⟨rfl, rfl⟩

/-- That draft, frozen, thawed and edited: the pattern that is added is left out, and what is no
policy is refused because of the settings. -/
theorem refrozen_thaw_repeating :
    let s := repeating.settings ⟨[], []⟩
    s.excludePatterns = [.text "a", .text "b"] ∧
    s.thaw.freeze ⟨[], []⟩ = .ok s ∧
    s.thaw.refrozen ⟨[], []⟩ none (patternAndPolicy "error") =
      .ok { s with collisionPolicy := .error } ∧
    ∃ fault, s.thaw.refrozen ⟨[], []⟩ none (patternAndPolicy "none") = .error (.settings fault) ∧
      fault ≠ .wrongType := by
  intro s
  have frozen : repeating.freeze ⟨[], []⟩ = .ok s := freeze_excluding _ _ _
  obtain ⟨valid, invalid⟩ := refrozen_repeating
  have resolve : (patternAndPolicy "none").Resolve ⟨[], []⟩ ⟨.root, []⟩ := by
    intro key v known given
    rcases eq_of_fieldType?_path known with rfl | rfl <;> cases given
  have texts : ∀ v, (patternAndPolicy "none").given? "exclude_patterns" = some v →
      v.texts?.isSome = true := by
    rintro v ⟨⟩
    rfl
  refine ⟨rfl, (refrozen_thaw frozen rfl none []).1, ?_, ?_⟩
  · exact (refrozen_thaw frozen rfl none (patternAndPolicy "error")).2.1.trans valid
  · obtain ⟨-, same, ends⟩ := refrozen_thaw frozen rfl none (patternAndPolicy "none")
    rcases ends ⟨_, baseOf_root, resolve⟩ texts with ⟨s', made⟩ | refused
    · cases made.symm.trans (same.trans invalid)
    · exact refused

end Draft

end ProcessStubs
