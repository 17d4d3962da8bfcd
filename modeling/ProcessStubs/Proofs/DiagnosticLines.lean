import ProcessStubs.Proofs.DocumentImage
import ProcessStubs.Proofs.LineBreaks
import ProcessStubs.Proofs.Overwritten
import ProcessStubs.Proofs.Retention

/-!
# Diagnostics of one line

A diagnostic is told on one line, unless a text that goes into its message brings a line break with
it. Messages are made of fixed texts, of numbers, of names from markup and of identifiers, none of
which can; of other texts of a document, which are quoted; and of the path of the document. The one
text of a document that is taken over as it is, is the name of a bean: it is part of the qualified
name of the bean's interface, and a bean may have any name. An interface whose name breaks is never
written, so it never collides, and the only thing said of it is that it cannot be written.

## Main results

* `LineBreaks.unbroken_of_ofFile`: why a document cannot be read is told on one line.
* `Event.Traced.unbroken_diagnostics`, `Event.Traced.broken_diagnostics`: what one stub adds.
* `Accounts.broken_iff`: which diagnostics of a report break.
* `Run.diagnostics_of_one_line`: when all diagnostics of a run are on one line each.
-/

namespace ProcessStubs

open Text

variable {breaks : Char → Bool}

/-! ### Messages -/

/-- The only name that a tree can be refused for is that of its root. -/
theorem ProcessDocument.eq_of_foreignRoot {source : Option Path} {root : Markup.Element}
    {name : Markup.ExpandedName} (h : ofElement source root = .error (.foreignRoot name)) :
    name = root.name := by
  by_cases definitions : root.name = modelName "definitions"
  · rw [ofElement_definitions source definitions] at h
    rcases bind_eq_error_iff.mp h with h | ⟨processes, -, h⟩
    · obtain ⟨before, e, after, -, -, he⟩ := mapM_eq_error_iff.mp h
      cases (Process.ofElement_eq_error_iff.mp he).1
    · cases h
  · rw [ofElement_foreign source definitions] at h
    cases h
    rfl

namespace Text.LineBreaks

/-- A text or none is quoted without breaks. -/
theorem unbroken_quotedOrNone (h : LineBreaks breaks) (s : Option String) :
    Unbroken breaks (quotedOrNone s) := by
  cases s with
  | none => exact h.unbroken_ofList (by decide +kernel)
  | some s => exact h.unbroken_quoted s

/-- Problems with files are told on one line. -/
theorem unbroken_fileFault (h : LineBreaks breaks) (f : FileFault) : Unbroken breaks f.message := by
  have text : Unbroken breaks f.problem.text := by
    cases f.problem <;> exact h.unbroken_ofList (by decide +kernel)
  unfold FileFault.message FileProblem.message
  split
  · simp only [unbroken_append_iff, and_assoc]
    exact ⟨h.unbroken_ofList (by decide +kernel), h.unbroken_toString _,
      h.unbroken_ofList (by decide +kernel), text, h.unbroken_ofList (by decide +kernel),
      h.unbroken_quoted _⟩
  · exact text

/-- Problems with encodings are told on one line. -/
theorem unbroken_encodingProblem (h : LineBreaks breaks) {problem : Markup.EncodingProblem}
    (named : problem.Named) : Unbroken breaks problem.message := by
  unfold Markup.EncodingProblem.message
  cases problem with
  | multiByte | asciiOnly => exact h.unbroken_ofList (by decide +kernel)
  | unknown name =>
      simp only [unbroken_append_iff]
      exact ⟨h.unbroken_ofList (by decide +kernel), h.unbroken_of_isName named⟩
  | notText name | undefinedMapping name | strictOnly name =>
      simp only [unbroken_append_iff, and_assoc]
      exact ⟨h.unbroken_ofList (by decide +kernel), h.unbroken_of_isName named,
        h.unbroken_ofList (by decide +kernel)⟩

/-- Faults of markup are told on one line. -/
theorem unbroken_markupFault (h : LineBreaks breaks) {fault : Markup.Fault} (named : fault.Named) :
    Unbroken breaks fault.message := by
  unfold Markup.Fault.message
  cases fault with
  | malformed flaw p =>
      have text : Unbroken breaks flaw.message := by
        cases flaw <;> exact h.unbroken_ofList (by decide +kernel)
      simp only [unbroken_append_iff, and_assoc]
      exact ⟨h.unbroken_ofList (by decide +kernel), text, h.unbroken_ofList (by decide +kernel),
        h.unbroken_toString _, h.unbroken_ofList (by decide +kernel), h.unbroken_toString _⟩
  | doctype name systemId publicId =>
      simp only [unbroken_append_iff, and_assoc]
      exact ⟨h.unbroken_ofList (by decide +kernel), h.unbroken_of_isName named,
        h.unbroken_ofList (by decide +kernel), h.unbroken_quotedOrNone _,
        h.unbroken_ofList (by decide +kernel), h.unbroken_quotedOrNone _,
        h.unbroken_ofList (by decide +kernel)⟩
  | encoding problem =>
      simp only [unbroken_append_iff]
      exact ⟨h.unbroken_ofList (by decide +kernel), h.unbroken_encodingProblem named⟩

/-- Faults of elements are told on one line, as far as the name of the root is one. -/
theorem unbroken_structureFault (h : LineBreaks breaks) {fault : StructureFault}
    (named : ∀ name, fault = .foreignRoot name → Markup.IsName name.localName.toList) :
    Unbroken breaks fault.message := by
  unfold StructureFault.message
  cases fault with
  | foreignRoot name =>
      simp only [unbroken_append_iff, and_assoc]
      exact ⟨h.unbroken_ofList (by decide +kernel), h.unbroken_of_isName (named name rfl),
        h.unbroken_ofList (by decide +kernel), h.unbroken_quotedOrNone _,
        h.unbroken_ofList (by decide +kernel), h.unbroken_quoted _⟩
  | processWithoutId => exact h.unbroken_ofList (by decide +kernel)

/-- What is wrong with a document is told on one line, whatever its bytes are. -/
theorem unbroken_of_ofFile (h : LineBreaks breaks) {t : FileTree} {p : Path}
    {fault : DocumentFault} (read : ProcessDocument.ofFile t p = .error fault) :
    Unbroken breaks fault.message := by
  unfold ProcessDocument.ofFile ProcessDocument.ofBytes at read
  split at read
  · next f hread =>
      cases read
      exact unbroken_append_iff.mpr ⟨h.unbroken_ofList (by decide +kernel), h.unbroken_fileFault f⟩
  · next bytes hread =>
      have markup := Markup.gives_readDocument bytes.toList
      split at read
      · next f hmarkup =>
          rw [hmarkup] at markup
          cases read
          exact h.unbroken_markupFault markup
      · next root hmarkup =>
          rw [hmarkup] at markup
          obtain ⟨f, declared, rfl⟩ := mapError_eq_error_iff.mp read
          refine h.unbroken_structureFault ?_
          rintro name rfl
          rw [ProcessDocument.eq_of_foreignRoot declared]
          exact markup

end Text.LineBreaks

/-- The line of a diagnostic breaks exactly if its path or its message does. -/
theorem Diagnostic.unbroken_text_iff (h : LineBreaks breaks) {x : Diagnostic} :
    Unbroken breaks x.text ↔
      (∀ p ∈ x.path, Unbroken breaks p.toString) ∧ Unbroken breaks x.message := by
  have label : Unbroken breaks x.label := by
    have name : Unbroken breaks x.severity.name := by
      cases x.severity <;> exact h.unbroken_ofList (by decide +kernel)
    unfold label
    simp only [unbroken_append_iff]
    exact ⟨⟨h.unbroken_ofList (by decide +kernel), name⟩, h.unbroken_ofList (by decide +kernel)⟩
  have blank : Unbroken breaks " " := h.unbroken_ofList (by decide +kernel)
  have colon : Unbroken breaks ":" := h.unbroken_ofList (by decide +kernel)
  unfold text textWith
  cases x.path with
  | none => simp [label, blank]
  | some p => simp [label, blank, colon]

/-! ### Stubs -/

/-- A document knows the path of its file. -/
theorem ProcessDocument.source_of_ofFile {t : FileTree} {p : Path} {document : ProcessDocument}
    (h : ofFile t p = .ok document) : document.source = some p := by
  unfold ofFile ofBytes at h
  split at h
  · cases h
  · split at h
    · cases h
    · exact congrArg ProcessDocument.source (ofElement_eq_ok_iff.mp (mapError_eq_ok_iff.mp h)).2.2

namespace Stub

/-- What the name of a type is made of: words for a service, and the name of the bean for an
interface. -/
theorem typeName_of_mem_ofDocument {package : String} {runtime : RuntimeReference}
    {document : ProcessDocument} {u : Stub} (h : u ∈ ofDocument package runtime document) :
    u.source = document.source ∧
      (u.kind = .service ∧ (∃ name, u.typeName = serviceTypeName name) ∨
        u.kind = .interface ∧ u.typeName = capitalized u.origin) := by
  obtain ⟨p, -, hu⟩ := List.mem_flatMap.mp h
  rcases List.mem_cons.mp hu with rfl | hu
  · exact ⟨rfl, .inl ⟨rfl, _, rfl⟩⟩
  · obtain ⟨call, -, rfl⟩ := List.mem_map.mp hu
    exact ⟨rfl, .inr ⟨rfl, rfl⟩⟩

/-- How it is told that the type name of a stub cannot be used. -/
def typeNameFailure (u : Stub) : Diagnostic :=
  ⟨.error, u.writeFailure (WriteProblem.unusableName .type u.typeName).message, u.source⟩

end Stub

/-! ### Events -/

variable {policy : CollisionPolicy}

/-- What is known of an event when its stub has its turn, as far as lines are concerned: it is in a
package with an unbroken name, comes from a source with an unbroken path, and so did the stub that
was written last for its module, which is one with usable names. -/
structure Event.Traced (breaks : Char → Bool) (e : Event) : Prop where
  package : Unbroken breaks e.stub.packageName
  source : ∀ q ∈ e.stub.source, Unbroken breaks q.toString
  previous : ∀ p ∈ e.previous, p.target = e.stub.target ∧ p.unusableName? = none ∧
    ∀ q ∈ p.source, Unbroken breaks q.toString

namespace Event

variable {e : Event}

/-- The qualified name breaks exactly where the type name does. -/
theorem Traced.unbroken_qualifiedName_iff (traced : e.Traced breaks) (h : LineBreaks breaks) :
    Unbroken breaks e.stub.qualifiedName ↔ Unbroken breaks e.stub.typeName := by
  have period : Unbroken breaks "." := h.unbroken_ofList (by decide +kernel)
  unfold Stub.qualifiedName
  split
  · rfl
  · simp [traced.package, period]

/-- A module that was written before has a name that does not break. -/
theorem Traced.unbroken_of_previous (traced : e.Traced breaks) (h : LineBreaks breaks) {p : Stub}
    (hp : e.previous = some p) : Unbroken breaks e.stub.typeName := by
  obtain ⟨target, usable, -⟩ := traced.previous p hp
  have name : p.typeName = e.stub.typeName := congrArg Prod.snd target
  rw [← name]
  exact h.unbroken_of_isIdentifier
    (isIdentifier_of_isUsableName (Stub.isUsableName_of_unusableName?_eq_none usable))

/-- Collisions are told on one line. -/
theorem Traced.unbroken_collision (traced : e.Traced breaks) (h : LineBreaks breaks) {p : Stub}
    (hp : e.previous = some p) : Unbroken breaks (Collision.mk e.stub p.source).message := by
  have name := (traced.unbroken_qualifiedName_iff h).mpr (traced.unbroken_of_previous h hp)
  have source := (traced.previous p hp).2.2
  unfold Collision.message collisionText
  simp only [unbroken_append_iff, and_assoc]
  refine ⟨h.unbroken_ofList (by decide +kernel), name, h.unbroken_ofList (by decide +kernel), ?_⟩
  cases hsource : p.source with
  | none =>
      have nothing : Unbroken breaks "" := h.unbroken_ofList (by decide +kernel)
      exact nothing
  | some q =>
      simp only [Option.map_some, Option.getD_some, unbroken_append_iff, and_assoc]
      exact ⟨h.unbroken_ofList (by decide +kernel), source q hsource,
        h.unbroken_ofList (by decide +kernel)⟩

/-- The failure of a stub with an unusable name breaks exactly where its type name does. -/
theorem Traced.unbroken_writeFailure_iff (traced : e.Traced breaks) (h : LineBreaks breaks)
    {problem : WriteProblem} (unusable : e.stub.unusableName? = some problem) :
    Unbroken breaks (e.stub.writeFailure problem.message) ↔ Unbroken breaks e.stub.typeName := by
  have opening : Unbroken breaks "Cannot write '" := h.unbroken_ofList (by decide +kernel)
  have middle : Unbroken breaks "': " := h.unbroken_ofList (by decide +kernel)
  have message : Unbroken breaks problem.message := by
    obtain ⟨use, name, rfl⟩ : ∃ use name, problem = .unusableName use name := by
      unfold Stub.unusableName? at unusable
      split at unusable
      · cases unusable
        exact ⟨_, _, rfl⟩
      · obtain ⟨o, -, rfl⟩ := Option.map_eq_some_iff.mp unusable
        exact ⟨_, _, rfl⟩
    unfold WriteProblem.message
    simp only [unbroken_append_iff, and_assoc]
    refine ⟨?_, h.unbroken_quoted _, h.unbroken_ofList (by decide +kernel)⟩
    cases use <;> exact h.unbroken_ofList (by decide +kernel)
  unfold Stub.writeFailure
  simp only [unbroken_append_iff, opening, middle, message, true_and, and_true]
  exact traced.unbroken_qualifiedName_iff h

/-- Where the type name does not break, all that an event tells is on one line. -/
theorem Traced.unbroken_diagnostics (traced : e.Traced breaks) (h : LineBreaks breaks)
    (outcome : Outcome policy e.previous e.stub e.emission)
    (name : Unbroken breaks e.stub.typeName) :
    ∀ x ∈ e.diagnostics policy, Unbroken breaks x.text := by
  intro x hx
  rw [Diagnostic.unbroken_text_iff h]
  rcases List.mem_append.mp hx with hx | hx
  · unfold collisionWarnings at hx
    split at hx
    · next p hp =>
        split at hx
        · rw [List.mem_singleton.mp hx]
          refine ⟨traced.source, unbroken_append_iff.mpr ⟨traced.unbroken_collision h hp, ?_⟩⟩
          exact h.unbroken_ofList (by decide +kernel)
        · cases hx
    · cases hx
  · obtain ⟨⟨y, code⟩, hy, rfl⟩ := Option.map_eq_some_iff.mp (Option.mem_toList.mp hx)
    unfold error? at hy
    cases hemission : e.emission with
    | rejected c =>
        rw [hemission] at hy outcome
        cases hy
        cases outcome with
        | rejected hp => exact ⟨traced.source, traced.unbroken_collision h hp⟩
    | failed problem =>
        rw [hemission] at hy outcome
        cases hy
        cases outcome with
        | failed _ unusable =>
            exact ⟨traced.source, (traced.unbroken_writeFailure_iff h unusable).mpr name⟩
    | written w =>
        rw [hemission] at hy
        cases hy
    | skipped =>
        rw [hemission] at hy
        cases hy
    | mistaken fault =>
        rw [hemission] at hy
        cases hy

/-- Where the type name breaks, all that an event tells is the failure of its stub, and that
breaks. -/
theorem Traced.broken_diagnostics (traced : e.Traced breaks) (h : LineBreaks breaks)
    (outcome : Outcome policy e.previous e.stub e.emission)
    (name : ¬ Unbroken breaks e.stub.typeName) :
    e.diagnostics policy = [e.stub.typeNameFailure] ∧
      ¬ Unbroken breaks e.stub.typeNameFailure.text := by
  have first : e.previous = none :=
    Option.eq_none_iff_forall_ne_some.mpr fun p hp => name (traced.unbroken_of_previous h hp)
  have unusable : e.stub.unusableName? = some (.unusableName .type e.stub.typeName) := by
    have type : isUsableName e.stub.typeName = false := by
      rw [Bool.eq_false_iff]
      exact fun usable => name (h.unbroken_of_isIdentifier (isIdentifier_of_isUsableName usable))
    rw [Stub.unusableName?, type]
    rfl
  have failed : e.emission = .failed (.unusableName .type e.stub.typeName) := by
    generalize e.emission = emission at outcome
    cases outcome with
    | written _ usable =>
        rw [usable] at unusable
        cases unusable
    | skipped hp =>
        rw [hp] at first
        cases first
    | rejected hp =>
        rw [hp] at first
        cases first
    | failed _ problem => rw [Option.some.inj (problem.symm.trans unusable)]
  refine ⟨?_, ?_⟩
  · rw [diagnostics, error?, failed, first]
    rfl
  · rw [Diagnostic.unbroken_text_iff h]
    exact fun broken => name ((traced.unbroken_writeFailure_iff h unusable).mp broken.2)

end Event

/-! ### Runs -/

section runs

variable {s : Settings} {files : FileTree} {paths : List Path} {entries : List Entry}
  {report : Report}

/-- The stub of an event is one of the document at the path of its entry. -/
theorem Entry.Faithful.stub {runtime : RuntimeReference}
    (hr : runtimeOf s.runtimeService = .ok runtime) {x : Entry} (faithful : x.Faithful s files)
    {e : Event} (he : e ∈ x.events) :
    e.stub.packageName = s.packageName ∧ e.stub.source = some x.path ∧
      ∃ document, e.stub ∈ Stub.ofDocument s.packageName runtime document := by
  obtain ⟨path, content⟩ := x
  cases content with
  | error fault => cases he
  | ok events =>
      obtain ⟨document, read, stubs⟩ := faithful
      rw [Settings.stubsOf_eq hr document] at stubs
      have mem : e.stub ∈ Stub.ofDocument s.packageName runtime document :=
        Except.ok.inj stubs ▸ List.mem_map_of_mem he
      refine ⟨Stub.packageName_of_mem_ofDocument mem, ?_, document, mem⟩
      rw [(Stub.typeName_of_mem_ofDocument mem).1]
      exact ProcessDocument.source_of_ofFile read

/-- The events of a run into which no path brings a line break. -/
theorem Accounts.traced {runtime : RuntimeReference}
    (hr : runtimeOf s.runtimeService = .ok runtime) (h : LineBreaks breaks)
    (package : isPackageName s.packageName = true)
    (plain : ∀ p ∈ paths, Unbroken breaks p.toString)
    (accounts : Accounts s files paths entries report) {e : Event}
    (he : e ∈ entries.flatMap Entry.events) : e.Traced breaks := by
  have source : ∀ e ∈ entries.flatMap Entry.events, ∀ q ∈ e.stub.source,
      Unbroken breaks q.toString := by
    intro e he q hq
    obtain ⟨x, hx, hex⟩ := List.mem_flatMap.mp he
    rw [((accounts.faithful x hx).stub hr hex).2.1] at hq
    cases hq
    exact plain x.path (accounts.paths_eq ▸ List.mem_map_of_mem hx)
  obtain ⟨x, hx, hex⟩ := List.mem_flatMap.mp he
  refine ⟨?_, source e he, ?_⟩
  · rw [((accounts.faithful x hx).stub hr hex).1]
    exact h.unbroken_of_isPackageName package
  · intro p hp
    obtain ⟨before, after, heq⟩ := List.append_of_mem he
    rw [(accounts.history before e after heq).1] at hp
    obtain ⟨w, hw, hwp⟩ := Option.map_eq_some_iff.mp hp
    have written : w ∈ Event.writes before :=
      List.mem_reverse.mp (List.mem_of_find?_eq_some hw)
    obtain ⟨e', he', hwe⟩ := List.mem_filterMap.mp written
    obtain ⟨before', after', rfl⟩ := List.append_of_mem he'
    have earlier := accounts.history before' e' (after' ++ e :: after) (by simp [heq])
    obtain ⟨stub, usable, -⟩ := earlier.2.of_write? hwe
    rw [stub] at hwp
    subst hwp
    exact ⟨target_of_lastWritten hp, usable, source e' (by simp [heq])⟩

/-- The stubs of events are in the report. -/
theorem Books.stub_mem (h : Books s files entries report) {e : Event}
    (he : e ∈ entries.flatMap Entry.events) : e.stub ∈ report.stubs := by
  obtain ⟨⟨path, content⟩, hx, he⟩ := List.mem_flatMap.mp he
  cases content with
  | error fault => cases he
  | ok events =>
      have listed : e.stub ∈ (Entry.result ⟨path, .ok events⟩).stubs := List.mem_map_of_mem he
      refine List.mem_flatMap.mpr ⟨_, ?_, listed⟩
      rw [h.files_eq]
      exact List.mem_map_of_mem hx

/-- What an entry tells is that its document could not be read, or what its events tell. -/
theorem Entry.mem_diagnostics_iff {y : Entry} {x : Diagnostic} :
    x ∈ y.diagnostics policy ↔
      (∃ fault, y.content = .error fault ∧ x = ⟨.error, fault.message, some y.path⟩) ∨
        ∃ e ∈ y.events, x ∈ e.diagnostics policy := by
  obtain ⟨path, content⟩ := y
  cases content with
  | error fault => simp [Entry.diagnostics, Entry.events]
  | ok events => simp [Entry.diagnostics, Entry.events]

/-- The type name of a stub breaks exactly if it is an interface of a bean whose name does. -/
theorem Stub.unbroken_typeName_iff (h : LineBreaks breaks) {package : String}
    {runtime : RuntimeReference} {document : ProcessDocument} {u : Stub}
    (hu : u ∈ Stub.ofDocument package runtime document) :
    Unbroken breaks u.typeName ↔ (u.kind = .interface → Unbroken breaks u.origin) := by
  rcases (typeName_of_mem_ofDocument hu).2 with ⟨kind, name, type⟩ | ⟨kind, type⟩
  · have suffix : Unbroken breaks serviceSuffix := h.unbroken_ofList (by decide +kernel)
    have words : Unbroken breaks u.typeName := by
      rw [type]
      exact unbroken_append_iff.mpr ⟨h.unbroken_pascalCase name, suffix⟩
    simp [words, kind]
  · rw [type, h.unbroken_capitalized_iff]
    simp [kind]

/-- So does the type name of the stub of an event. -/
theorem Accounts.unbroken_typeName_iff (accounts : Accounts s files paths entries report)
    {runtime : RuntimeReference} (hr : runtimeOf s.runtimeService = .ok runtime)
    (h : LineBreaks breaks) {e : Event} (he : e ∈ entries.flatMap Entry.events) :
    Unbroken breaks e.stub.typeName ↔
      (e.stub.kind = .interface → Unbroken breaks e.stub.origin) := by
  obtain ⟨y, hy, hey⟩ := List.mem_flatMap.mp he
  obtain ⟨-, -, document, hu⟩ := (accounts.faithful y hy).stub hr hey
  exact Stub.unbroken_typeName_iff h hu

/-- Each event is an outcome of its stub. -/
theorem Accounts.outcome (accounts : Accounts s files paths entries report) {e : Event}
    (he : e ∈ entries.flatMap Entry.events) :
    Outcome s.collisionPolicy e.previous e.stub e.emission := by
  obtain ⟨before, after, heq⟩ := List.append_of_mem he
  exact (accounts.history before e after heq).2

/-- The diagnostics that break are the failures of the interfaces of beans whose names break. -/
theorem Accounts.broken_iff {runtime : RuntimeReference}
    (hr : runtimeOf s.runtimeService = .ok runtime) (h : LineBreaks breaks)
    (package : isPackageName s.packageName = true) (quiet : s.diagnostics = [])
    (plain : ∀ p ∈ paths, Unbroken breaks p.toString)
    (accounts : Accounts s files paths entries report) (x : Diagnostic) :
    x ∈ report.diagnostics ∧ ¬ Unbroken breaks x.text ↔
      ∃ u ∈ report.stubs, u.kind = .interface ∧ ¬ Unbroken breaks u.origin ∧
        x = u.typeNameFailure := by
  rw [accounts.diagnostics_eq, quiet, List.nil_append]
  constructor
  · rintro ⟨hx, broken⟩
    obtain ⟨y, hy, hx⟩ := List.mem_flatMap.mp hx
    rcases Entry.mem_diagnostics_iff.mp hx with ⟨fault, content, rfl⟩ | ⟨e, hey, hx⟩
    · refine absurd ((Diagnostic.unbroken_text_iff h).mpr ⟨?_, ?_⟩) broken
      · intro p hp
        cases hp
        exact plain _ (accounts.paths_eq ▸ List.mem_map_of_mem hy)
      · have read := accounts.faithful y hy
        rw [Entry.Faithful, content] at read
        exact h.unbroken_of_ofFile read
    · have he : e ∈ entries.flatMap Entry.events := List.mem_flatMap.mpr ⟨y, hy, hey⟩
      have traced := accounts.traced hr h package plain he
      have type : ¬ Unbroken breaks e.stub.typeName :=
        fun unbroken => broken (traced.unbroken_diagnostics h (accounts.outcome he) unbroken x hx)
      rw [(traced.broken_diagnostics h (accounts.outcome he) type).1, List.mem_singleton] at hx
      rw [accounts.unbroken_typeName_iff hr h he, Classical.not_imp] at type
      exact ⟨e.stub, accounts.stub_mem he, type.1, type.2, hx⟩
  · rintro ⟨u, hu, kind, broken, rfl⟩
    obtain ⟨e, he, rfl⟩ := accounts.exists_event hu
    have traced := accounts.traced hr h package plain he
    have type : ¬ Unbroken breaks e.stub.typeName :=
      fun unbroken => broken ((accounts.unbroken_typeName_iff hr h he).mp unbroken kind)
    obtain ⟨diagnostics, text⟩ := traced.broken_diagnostics h (accounts.outcome he) type
    obtain ⟨y, hy, hey⟩ := List.mem_flatMap.mp he
    refine ⟨List.mem_flatMap.mpr ⟨y, hy, Entry.mem_diagnostics_iff.mpr (.inr ⟨e, hey, ?_⟩)⟩, text⟩
    rw [diagnostics]
    exact List.mem_singleton_self _

end runs

namespace Run

/-- **Diagnostics of one line.** For a run with frozen settings that leaves files, over paths
without line breaks, and whatever its documents hold: the diagnostics that break are the failures of
the interfaces of beans whose names break, all of these and no others. So each diagnostic is on one
line exactly if the name of each bean that has an interface is. -/
theorem diagnostics_of_one_line {draft : Draft} {tree : FileTree} {s : Settings} {d : Destination}
    {paths : List Path}
    (frozen : draft.freeze tree = .ok s) (quiet : s.diagnostics = [])
    (hd : d.leavesFiles = true) (h : LineBreaks breaks) (store : Store)
    (plain : ∀ p ∈ paths, Unbroken breaks p.toString) :
    ((∀ p ∈ paths, p.hasZero = false) → ∃ r, ofDocuments s d store paths = .ok r) ∧
      ∀ r, ofDocuments s d store paths = .ok r →
        (∀ x, x ∈ r.report.diagnostics ∧ ¬ Unbroken breaks x.text ↔
          ∃ u ∈ r.report.stubs, u.kind = .interface ∧ ¬ Unbroken breaks u.origin ∧
            x = u.typeNameFailure) ∧
        ((∀ x ∈ r.report.diagnostics, Unbroken breaks x.text) ↔
          ∀ u ∈ r.report.stubs, u.kind = .interface → Unbroken breaks u.origin) := by
  obtain ⟨package, runtime, hr⟩ := Draft.freeze_ok frozen
  refine ⟨fun possible => ?_, fun r run => ?_⟩
  · obtain ⟨r, -, run, -⟩ := exists_accounts frozen hd store possible
    exact ⟨r, run⟩
  · obtain ⟨entries, accounts⟩ := accounts_of_run frozen hd store run
    have broken := accounts.broken_iff hr h package quiet plain
    refine ⟨broken, fun unbroken u hu kind => ?_, fun origins x hx => ?_⟩
    · by_contra origin
      obtain ⟨hx, text⟩ := (broken u.typeNameFailure).mpr ⟨u, hu, kind, origin, rfl⟩
      exact text (unbroken _ hx)
    · by_contra text
      obtain ⟨u, hu, kind, origin, -⟩ := (broken x).mp ⟨hx, text⟩
      exact origin (origins u hu kind)

/-! ### A name with a line break -/

/-- The text of a document that calls a bean whose name holds a line feed. -/
def breakingProcess : String :=
  "<definitions xmlns=\"http://www.omg.org/spec/BPMN/20100524/MODEL\" " ++
    "xmlns:a=\"http://activiti.org/bpmn\"><process id=\"A\" isExecutable=\"true\">" ++
    "<serviceTask id=\"t\" a:expression=\"$\x7ba&#10;b.m()\x7d\"/></process></definitions>"

/-- A tree with the document. -/
def breakingTree : FileTree := ⟨[], [(["a.bpmn"], .file breakingProcess.toUTF8)]⟩

/-- The interface of the bean. -/
def breakingInterface : Stub :=
  .ofBeanCall Settings.defaultPackage (some solePath) ⟨"a\nb", "m"⟩

/-- The stubs of the document. -/
def breakingStubs : List Stub :=
  [soleService ⟨"bpmngen.runtime", "RuntimeService"⟩ solePath, breakingInterface]

/-- The document as it is read. -/
def breakingDocument (source : Option Path) : ProcessDocument :=
  ⟨[⟨"A", none, true, [.serviceTask ⟨"t", none, .bound .expression "$\x7ba\nb.m()\x7d"⟩]⟩], [],
    source⟩

/-- The document is read, and it gives the stubs. -/
theorem stubsOf_breakingDocument :
    ProcessDocument.ofFile breakingTree solePath = .ok (breakingDocument (some solePath)) ∧
      Settings.standard.stubsOf (breakingDocument (some solePath)) = .ok breakingStubs := by
  have read : (ProcessDocument.ofBytes none breakingProcess.toUTF8).toOption =
      some (breakingDocument none) := by decide +kernel
  have stubs : Stub.ofDocument Settings.standard.packageName
      ⟨"bpmngen.runtime", "RuntimeService"⟩ (breakingDocument (some solePath)) =
        breakingStubs := by decide +kernel
  constructor
  · rw [ProcessDocument.ofFile, read_solePath rfl]
    exact ProcessDocument.ofBytes_of_toOption read solePath
  · rw [Settings.stubsOf_eq Settings.runtimeOf_standard, stubs]

/-- The interface is a stub of a run over the document. -/
theorem breakingInterface_mem {entries : List Entry} {report : Report}
    (accounts : Accounts Settings.standard breakingTree [solePath] entries report) :
    breakingInterface ∈ report.stubs := by
  obtain ⟨read, stubs⟩ := stubsOf_breakingDocument
  obtain ⟨x, rfl, hx⟩ := List.map_eq_singleton_iff.mp accounts.paths_eq
  have faithful := accounts.faithful x (List.mem_singleton_self _)
  obtain ⟨events, rfl, turns⟩ := faithful.exists_events hx read stubs
  have turn : breakingInterface ∈ events.map Event.stub := turns ▸ by simp [breakingStubs]
  obtain ⟨e, he, heq⟩ := List.mem_map.mp turn
  rw [← heq]
  exact accounts.stub_mem (List.mem_flatMap.mpr ⟨_, List.mem_singleton_self _, he⟩)

/-- A run over the document has its accounts. -/
theorem accounts_breakingTree : ∃ r entries,
    ofDocuments Settings.standard .memory ⟨[], breakingTree⟩ [solePath] = .ok r ∧
      Accounts Settings.standard breakingTree [solePath] entries r.report :=
  exists_accounts (d := .memory) Draft.freeze_empty rfl ⟨[], breakingTree⟩
    (by simp [solePath, Path.hasZero])

/-- In a run over the document, nothing breaks but what is said of the interface. -/
theorem diagnostics_of_one_line_breakingTree :
    Draft.empty.freeze breakingTree = .ok Settings.standard ∧
      Settings.standard.diagnostics = [] ∧ Destination.memory.leavesFiles = true ∧
      LineBreaks isLineBoundary ∧ (∀ p ∈ [solePath], Unbroken isLineBoundary p.toString) ∧
      (∀ p ∈ [solePath], p.hasZero = false) ∧
      ∃ r, ofDocuments Settings.standard .memory ⟨[], breakingTree⟩ [solePath] = .ok r ∧
        (∀ x, x ∈ r.report.diagnostics ∧ ¬ Unbroken isLineBoundary x.text ↔
          ∃ u ∈ r.report.stubs, u.kind = .interface ∧ ¬ Unbroken isLineBoundary u.origin ∧
            x = u.typeNameFailure) ∧
        ((∀ x ∈ r.report.diagnostics, Unbroken isLineBoundary x.text) ↔
          ∀ u ∈ r.report.stubs, u.kind = .interface → Unbroken isLineBoundary u.origin) := by
  have lines : LineBreaks isLineBoundary := fun _ => id
  have plain : ∀ p ∈ [solePath], Unbroken isLineBoundary p.toString := by decide +kernel
  have possible : ∀ p ∈ [solePath], p.hasZero = false := by simp [solePath, Path.hasZero]
  obtain ⟨ends, told⟩ := diagnostics_of_one_line (d := .memory) Draft.freeze_empty rfl rfl lines
    ⟨[], breakingTree⟩ plain
  obtain ⟨r, run⟩ := ends possible
  exact ⟨Draft.freeze_empty, rfl, rfl, lines, plain, possible, r, run, told r run⟩

/-- **A diagnostic of two lines**: the error about the interface holds the line feed of the bean's
name. -/
theorem not_unbroken_diagnostics_lineFeed :
    Draft.empty.freeze breakingTree = .ok Settings.standard ∧
      Settings.standard.diagnostics = [] ∧ (∀ p ∈ [solePath], OneLine p.toString) ∧
      ∃ r, ofDocuments Settings.standard .memory ⟨[], breakingTree⟩ [solePath] = .ok r ∧
        ∃ x ∈ r.report.diagnostics, x.text =
            "[error] /a.bpmn: Cannot write 'generated.A\nb': type name 'A\\nb' is not a valid " ++
              "Python identifier" ∧
          ¬ OneLine x.text := by
  have plain : ∀ p ∈ [solePath], Unbroken isLineBreak p.toString := by decide +kernel
  obtain ⟨r, entries, run, accounts⟩ := accounts_breakingTree
  have broken := (accounts.broken_iff Settings.runtimeOf_standard lineBreaks_isLineBreak
    (by decide +kernel) rfl plain breakingInterface.typeNameFailure).mpr
      ⟨_, breakingInterface_mem accounts, rfl, by decide +kernel, rfl⟩
  exact ⟨Draft.freeze_empty, rfl, plain, r, run, _, broken.1, by decide +kernel, broken.2⟩

end Run

end ProcessStubs
