import ProcessStubs.Proofs.ModuleHeader
import ProcessStubs.Proofs.Overwritten
import ProcessStubs.Proofs.Turns

/-!
# Modules with the same text

A run passes a stub over if it is equal, but for its source, to the stub that was written last for
the same module. It never compares texts, and it does not have to: of the stubs that settings make
for one module, equal texts below the header are those of equal stubs.

The documentation decides most of this. It is the first line below the header, and a literal whose
sentence tells a service from an interface and names the process or the bean. Of a service nothing
else is left to be decided. Of an interface it is the method, which stands in one line of the text
as it is, between lines that are equal already.

## Main definitions

* `Stub.Made`: the stubs that are made for a package and a runtime.
* `Run.HasTurn`: a stub whose turn has come in a run over documents.

## Main results

* `Stub.kind_origin_of_documentation`: a documentation decides on what it is about.
* `Stub.Made.moduleText_eq_iff`: equal texts are those of equal stubs.
* `Settings.moduleText_eq_iff_of_stubsOf`: the check of a run finds the stubs whose texts are equal.
-/

namespace ProcessStubs

open Text

namespace Stub

/-! ### What a text decides on -/

variable {u v : Stub}

/-- Without their sources, modules have the same text exactly if they have it below the header. -/
theorem moduleText_withoutSource_eq_iff :
    u.withoutSource.moduleText = v.withoutSource.moduleText ↔
      u.textBelowHeader = v.textBelowHeader := by
  have text (w : Stub) :
      w.withoutSource.moduleText = headerLine none ++ "\n" ++ w.textBelowHeader :=
    w.moduleText_withSource none
  rw [text, text, String.append_right_inj]

/-- The first line below the header is the documentation. -/
theorem firstLine_textBelowHeader (u : Stub) : firstLine u.textBelowHeader = u.documentation := by
  have text : u.textBelowHeader = u.documentation ++ "\n" ++
      (joinWith "\n" ("" :: (importBlock u.imports ++ [""] ++ u.bodyLines)) ++ "\n") := by
    simp only [textBelowHeader, linesBelowHeader, List.cons_append, List.nil_append,
      String.append_assoc]
    rw [joinWith, String.append_assoc, String.append_assoc]
    exact List.cons_ne_nil _ _
  rw [text]
  exact (firstLine_append_lineFeed (oneLine_documentation u) _).1

/-- A sentence tells what kind of stub it is about, and by which name. -/
theorem sentence_injective {kind kind' : StubKind} {name name' : List Char}
    (h : sentence kind name = sentence kind' name') : kind = kind' ∧ name = name' := by
  cases kind <;> cases kind'
  case service.service =>
    exact ⟨rfl, List.append_cancel_left (List.append_cancel_right h)⟩
  case interface.interface =>
    exact ⟨rfl, List.append_cancel_left (List.append_cancel_right h)⟩
  -- The first letters differ.
  case service.interface => cases h
  case interface.service => cases h

/-- **A documentation decides on what it is about**: the kind of the stub and its origin. -/
theorem kind_origin_of_documentation (h : u.documentation = v.documentation) :
    u.kind = v.kind ∧ u.origin = v.origin := by
  have read := u.readLiteral?_documentation
  rw [h, v.readLiteral?_documentation] at read
  obtain ⟨kind, quoted⟩ := sentence_injective (congrArg Literal.value (Option.some.inj read))
  obtain ⟨quote, name⟩ := List.cons.inj quoted
  rw [quote] at name
  exact ⟨kind.symm, String.toList_inj.mp (List.append_cancel_right name).symm⟩

/-! ### Stubs that are made -/

/-- The stubs that are made for a package and a runtime, from any source. -/
inductive Made (package : String) (runtime : RuntimeReference) : Stub → Prop
  | service (source : Option Path) (id displayName : String) :
      Made package runtime (ofProcess package runtime source id displayName)
  | interface (source : Option Path) (call : BeanCall) :
      Made package runtime (ofBeanCall package source call)

/-- The stubs of a document are made for the package and the runtime. -/
theorem made_of_mem_ofDocument {package : String} {runtime : RuntimeReference}
    {document : ProcessDocument} (h : u ∈ ofDocument package runtime document) :
    Made package runtime u := by
  obtain ⟨p, -, hu⟩ := List.mem_flatMap.mp h
  rcases List.mem_cons.mp hu with rfl | hu
  · exact .service document.source p.id (p.displayName document.participants)
  · obtain ⟨call, -, rfl⟩ := List.mem_map.mp hu
    exact .interface document.source call

/-- The text of an interface below its header is that of its method between two texts. -/
theorem textBelowHeader_ofBeanCall (package : String) (source : Option Path) (call : BeanCall) :
    (ofBeanCall package source call).textBelowHeader =
      joinWith "\n" [
        (ofBeanCall package source call).documentation, "", "from __future__ import annotations",
        "", "from abc import ABC, abstractmethod", "", "",
        "class " ++ capitalized call.bean ++ "(ABC):",
        "    " ++ (ofBeanCall package source call).documentation, "", "    @abstractmethod",
        "    def "] ++ call.method ++ "(self):\n        ...\n" := by
  have lines := moduleLines_ofBeanCall package source call
  rw [moduleLines_eq_cons] at lines
  have close : ":\n        ...\n" = ":" ++ ("\n" ++ ("        ..." ++ "\n")) := by decide
  rw [textBelowHeader, (List.cons.inj lines).2]
  simp only [joinWith, String.append_assoc]
  rfl

/-- Two interfaces of one bean whose texts are equal below their headers have the same method. -/
theorem method_of_textBelowHeader {package bean method method' : String}
    {source source' : Option Path}
    (h : (ofBeanCall package source ⟨bean, method⟩).textBelowHeader =
      (ofBeanCall package source' ⟨bean, method'⟩).textBelowHeader) : method = method' := by
  have same : (ofBeanCall package source' ⟨bean, method'⟩).documentation =
      (ofBeanCall package source ⟨bean, method⟩).documentation := rfl
  rw [textBelowHeader_ofBeanCall, textBelowHeader_ofBeanCall, same, String.append_left_inj,
    String.append_right_inj] at h
  exact h

/-- **Equal texts are those of equal stubs**, of those that are made for one package and one runtime
and have the same target. -/
theorem Made.moduleText_eq_iff {package : String} {runtime : RuntimeReference}
    (hu : Made package runtime u) (hv : Made package runtime v) (target : u.target = v.target) :
    u.withoutSource.moduleText = v.withoutSource.moduleText ↔
      u.withoutSource = v.withoutSource := by
  refine ⟨fun h => ?_, fun h => by rw [h]⟩
  have text := moduleText_withoutSource_eq_iff.mp h
  have documentation : u.documentation = v.documentation := by
    rw [← firstLine_textBelowHeader, ← firstLine_textBelowHeader, text]
  obtain ⟨kind, origin⟩ := kind_origin_of_documentation documentation
  have type : u.typeName = v.typeName := congrArg Prod.snd target
  cases hu with
  | service source id displayName =>
      cases hv with
      | service source' id' displayName' =>
          -- The runtime is the same, so the id and the name of the type are all there is.
          obtain rfl : id = id' := origin
          exact congrArg (fun name => Stub.mk package name .service [startOperation id] _ id none)
            type
      | interface => cases kind
  | interface source call =>
      cases hv with
      | service => cases kind
      | interface source' call' =>
          -- The documentation does not name the method, which is read off the whole text.
          obtain ⟨bean, method⟩ := call
          obtain ⟨bean', method'⟩ := call'
          obtain rfl : bean = bean' := origin
          obtain rfl := method_of_textBelowHeader text
          rfl

end Stub

/-! ### The check of a run -/

variable {s : Settings} {d : Destination} {policy : CollisionPolicy} {runtime : RuntimeReference}
  {u : Stub}

/-- The stubs that settings give are made for their package and their runtime. -/
theorem Settings.made_of_mem_stubsOf (hr : runtimeOf s.runtimeService = .ok runtime)
    {document : ProcessDocument} {stubs : List Stub} (h : s.stubsOf document = .ok stubs) :
    ∀ u ∈ stubs, u.Made s.packageName runtime := by
  rw [stubsOf_eq hr] at h
  cases h
  exact fun _ => Stub.made_of_mem_ofDocument

/-- What is in mind agrees with what was written, and all of that was made for a package and a
runtime. -/
structure Recalls (package : String) (runtime : RuntimeReference) (writes : List Write)
    (latest : List ((String × String) × Stub)) : Prop where
  /-- The last write for each module is in mind. -/
  last : ∀ target, Assoc.get? target latest = lastWritten target writes
  /-- All writes were of stubs that are made. -/
  made : ∀ w ∈ writes, w.stub.Made package runtime

/-- The turn of a stub that is made leaves this as it is. -/
theorem Recalls.turned {package : String} {writes : List Write}
    {latest latest' : List ((String × String) × Stub)} {store store' : Store} {w? : Option Write}
    (h : Recalls package runtime writes latest) (hu : u.Made package runtime)
    (turned : Turned d u latest store w? latest' store') :
    Recalls package runtime (writes ++ w?.toList) latest' := by
  cases turned with
  | passed | failed => simpa using h
  | @written w _ _ written =>
      obtain ⟨rfl, -⟩ := Destination.stub_of_write written
      exact ⟨get?_put_eq_lastWritten h.last w,
        List.forall_mem_append.mpr ⟨h.made, List.forall_mem_singleton.mpr hu⟩⟩

namespace Run

variable {r : Run}

/-- A stub that is written, or cannot be, is not passed over. -/
theorem write_ne_skipped (r : Run) (d : Destination) (u : Stub) : (r.write d u).1 ≠ .skipped := by
  rw [write]
  rcases d.write r.store u with ⟨problem | w, store⟩
  · dsimp only
    split <;> simp
  · simp

/-- A stub is passed over exactly if the stub that is in mind for its module is equal, but for its
source. -/
theorem emit_eq_skipped_iff :
    (r.emit policy d u).1 = .skipped ↔
      ∃ v, Assoc.get? u.target r.latest = some v ∧ v.withoutSource = u.withoutSource := by
  rw [emit, standing]
  cases Assoc.get? u.target r.latest with
  | none => simp [write_ne_skipped]
  | some v =>
      by_cases same : v.withoutSource = u.withoutSource
      · simp [same]
      · cases policy <;> simp [same, write_ne_skipped]

/-- A stub has its turn in a run over documents, after some writes: some documents are done, and so
are the stubs before it of another document. -/
inductive HasTurn (s : Settings) (d : Destination) (store : Store) :
    Run → List Write → Stub → Prop
  | mk {paths : List Path} {r : Run} {document : ProcessDocument} {before after : List Stub}
      {u : Stub} (log : List LogEntry) :
      paths.foldlM (addDocument s d) (.start s.diagnostics store) = .ok r →
      s.stubsOf document = .ok (before ++ u :: after) →
      HasTurn s d store (emitAll s.collisionPolicy d { r with log := log } before).2
        (r.report.writes ++ (emitAll s.collisionPolicy d { r with log := log } before).1.filterMap
          Emission.write?) u

/-- When a stub has its turn, the last write for each module is in mind. -/
theorem HasTurn.recalls (hr : runtimeOf s.runtimeService = .ok runtime) {store : Store}
    {past : List Write} (h : HasTurn s d store r past u) :
    Recalls s.packageName runtime past r.latest ∧ u.Made s.packageName runtime := by
  obtain @⟨paths, r, document, before, after, _, log, walked, made⟩ := h
  have stubs := Settings.made_of_mem_stubsOf hr made
  have reached : Recalls s.packageName runtime r.report.writes r.latest := by
    refine invariant_foldlM (P := fun writes latest _ =>
      Recalls s.packageName runtime writes latest) ?_ (fun _ => id) ?_ walked
    · rintro writes latest store u w? latest' store' ⟨p, -, t, document, stubs, -, made, hu⟩ kept
      exact kept.turned (Settings.made_of_mem_stubsOf hr made u hu)
    · exact ⟨fun _ => rfl, nofun⟩
  refine ⟨?_, stubs u (by simp)⟩
  refine invariant_emitAll (P := fun writes latest _ =>
    Recalls s.packageName runtime writes latest) s.collisionPolicy (r := { r with log := log }) ?_
    reached
  intro writes latest store v w? latest' store' hv kept
  exact kept.turned (stubs v (List.mem_append_left _ hv))

end Run

/-- **The check of a run finds the stubs whose texts are equal.** Settings with a runtime that can
be read give stubs for every document. If two of them, of the same or of different documents, have
the same target, then without their sources they have the same text exactly if they are equal. So in
every run with these settings, a stub whose turn has come is passed over exactly if the stub that
was written last for its module has the same text, without the sources of both. -/
theorem Settings.moduleText_eq_iff_of_stubsOf (hr : runtimeOf s.runtimeService = .ok runtime) :
    (∀ document document', ∃ stubs stubs', s.stubsOf document = .ok stubs ∧
      s.stubsOf document' = .ok stubs' ∧
      ∀ u ∈ stubs, ∀ v ∈ stubs', u.target = v.target →
        (u.withoutSource.moduleText = v.withoutSource.moduleText ↔
          u.withoutSource = v.withoutSource)) ∧
    ∀ d store r past u, Run.HasTurn s d store r past u →
      ((r.emit s.collisionPolicy d u).1 = .skipped ↔
        ∃ v, lastWritten u.target past = some v ∧
          v.withoutSource.moduleText = u.withoutSource.moduleText) := by
  constructor
  · intro document document'
    refine ⟨_, _, stubsOf_eq hr document, stubsOf_eq hr document', ?_⟩
    intro u hu v hv target
    exact (Stub.made_of_mem_ofDocument hu).moduleText_eq_iff (Stub.made_of_mem_ofDocument hv) target
  · intro d store r past u turn
    obtain ⟨recalls, hu⟩ := turn.recalls hr
    rw [Run.emit_eq_skipped_iff, recalls.last]
    refine exists_congr fun v => and_congr_right fun written => ?_
    obtain ⟨w, hw, rfl⟩ := Option.map_eq_some_iff.mp written
    have hv := recalls.made w (List.mem_reverse.mp (List.mem_of_find?_eq_some hw))
    exact (hv.moduleText_eq_iff hu (target_of_lastWritten written)).symm

/-- A run into memory that has emitted the first two stubs of the document that calls two methods of
one bean, and what became of these stubs. -/
def Run.beforeLast : List Emission × Run :=
  emitAll .warn .memory (.start [] ⟨[], ⟨[], []⟩⟩) (clashingStubs.take 2)

/-- The interfaces of a bean for two methods have the same target and different texts. So when the
second one has its turn, after the first one was written, it is not passed over. -/
theorem Settings.moduleText_eq_iff_of_stubsOf_mailer :
    runtimeOf standard.runtimeService = .ok ⟨"bpmngen.runtime", "RuntimeService"⟩ ∧
      (mailerInterface "send").target = (mailerInterface "class").target ∧
      (mailerInterface "send").withoutSource.moduleText ≠
        (mailerInterface "class").withoutSource.moduleText ∧
      Run.HasTurn standard .memory ⟨[], ⟨[], []⟩⟩ Run.beforeLast.2
        (Run.beforeLast.1.filterMap Emission.write?) (mailerInterface "class") ∧
      (Run.beforeLast.2.emit .warn .memory (mailerInterface "class")).1 ≠ .skipped := by
  obtain ⟨-, made⟩ := stubsOf_clashingDocument (s := standard) rfl rfl
  obtain ⟨stubsOf, turns⟩ := moduleText_eq_iff_of_stubsOf runtimeOf_standard
  obtain ⟨stubs, stubs', h, h', same⟩ := stubsOf _ _
  cases made.symm.trans h
  cases made.symm.trans h'
  have different : (mailerInterface "send").withoutSource.moduleText ≠
      (mailerInterface "class").withoutSource.moduleText := by
    intro text
    have equal := (same (mailerInterface "send") (by simp [clashingStubs])
      (mailerInterface "class") (by simp [clashingStubs]) rfl).mp text
    exact absurd (congrArg Stub.operations equal) (by decide)
  have split : standard.stubsOf (clashingDocument (some solePath)) =
      .ok (clashingStubs.take 2 ++ mailerInterface "class" :: []) := made
  have walked : [].foldlM (Run.addDocument standard .memory) (.start [] ⟨[], ⟨[], []⟩⟩) =
      .ok (.start [] ⟨[], ⟨[], []⟩⟩) := rfl
  have turn : Run.HasTurn standard .memory ⟨[], ⟨[], []⟩⟩ Run.beforeLast.2
      (Run.beforeLast.1.filterMap Emission.write?) (mailerInterface "class") :=
    .mk [] walked split
  have last : lastWritten (mailerInterface "class").target
      (Run.beforeLast.1.filterMap Emission.write?) = some (mailerInterface "send") := by
    decide +kernel
  refine ⟨runtimeOf_standard, rfl, different, turn, fun skipped => ?_⟩
  obtain ⟨v, known, text⟩ := (turns _ _ _ _ _ turn).mp skipped
  cases last.symm.trans known
  exact different text

end ProcessStubs
