import ProcessStubs.Discovery
import ProcessStubs.Proofs.ModuleLines

/-!
# The header of a module

A module is its header, which is about its source alone, and a text that does not depend on the
source. The name of the source is spliced into the header as it is. So the header is the first line
of the module exactly if that name is of one line; each line break in the name makes what follows it
a line of the module.

## Main results

* `breakLines_withSource`: the lines of a module are those of its header and others that no source
  decides on.
* `header_confined_iff`: two sources show in the first line alone exactly if the names of both are
  of one line.
-/

namespace ProcessStubs

open Text

/-! ### First lines -/

namespace Text

/-- What stands in a text before its first line break. -/
def firstLine (s : String) : String := String.ofList (s.toList.takeWhile fun c => !isLineBreak c)

/-- What follows the first line break of a text. -/
def belowFirstLine (s : String) : String :=
  String.ofList ((s.toList.dropWhile fun c => !isLineBreak c).drop 1)

/-- The parts of a text of one line are of one line. -/
theorem OneLine.of_append {s t : String} (h : OneLine (s ++ t)) : OneLine s ∧ OneLine t := by
  simp only [OneLine, String.toList_append, List.mem_append] at h ⊢
  exact ⟨fun c hc => h c (.inl hc), fun c hc => h c (.inr hc)⟩

/-- A first line is of one line. -/
theorem oneLine_firstLine (s : String) : OneLine (firstLine s) := by
  intro c hc
  rw [firstLine, String.toList_ofList] at hc
  have kept := List.all_takeWhile (p := fun c => !isLineBreak c) (l := s.toList)
  simpa using List.all_eq_true.mp kept c hc

variable {s : String}

/-- A text of one line is the first line where a line feed follows it, and the rest is below. -/
theorem firstLine_append_lineFeed (h : OneLine s) (t : String) :
    firstLine (s ++ "\n" ++ t) = s ∧ belowFirstLine (s ++ "\n" ++ t) = t := by
  have chars : (s ++ "\n" ++ t).toList = s.toList ++ '\n' :: t.toList := by
    rw [String.toList_append, String.toList_append, List.append_assoc]
    rfl
  have free : ∀ c ∈ s.toList, (!isLineBreak c) = true := by
    intro c hc
    rw [h c hc]
    rfl
  have feed : (!isLineBreak '\n') = false := rfl
  constructor
  · rw [firstLine, chars, List.takeWhile_append_of_pos free,
      List.takeWhile_cons_of_neg (by simp [feed]), List.append_nil, String.ofList_toList]
  · rw [belowFirstLine, chars, List.dropWhile_append_of_pos free,
      List.dropWhile_cons_of_neg (by simp [feed]), List.drop_one, List.tail_cons,
      String.ofList_toList]

end Text

/-! ### The header and the rest -/

namespace Stub

/-- The stub as it would be if it had come from another source. -/
def withSource (s : Stub) (source : Option Path) : Stub := { s with source := source }

/-- The lines of a module below its header. -/
def linesBelowHeader (s : Stub) : List String :=
  [s.documentation, ""] ++ importBlock s.imports ++ [""] ++ s.bodyLines

/-- The text of a module below its header. -/
def textBelowHeader (s : Stub) : String := joinWith "\n" s.linesBelowHeader ++ "\n"

/-- The lines of a module are its header and the lines below it. -/
theorem moduleLines_eq_cons (s : Stub) : s.moduleLines = s.header :: s.linesBelowHeader := by
  rw [moduleLines, linesBelowHeader]
  simp only [List.cons_append, List.nil_append]

variable (s : Stub) (source : Option Path)

/-- No source decides on the lines below the header. -/
theorem linesBelowHeader_withSource :
    (s.withSource source).linesBelowHeader = s.linesBelowHeader := by
  cases s
  rfl

/-- A module is its header and the text below it, which no source decides on. -/
theorem moduleText_withSource :
    (s.withSource source).moduleText = headerLine source ++ "\n" ++ s.textBelowHeader := by
  have lines : (s.withSource source).moduleLines = headerLine source :: s.linesBelowHeader := by
    rw [moduleLines_eq_cons, header_eq, linesBelowHeader_withSource, withSource]
  rw [moduleText, lines, joinWith, textBelowHeader, String.append_assoc]
  exact List.cons_ne_nil _ _

/-- **The lines of a module** are those of its header, and others that no source decides on. -/
theorem breakLines_withSource :
    breakLines (s.withSource source).moduleText =
      breakLines (headerLine source) ++ breakLines s.textBelowHeader := by
  rw [moduleText_withSource, breakLines_append_lineFeed]

/-- A header is of one line exactly if the name of its source is. -/
theorem oneLine_headerLine_iff {source : Option Path} :
    OneLine (headerLine source) ↔ ∀ p ∈ source, OneLine p.name := by
  refine ⟨?_, fun h => oneLine_headerLine h⟩
  intro h p hp
  have spliced : headerLine source =
      "# Generated by bpmngen 0.1.0" ++ (" from " ++ p.name) ++ ". Do not edit." := by
    rw [Option.mem_def.mp hp]
    rfl
  rw [spliced] at h
  obtain ⟨opening, -⟩ := h.of_append
  obtain ⟨-, origin⟩ := opening.of_append
  exact origin.of_append.2

/-- The first line of a module is its header exactly if the name of its source is of one line. -/
theorem firstLine_withSource_iff {source : Option Path} :
    firstLine (s.withSource source).moduleText = headerLine source ↔
      ∀ p ∈ source, OneLine p.name := by
  rw [moduleText_withSource, ← oneLine_headerLine_iff]
  constructor
  · intro h
    rw [← h]
    exact oneLine_firstLine _
  · intro h
    exact (firstLine_append_lineFeed h _).1

/-- **Two sources show in the first line alone** exactly if the names of both are of one line. Each
of the two modules then begins with its whole header, and the texts below are equal. Whatever the
names are, the modules have the lines of their headers, and below them the same ones. -/
theorem header_confined_iff (p q : Option Path) :
    (((firstLine (s.withSource p).moduleText = headerLine p ∧
          firstLine (s.withSource q).moduleText = headerLine q) ∧
        belowFirstLine (s.withSource p).moduleText = belowFirstLine (s.withSource q).moduleText) ↔
      (∀ f ∈ p, OneLine f.name) ∧ ∀ f ∈ q, OneLine f.name) ∧
    ∃ lines, breakLines (s.withSource p).moduleText = breakLines (headerLine p) ++ lines ∧
      breakLines (s.withSource q).moduleText = breakLines (headerLine q) ++ lines := by
  refine ⟨?_, _, s.breakLines_withSource p, s.breakLines_withSource q⟩
  rw [firstLine_withSource_iff, firstLine_withSource_iff]
  refine ⟨fun h => h.1, fun h => ⟨h, ?_⟩⟩
  have first := (firstLine_append_lineFeed (oneLine_headerLine h.1) s.textBelowHeader).2
  have second := (firstLine_append_lineFeed (oneLine_headerLine h.2) s.textBelowHeader).2
  rw [moduleText_withSource, moduleText_withSource, first, second]

/-- A document whose name holds line feeds adds a line of code to the module of an interface that
can be written. -/
theorem not_header_confined_lineFeed :
    let p : Path := ⟨.relative, ["a\nimport os\n.bpmn"]⟩
    let u := ofBeanCall "generated" (some p) ⟨"mailer", "send"⟩
    p.isDocumentName = true ∧ u.unusableName? = none ∧
      firstLine u.moduleText = "# Generated by bpmngen 0.1.0 from a" ∧
      firstLine u.moduleText ≠ headerLine (some p) ∧
      "import os" ∈ breakLines u.moduleText ∧
      "import os" ∉ breakLines (u.withSource none).moduleText := by
  intro p u
  have name : p.isDocumentName = true := by decide +kernel
  have accepted : u.unusableName? = none := by decide +kernel
  have same : u = u.withSource (some p) := rfl
  have lines : breakLines (headerLine (some p)) =
      ["# Generated by bpmngen 0.1.0 from a", "import os", ".bpmn. Do not edit."] := by decide
  have first : firstLine u.moduleText = "# Generated by bpmngen 0.1.0 from a" := by
    rw [same, moduleText_withSource]
    have header : headerLine (some p) =
        "# Generated by bpmngen 0.1.0 from a" ++ "\n" ++ "import os\n.bpmn. Do not edit." := by
      decide
    have first : OneLine "# Generated by bpmngen 0.1.0 from a" := by decide
    have text := (firstLine_append_lineFeed first
      ("import os\n.bpmn. Do not edit." ++ "\n" ++ u.textBelowHeader)).1
    rw [header]
    simpa only [String.append_assoc] using text
  refine ⟨name, accepted, first, ?_, ?_, ?_⟩
  · rw [first]
    decide
  · rw [same, breakLines_withSource, lines]
    simp
  · have bare : u.withSource none = ofBeanCall "generated" none ⟨"mailer", "send"⟩ := rfl
    have other : (ofBeanCall "generated" none ⟨"mailer", "send"⟩).unusableName? = none := by
      decide +kernel
    rw [bare, breakLines_interface (by simp) other]
    decide +kernel

end Stub

end ProcessStubs
