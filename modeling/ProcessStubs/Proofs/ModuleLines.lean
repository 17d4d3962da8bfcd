import ProcessStubs.Proofs.Frozen
import ProcessStubs.Proofs.OneLine
import ProcessStubs.Stub.ModuleText

/-!
# The lines of modules

The module of a service has the same lines for all processes, and the module of an interface for all
bean calls. A document decides on names in some of these lines, and on the text inside of the
documentation and of one argument, which are literals of one line each. No text of a document can
add a line or close a literal early.

## Main results

* `readLiteral?_documentation`: the documentation is one literal for the sentence.
* `breakLines_service`, `breakLines_interface`: the lines of the two kinds of modules.
* `moduleLines_of_freeze`: all of that for the stubs of frozen settings.
-/

namespace ProcessStubs.Stub

open Text

/-! ### Literals of a module -/

/-- The sentence of a documentation around the name that it is about. -/
def sentence (kind : StubKind) (name : List Char) : List Char :=
  match kind with
  | .service => "Start instances of process ".toList ++ name ++ ".".toList
  | .interface => "Contract of bean ".toList ++ name ++ " called by service tasks.".toList

/-- Whether a character spells itself in three double quotes. -/
def isPlain (c : Char) : Bool := c != '"' && c != '\\' && c != '\n' && c != '\r'

/-- A fixed text without quotes, backslashes and line breaks spells itself. -/
theorem spells_fixed {l : List Char} (h : l.all isPlain = true) : Spells longMarks l l := by
  have pieces : Spells longMarks (l.flatMap fun c => [c]) l := by
    refine .flatMap ?_
    intro c hc
    have plain := List.all_eq_true.mp h c hc
    simp only [isPlain, Bool.and_eq_true, bne_iff_ne] at plain
    obtain ⟨⟨⟨quote, backslash⟩, feed⟩, ret⟩ := plain
    exact spells_plain _ quote backslash feed ret
  simpa using pieces

/-- What a documentation says spells the sentence with the origin between two quotes. -/
theorem spells_summary (s : Stub) :
    Spells longMarks s.summary.toList
      (sentence s.kind (quoteFor s.origin.toList ::
        (s.origin.toList ++ [quoteFor s.origin.toList]))) := by
  have name := spells_guarded_quotedChars s.origin.toList
  have chars : (quotedInDocumentation s.origin).toList =
      (quotedChars s.origin.toList).flatMap guardedChar := String.toList_ofList
  unfold summary sentence
  cases s.kind with
  | service =>
      simp only [String.toList_append, chars]
      exact ((spells_fixed (by decide)).append name).append (spells_fixed (by decide))
  | interface =>
      simp only [String.toList_append, chars]
      exact ((spells_fixed (by decide)).append name).append (spells_fixed (by decide))

/-- **The documentation is one literal** in three double quotes, with nothing after it. It stands
for the sentence with the origin between two equal quotes. -/
theorem readLiteral?_documentation (s : Stub) :
    readLiteral? s.documentation.toList =
      some ⟨longMarks, sentence s.kind (quoteFor s.origin.toList ::
        (s.origin.toList ++ [quoteFor s.origin.toList])), []⟩ := by
  have chars : s.documentation.toList =
      '"' :: '"' :: '"' :: (s.summary.toList ++ (longMarks ++ [])) := by
    rw [documentation, String.toList_append, String.toList_append]
    rfl
  have read := s.spells_summary.read (List.cons_ne_nil _ _) []
  rw [chars, readLiteral?, if_pos (.inl rfl)]
  simp only [List.isPrefixOf, beq_self_eq_true, Bool.and_self, if_true, List.length_cons,
    List.length_nil, Nat.add_sub_cancel, List.drop_succ_cons, List.drop_zero]
  change (readText? longMarks _).map _ = _
  rw [read]
  rfl

/-! ### Templates -/

/-- The first line of a module, which is about its source alone. -/
def headerLine (source : Option Path) : String :=
  "# Generated by bpmngen 0.1.0" ++ ((source.map fun p => " from " ++ p.name).getD "") ++
    ". Do not edit."

/-- What the module of a service imports: the types of its one parameter, and its runtime. -/
def serviceImports (runtime : RuntimeReference) : List Import := [
  ⟨"collections.abc", "Mapping"⟩, ⟨"typing", "Any"⟩, ⟨runtime.moduleName, runtime.typeName⟩]

/-- **The lines of the module of a service** with a runtime, around a documentation, the name of its
type and the literal of its process. -/
def serviceLines (runtime : RuntimeReference) (source : Option Path)
    (documentation typeName literal : String) : List String :=
  [headerLine source, documentation, ""] ++ importBlock (serviceImports runtime) ++ [
    "",
    "class " ++ typeName ++ ":",
    "    " ++ documentation,
    "",
    "    def __init__(self, runtime_service: " ++ runtime.typeName ++ ") -> None:",
    "        self.runtime_service = runtime_service",
    "",
    "    def start_process(self, variables: Mapping[str, Any]) -> str:",
    "        return self.runtime_service.start_process_instance_by_key(" ++ literal ++
      ", variables).id"]

/-- **The lines of the module of an interface** around a documentation and the names of its type and
its method. -/
def interfaceLines (source : Option Path) (documentation typeName method : String) :
    List String := [
  headerLine source,
  documentation,
  "",
  "from __future__ import annotations",
  "",
  "from abc import ABC, abstractmethod",
  "",
  "",
  "class " ++ typeName ++ "(ABC):",
  "    " ++ documentation,
  "",
  "    @abstractmethod",
  "    def " ++ method ++ "(self):",
  "        ..."]

/-- The header of a module is that of its source. -/
theorem header_eq (s : Stub) : s.header = headerLine s.source := by
  unfold header headerLine
  cases s.source <;> rfl

/-- The imports of an interface are one line. -/
theorem importBlock_interface :
    importBlock [⟨"abc", "ABC"⟩, ⟨"abc", "abstractmethod"⟩] =
      ["from __future__ import annotations", "", "from abc import ABC, abstractmethod", ""] := by
  have modules : distinctSorted ["abc", "abc"] = ["abc"] := by
    simp [distinctSorted, List.eraseDups, List.eraseDupsBy, List.eraseDupsBy.loop]
  have names : distinctSorted ["ABC", "abstractmethod"] = ["ABC", "abstractmethod"] := by
    have distinct : ["ABC", "abstractmethod"].eraseDups = ["ABC", "abstractmethod"] := by
      decide
    have sorted : ("ABC" : String) ≤ "abstractmethod" := by decide
    rw [distinctSorted, distinct]
    exact List.mergeSort_of_pairwise (by simp [sorted])
  have library : isLibraryModule "abc" = true := rfl
  simp [importBlock, importGroup, importLine, modules, names, library, joinWith]

/-- Sorted texts rise. -/
theorem pairwise_distinctSorted (l : List String) : (distinctSorted l).Pairwise (· ≤ ·) := by
  have all : (distinctSorted l).Pairwise fun a b => decide (a ≤ b) = true := by
    refine List.pairwise_mergeSort ?_ ?_ l.eraseDups
    · intro a b c
      simpa using String.le_trans
    · intro a b
      simpa using String.le_total a b
  exact all.imp of_decide_eq_true

/-- Sorting texts leaves those with a property in their order. -/
theorem filter_distinctSorted {p : String → Bool} {l sorted : List String}
    (hp : l.eraseDups.filter p = sorted) (hs : sorted.Pairwise (· ≤ ·)) :
    (distinctSorted l).filter p = sorted := by
  have perm : ((distinctSorted l).filter p).Perm sorted := by
    rw [← hp]
    exact (List.mergeSort_perm _ _).filter p
  have order := (pairwise_distinctSorted l).filter p
  exact perm.eq_of_pairwise (fun a b _ _ => String.le_antisymm) order hs

/-- The imports of a service whose runtime is not of the standard library are three lines. -/
theorem importBlock_service {runtime : RuntimeReference}
    (h : isLibraryModule runtime.moduleName = false) :
    importBlock (serviceImports runtime) = [
      "from __future__ import annotations",
      "",
      "from collections.abc import Mapping",
      "from typing import Any",
      "",
      "from " ++ runtime.moduleName ++ " import " ++ runtime.typeName,
      ""] := by
  have collections : isLibraryModule "collections.abc" = true := rfl
  have typing : isLibraryModule "typing" = true := by
    have top : (split '.' "typing").headD "" = "typing" := by decide
    rw [isLibraryModule, top]
    decide +kernel
  have hc : runtime.moduleName ≠ "collections.abc" := by
    intro heq
    rw [heq, collections] at h
    cases h
  have ht : runtime.moduleName ≠ "typing" := by
    intro heq
    rw [heq, typing] at h
    cases h
  have distinct : ["collections.abc", "typing", runtime.moduleName].eraseDups =
      ["collections.abc", "typing", runtime.moduleName] := by
    simp [List.eraseDups, List.eraseDupsBy, List.eraseDupsBy.loop, beq_eq_false_iff_ne.mpr hc,
      beq_eq_false_iff_ne.mpr ht]
  have library : (distinctSorted ["collections.abc", "typing", runtime.moduleName]).filter
      isLibraryModule = ["collections.abc", "typing"] := by
    refine filter_distinctSorted ?_ (by decide)
    rw [distinct]
    simp [collections, typing, h]
  have other : (distinctSorted ["collections.abc", "typing", runtime.moduleName]).filter
      (fun m => !isLibraryModule m) = [runtime.moduleName] := by
    refine filter_distinctSorted ?_ (List.pairwise_singleton _ _)
    rw [distinct]
    simp [collections, typing, h]
  have one (name : String) : distinctSorted [name] = [name] := by
    simp [distinctSorted, List.eraseDups, List.eraseDupsBy, List.eraseDupsBy.loop]
  simp [importBlock, importGroup, importLine, serviceImports, library, other, hc, ht, Ne.symm hc,
    Ne.symm ht, one, joinWith]

/-- The lines of the module of a service are those of the template. -/
theorem moduleLines_ofProcess (package : String) (runtime : RuntimeReference)
    (source : Option Path) (id displayName : String) :
    (ofProcess package runtime source id displayName).moduleLines =
      serviceLines runtime source (ofProcess package runtime source id displayName).documentation
        (serviceTypeName displayName) (quoted id) := by
  have body : (ofProcess package runtime source id displayName).bodyLines = [
      "class " ++ serviceTypeName displayName ++ ":",
      indent ++ (ofProcess package runtime source id displayName).documentation,
      "",
      indent ++ "def __init__(self, " ++ (runtimeAttribute ++ ": " ++ runtime.typeName) ++
        ") -> None:",
      indent ++ indent ++ "self." ++ runtimeAttribute ++ " = " ++ runtimeAttribute,
      "",
      indent ++ signature (startOperation id),
      indent ++ indent ++ ("return " ++ callText ⟨runtimeAttribute, startMethod,
        [.literal id, .parameter "variables"], some instanceIdAttribute⟩)] := rfl
  have assignment : indent ++ indent ++ "self." ++ runtimeAttribute ++ " = " ++ runtimeAttribute =
      "        self.runtime_service = runtime_service" := rfl
  have operation : indent ++ signature (startOperation id) =
      "    def start_process(self, variables: Mapping[str, Any]) -> str:" := rfl
  have call : indent ++ indent ++ ("return " ++ callText ⟨runtimeAttribute, startMethod,
      [.literal id, .parameter "variables"], some instanceIdAttribute⟩) =
      "        return self.runtime_service.start_process_instance_by_key(" ++ quoted id ++
        ", variables).id" := by
    have opening : "        return self.runtime_service.start_process_instance_by_key(" =
        indent ++ indent ++ "return " ++ "self." ++ runtimeAttribute ++ "." ++ startMethod ++
          "(" := rfl
    have closing : ", variables).id" = ", " ++ "variables" ++ ")" ++ ("." ++ instanceIdAttribute) :=
      rfl
    have named : instanceIdAttribute ≠ "" := by decide
    simp only [opening, closing, callText, List.map_cons, List.map_nil, argumentText, joinWith,
      named, if_false, String.append_assoc]
  have constructor : indent ++ "def __init__(self, " ++
      (runtimeAttribute ++ ": " ++ runtime.typeName) ++ ") -> None:" =
      "    def __init__(self, runtime_service: " ++ runtime.typeName ++ ") -> None:" := by
    have opening : "    def __init__(self, runtime_service: " =
        indent ++ "def __init__(self, " ++ runtimeAttribute ++ ": " := rfl
    simp only [opening, String.append_assoc]
  have imports : (ofProcess package runtime source id displayName).imports =
      serviceImports runtime := rfl
  rw [moduleLines, header_eq, body, imports, assignment, operation, call, constructor]
  simp [serviceLines, indent, ofProcess]

/-- The lines of the module of an interface are those of the template. -/
theorem moduleLines_ofBeanCall (package : String) (source : Option Path) (call : BeanCall) :
    (ofBeanCall package source call).moduleLines =
      interfaceLines source (ofBeanCall package source call).documentation
        (capitalized call.bean) call.method := by
  have body : (ofBeanCall package source call).bodyLines = [
      "class " ++ capitalized call.bean ++ "(ABC):",
      indent ++ (ofBeanCall package source call).documentation,
      "",
      indent ++ "@abstractmethod",
      indent ++ signature ⟨call.method, [], none, true, none⟩,
      indent ++ indent ++ "..."] := rfl
  have decorator : indent ++ "@abstractmethod" = "    @abstractmethod" := by decide
  have ellipsis : indent ++ indent ++ "..." = "        ..." := by decide
  have operation : indent ++ signature ⟨call.method, [], none, true, none⟩ =
      "    def " ++ call.method ++ "(self):" := by
    rw [← String.toList_inj]
    simp [indent, signature, joinWith]
  have imports : (ofBeanCall package source call).imports =
      [⟨"abc", "ABC"⟩, ⟨"abc", "abstractmethod"⟩] := rfl
  rw [moduleLines, header_eq, body, imports, importBlock_interface, decorator, ellipsis, operation]
  rfl

/-! ### Lines of a type -/

section

variable {s : Stub}

/-- A line inside of a type is indented or blank. -/
def IsInner (line : String) : Prop := line = "" ∨ ∃ text, line = indent ++ text

/-- The lines of a constructor are inside of its type. -/
theorem isInner_of_mem_constructorLines : ∀ line ∈ s.constructorLines, IsInner line := by
  intro line h
  rw [constructorLines] at h
  split at h
  · cases h
  · simp only [List.mem_append, List.mem_singleton, List.mem_map] at h
    rcases h with (rfl | ⟨c, -, rfl⟩) | rfl
    · exact .inr ⟨_, by rw [String.append_assoc, String.append_assoc]⟩
    · exact .inr ⟨_, by simp only [String.append_assoc]; rfl⟩
    · exact .inl rfl

/-- The lines of an operation of a service are inside of its type. -/
theorem isInner_of_mem_serviceOperationLines {o : Operation} :
    ∀ line ∈ serviceOperationLines o, IsInner line := by
  simp only [serviceOperationLines, List.forall_mem_cons]
  exact ⟨.inr ⟨_, rfl⟩, .inr ⟨_, by rw [String.append_assoc]⟩, .inl rfl, List.forall_mem_nil _⟩

/-- The lines of an operation of an interface are inside of its type. -/
theorem isInner_of_mem_interfaceOperationLines {o : Operation} :
    ∀ line ∈ interfaceOperationLines o, IsInner line := by
  simp only [interfaceOperationLines, List.forall_mem_cons]
  exact ⟨.inr ⟨_, rfl⟩, .inr ⟨_, rfl⟩, .inr ⟨_, by rw [String.append_assoc]⟩, .inl rfl,
    List.forall_mem_nil _⟩

/-- The lines of a type: one that opens it, and those inside of it. -/
theorem bodyLines_eq (s : Stub) : ∃ opening inner,
    s.bodyLines = ("class " ++ s.typeName ++ opening) :: inner ∧ opening ∈ [":", "(ABC):"] ∧
      ∀ line ∈ inner, IsInner line := by
  -- All lines but the last one are there, and the first two inside of the type always are.
  have most {lines : List String} (h : ∀ line ∈ lines, IsInner line) :
      ∀ line ∈ ((indent ++ s.documentation) :: "" :: lines).dropLast, IsInner line := by
    intro line hline
    rcases List.mem_cons.mp (List.dropLast_subset _ hline) with rfl | hline
    · exact .inr ⟨_, rfl⟩
    · rcases List.mem_cons.mp hline with rfl | hline
      · exact .inl rfl
      · exact h line hline
  cases kind : s.kind with
  | service =>
      have inside : ∀ line ∈ s.constructorLines ++ s.operations.flatMap serviceOperationLines,
          IsInner line :=
        List.forall_mem_append.mpr ⟨isInner_of_mem_constructorLines,
          List.forall_mem_flatMap.mpr fun _ _ => isInner_of_mem_serviceOperationLines⟩
      refine ⟨":", _, ?_, List.mem_cons_self, most inside⟩
      simp [bodyLines, kind, List.dropLast_cons_of_ne_nil]
  | interface =>
      have inside : ∀ line ∈ s.operations.flatMap interfaceOperationLines, IsInner line :=
        List.forall_mem_flatMap.mpr fun _ _ => isInner_of_mem_interfaceOperationLines
      refine ⟨"(ABC):", _, ?_, List.mem_cons_of_mem _ List.mem_cons_self, most inside⟩
      simp [bodyLines, kind, List.dropLast_cons_of_ne_nil]

end

/-! ### Lines of one line -/

/-- Sorting keeps the texts that there are. -/
theorem mem_distinctSorted {s : String} {l : List String} : s ∈ distinctSorted l ↔ s ∈ l := by
  rw [distinctSorted, List.mem_mergeSort, List.mem_eraseDups]

/-- An import line is of one line if the names in it are. -/
theorem oneLine_importLine {imports : List Import} (names : ∀ i ∈ imports, OneLine i.name)
    {moduleName : String} (h : OneLine moduleName) : OneLine (importLine imports moduleName) := by
  have all : OneLine (joinWith ", " (distinctSorted
      ((imports.filter (·.moduleName == moduleName)).map Import.name))) := by
    refine .joinWith (by decide) ?_
    intro name hname
    obtain ⟨i, hi, rfl⟩ := List.mem_map.mp (mem_distinctSorted.mp hname)
    exact names i (List.mem_filter.mp hi).1
  have from' : OneLine "from " := by decide
  have import' : OneLine " import " := by decide
  exact ((from'.append h).append import').append all

/-- A group of import lines is of one line each if the names in it are. -/
theorem oneLine_importGroup {imports : List Import} (names : ∀ i ∈ imports, OneLine i.name)
    {modules : List String} (h : ∀ m ∈ modules, OneLine m) :
    ∀ l ∈ importGroup imports modules, OneLine l := by
  intro l hl
  rw [importGroup] at hl
  split at hl
  · cases hl
  · rcases List.mem_append.mp hl with hl | hl
    · obtain ⟨m, hm, rfl⟩ := List.mem_map.mp hl
      exact oneLine_importLine names (h m hm)
    · rw [List.mem_singleton.mp hl]
      decide

/-- Imports are of one line each if the names in them are. -/
theorem oneLine_importBlock {imports : List Import}
    (h : ∀ i ∈ imports, OneLine i.moduleName ∧ OneLine i.name) :
    ∀ l ∈ importBlock imports, OneLine l := by
  have names : ∀ i ∈ imports, OneLine i.name := fun i hi => (h i hi).2
  have modules : ∀ m ∈ distinctSorted (imports.map Import.moduleName), OneLine m := by
    intro m hm
    obtain ⟨i, hi, rfl⟩ := List.mem_map.mp (mem_distinctSorted.mp hm)
    exact (h i hi).1
  intro l hl
  rw [importBlock] at hl
  rcases List.mem_append.mp hl with hl | hl
  · rcases List.mem_append.mp hl with hl | hl
    · rcases List.mem_cons.mp hl with rfl | hl
      · decide
      · rw [List.mem_singleton.mp hl]
        decide
    · exact oneLine_importGroup names (fun m hm => modules m (List.mem_filter.mp hm).1) l hl
  · exact oneLine_importGroup names (fun m hm => modules m (List.mem_filter.mp hm).1) l hl

/-- A documentation is of one line, whatever it is about. -/
theorem oneLine_documentation (s : Stub) : OneLine s.documentation := by
  have marks : OneLine "\"\"\"" := by decide
  have origin : OneLine (quotedInDocumentation s.origin) := oneLine_guarded s.origin
  have summary : OneLine s.summary := by
    rw [Stub.summary]
    cases s.kind with
    | service =>
        have first : OneLine "Start instances of process " := by decide
        exact (first.append origin).append (by decide)
    | interface =>
        have first : OneLine "Contract of bean " := by decide
        exact (first.append origin).append (by decide)
  exact (marks.append summary).append marks

/-- The header of a module is of one line if the name of its source is. -/
theorem oneLine_headerLine {source : Option Path} (h : ∀ p ∈ source, OneLine p.name) :
    OneLine (headerLine source) := by
  have version : OneLine "# Generated by bpmngen 0.1.0" := by decide
  have origin : OneLine ((source.map fun p => " from " ++ p.name).getD "") := by
    cases source with
    | none => exact fun c hc => absurd hc (by simp)
    | some p =>
        have from' : OneLine " from " := by decide
        exact from'.append (h p rfl)
  exact (version.append origin).append (by decide)

/-- The runtime that settings have is an identifier in a package. -/
theorem valid_of_runtimeOf {reference : String} {runtime : RuntimeReference}
    (h : runtimeOf reference = .ok runtime) :
    isPackageName runtime.moduleName = true ∧ isIdentifier runtime.typeName = true := by
  have read : RuntimeReference.ofString? reference = some runtime := by
    rw [runtimeOf] at h
    split at h
    · next r hr =>
        cases h
        exact hr
    · cases h
  rw [RuntimeReference.ofString?] at read
  dsimp only at read
  split at read
  · cases read
  · split at read
    · next valid =>
        cases read
        exact Bool.and_eq_true_iff.mp valid
    · cases read

/-- The runtime that settings have is named by texts of one line. -/
theorem oneLine_of_runtimeOf {reference : String} {runtime : RuntimeReference}
    (h : runtimeOf reference = .ok runtime) :
    OneLine runtime.moduleName ∧ OneLine runtime.typeName := by
  obtain ⟨module, name⟩ := valid_of_runtimeOf h
  exact ⟨oneLine_of_isPackageName module, oneLine_of_isIdentifier name⟩

/-- The lines of the module of a service are of one line each if what is put in them is. -/
theorem oneLine_serviceLines {runtime : RuntimeReference} {source : Option Path}
    {documentation typeName literal : String} (header : OneLine (headerLine source))
    (imports : ∀ l ∈ importBlock (serviceImports runtime), OneLine l)
    (runtimeName : OneLine runtime.typeName) (doc : OneLine documentation)
    (type : OneLine typeName) (argument : OneLine literal) :
    ∀ l ∈ serviceLines runtime source documentation typeName literal, OneLine l := by
  have open' : OneLine "class " := by decide
  have constructor : OneLine "    def __init__(self, runtime_service: " := by decide
  have call : OneLine "        return self.runtime_service.start_process_instance_by_key(" := by
    decide
  have indentation : OneLine "    " := by decide
  simp only [serviceLines, List.forall_mem_append, List.forall_mem_cons]
  refine ⟨⟨⟨header, doc, by decide, by simp⟩, imports⟩, by decide, ?_, ?_, by decide, ?_, by decide,
    by decide, by decide, ?_, by simp⟩
  · exact (open'.append type).append (by decide)
  · exact indentation.append doc
  · exact (constructor.append runtimeName).append (by decide)
  · exact (call.append argument).append (by decide)

/-- The lines of the module of an interface are of one line each if what is put in them is. -/
theorem oneLine_interfaceLines {source : Option Path} {documentation typeName method : String}
    (header : OneLine (headerLine source)) (doc : OneLine documentation)
    (type : OneLine typeName) (name : OneLine method) :
    ∀ l ∈ interfaceLines source documentation typeName method, OneLine l := by
  have open' : OneLine "class " := by decide
  have operation : OneLine "    def " := by decide
  have indentation : OneLine "    " := by decide
  simp only [interfaceLines, List.forall_mem_cons]
  refine ⟨header, doc, by decide, by decide, by decide, by decide, by decide, by decide, ?_, ?_,
    by decide, by decide, ?_, by decide, by simp⟩
  · exact (open'.append type).append (by decide)
  · exact indentation.append doc
  · exact (operation.append name).append (by decide)

/-- **The lines of a text** are those that the lines of its module break into. -/
theorem breakLines_moduleText_eq (s : Stub) :
    breakLines s.moduleText = s.moduleLines.flatMap breakLines ++ [""] :=
  breakLines_joinWith (List.cons_ne_nil _ _)

/-- A text that is broken at line breaks has the lines of its module, if they are of one line
each. -/
theorem breakLines_moduleText {s : Stub} (h : ∀ l ∈ s.moduleLines, OneLine l) :
    breakLines s.moduleText = s.moduleLines ++ [""] := by
  rw [breakLines_moduleText_eq, flatMap_breakLines h]

/-! ### Accepted stubs -/

/-- The type of a stub that can be written has a name of one line. -/
theorem oneLine_typeName {s : Stub} (h : s.unusableName? = none) : OneLine s.typeName :=
  oneLine_of_isIdentifier (isIdentifier_of_isUsableName (isUsableName_of_unusableName?_eq_none h))

/-- The operations of a stub that can be written have usable names. -/
theorem isUsableName_operationName {s : Stub} (h : s.unusableName? = none) {o : Operation}
    (ho : o ∈ s.operations) : isUsableName o.name = true := by
  have type := isUsableName_of_unusableName?_eq_none h
  have none : (s.operations.find? fun o => !isUsableName o.name) = none := by
    simpa [unusableName?, type] using h
  simpa using List.find?_eq_none.mp none o ho

/-- The operations of a stub that can be written have names of one line. -/
theorem oneLine_operationName {s : Stub} (h : s.unusableName? = none) {o : Operation}
    (ho : o ∈ s.operations) : OneLine o.name :=
  oneLine_of_isIdentifier (isIdentifier_of_isUsableName (isUsableName_operationName h ho))

/-- **The lines of the module of a service** are those of the template, if it can be written. -/
theorem breakLines_service {reference : String} {runtime : RuntimeReference}
    (hr : runtimeOf reference = .ok runtime) {source : Option Path}
    (hs : ∀ p ∈ source, OneLine p.name) {package id displayName : String}
    (accepted : (ofProcess package runtime source id displayName).unusableName? = none) :
    breakLines (ofProcess package runtime source id displayName).moduleText =
      serviceLines runtime source (ofProcess package runtime source id displayName).documentation
        (serviceTypeName displayName) (quoted id) ++ [""] := by
  obtain ⟨module, name⟩ := oneLine_of_runtimeOf hr
  have imports : ∀ i ∈ serviceImports runtime, OneLine i.moduleName ∧ OneLine i.name := by
    simp only [serviceImports, List.forall_mem_cons]
    exact ⟨by decide, by decide, ⟨module, name⟩, by simp⟩
  have type : OneLine (ofProcess package runtime source id displayName).typeName :=
    oneLine_typeName accepted
  have lines := oneLine_serviceLines (oneLine_headerLine hs) (oneLine_importBlock imports) name
    (oneLine_documentation (ofProcess package runtime source id displayName)) type
    (oneLine_quoted id)
  have template := moduleLines_ofProcess package runtime source id displayName
  rw [breakLines_moduleText, template]
  rw [template]
  exact lines

/-- **The lines of the module of an interface** are those of the template, if it can be written. -/
theorem breakLines_interface {source : Option Path} (hs : ∀ p ∈ source, OneLine p.name)
    {package : String} {call : BeanCall}
    (accepted : (ofBeanCall package source call).unusableName? = none) :
    breakLines (ofBeanCall package source call).moduleText =
      interfaceLines source (ofBeanCall package source call).documentation
        (capitalized call.bean) call.method ++ [""] := by
  have type : OneLine (ofBeanCall package source call).typeName := oneLine_typeName accepted
  have method : OneLine call.method := oneLine_operationName accepted List.mem_cons_self
  have lines := oneLine_interfaceLines (oneLine_headerLine hs)
    (oneLine_documentation (ofBeanCall package source call)) type method
  have template := moduleLines_ofBeanCall package source call
  rw [breakLines_moduleText, template]
  rw [template]
  exact lines

/-- The literal of a process in its call is complete, and it stands for the id of the process. -/
theorem readLiteral?_argument (id : String) :
    readLiteral? ((quoted id).toList ++ ", variables).id".toList) =
      some ⟨[quoteFor id.toList], id.toList, ", variables).id".toList⟩ := by
  rw [quoted, String.toList_ofList]
  refine readLiteral?_quotedChars id.toList ?_
  intro rest heq
  rcases isQuote_quoteFor id.toList with hq | hq
  all_goals
    rw [hq] at heq
    cases heq

/-- **No text of a document becomes code.** For frozen settings and a source whose name is of one
line, the module of each service and each interface that can be written has exactly the lines of its
template. Its documentation is one literal in three double quotes, which stands for the sentence
with the origin between two equal quotes, and the first argument of the call of a service is one
literal that stands for the id of the process. -/
theorem moduleLines_of_freeze {draft : Draft} {tree : FileTree} {s : Settings}
    (frozen : draft.freeze tree = .ok s) {source : Option Path}
    (hs : ∀ p ∈ source, OneLine p.name) :
    ∃ runtime, runtimeOf s.runtimeService = .ok runtime ∧
      (∀ id displayName : String,
        let u := ofProcess s.packageName runtime source id displayName
        u.unusableName? = none →
          breakLines u.moduleText =
            serviceLines runtime source u.documentation u.typeName (quoted id) ++ [""] ∧
          (∃ q, IsQuote q ∧ readLiteral? u.documentation.toList =
            some ⟨longMarks, sentence .service (q :: (id.toList ++ [q])), []⟩) ∧
          ∃ q, IsQuote q ∧ readLiteral? ((quoted id).toList ++ ", variables).id".toList) =
            some ⟨[q], id.toList, ", variables).id".toList⟩) ∧
      ∀ call : BeanCall,
        let u := ofBeanCall s.packageName source call
        u.unusableName? = none →
          breakLines u.moduleText =
            interfaceLines source u.documentation u.typeName call.method ++ [""] ∧
          ∃ q, IsQuote q ∧ readLiteral? u.documentation.toList =
            some ⟨longMarks, sentence .interface (q :: (call.bean.toList ++ [q])), []⟩ := by
  obtain ⟨-, runtime, hr⟩ := Draft.freeze_ok frozen
  refine ⟨runtime, hr, ?_, ?_⟩
  · intro id displayName u accepted
    have kind : u.kind = .service := rfl
    have origin : u.origin = id := rfl
    have documentation := u.readLiteral?_documentation
    rw [kind, origin] at documentation
    refine ⟨breakLines_service hr hs accepted, ?_, ?_⟩
    · exact ⟨quoteFor id.toList, isQuote_quoteFor _, documentation⟩
    · exact ⟨quoteFor id.toList, isQuote_quoteFor _, readLiteral?_argument id⟩
  · intro call u accepted
    have kind : u.kind = .interface := rfl
    have origin : u.origin = call.bean := rfl
    have documentation := u.readLiteral?_documentation
    rw [kind, origin] at documentation
    refine ⟨breakLines_interface hs accepted, ?_⟩
    exact ⟨quoteFor call.bean.toList, isQuote_quoteFor _, documentation⟩

/-- The type of a service for a process that is shown by one letter. -/
theorem serviceTypeName_letter : serviceTypeName "A" = "AProcessService" := by rfl

/-- Such a service can be written. -/
theorem unusableName?_ofProcess_letter (package : String) (runtime : RuntimeReference)
    (source : Option Path) (id : String) :
    (ofProcess package runtime source id "A").unusableName? = none := by
  have type : isUsableName (serviceTypeName "A") = true := rfl
  have operation : isUsableName "start_process" = true := rfl
  simp only [unusableName?, ofProcess, startOperation, type, operation, Bool.not_true,
    Bool.false_eq_true, if_false, List.find?_cons, List.find?_nil, Option.map_none]

/-- A name with both quotes and a backslash stays inside of its literals. -/
theorem moduleLines_of_freeze_quotes :
    Draft.empty.freeze ⟨[], []⟩ = .ok Settings.standard ∧
      ∃ runtime,
        (ofProcess "generated" runtime none "a\"'\\" "A").unusableName? = none ∧
        ∃ q, IsQuote q ∧ readLiteral? ((quoted "a\"'\\").toList ++ ", variables).id".toList) =
          some ⟨[q], "a\"'\\".toList, ", variables).id".toList⟩ := by
  have hs : ∀ p ∈ (none : Option Path), OneLine p.name := by simp
  obtain ⟨runtime, -, service, -⟩ := moduleLines_of_freeze Draft.freeze_empty hs
  have accepted := unusableName?_ofProcess_letter "generated" runtime none "a\"'\\"
  exact ⟨Draft.freeze_empty, runtime, accepted, (service _ _ accepted).2.2⟩

end ProcessStubs.Stub
