import ProcessStubs.Proofs.ModuleLines

/-!
# Names in code

The lines of a module have places that only names can take: the module that an import line names,
part by part, and what it imports from there, the name of a class, and the name of an operation with
its parameters and their types. `placedNames` reads the names at these places back from a line, and
knows nothing of the stub that the line was written for.

What stands there comes from four places: the package and the runtime of the settings, the check of
a stub before it is written, and the templates. Together they make every such name an identifier.
A reserved word is kept out by each check but one: the type of a runtime is only asked to be an
identifier.

## Main results

* `names_joinWith`: the names of lists of names.
* `mem_placedNames_importBlock`: what the lines of imports name.
* `mem_codeNames_ofProcess`, `mem_codeNames_ofBeanCall`: all names in the two kinds of modules.
* `codeNames_of_freeze`: the names in the modules of frozen settings, and when all can be used.
-/

namespace ProcessStubs

open Text

namespace Text

/-! ### Names of a text -/

/-- Whether a character ends a name in a line of code. -/
def endsName (c : Char) : Bool := " .,:()[]".toList.contains c

/-- The names of a text: its pieces between characters that end names, without the empty ones. -/
def names (text : List Char) : List String :=
  ((splitWhere endsName text).filter fun piece => !piece.isEmpty).map String.ofList

/-- A character that ends names cannot stand in an identifier. -/
theorem endsName_eq_false {c : Char} (h : isIdentifierPart c = true) : endsName c = false := by
  have ends : (" .,:()[]".toList.all fun d => !isIdentifierPart d) = true := by decide +kernel
  rw [endsName, List.contains_eq_mem, decide_eq_false_iff_not]
  intro hc
  have stop := List.all_eq_true.mp ends c hc
  rw [h] at stop
  cases stop

/-- A character that ends names is in no identifier. -/
theorem not_mem_of_isIdentifier {s : String} (h : isIdentifier s = true) {c : Char}
    (hc : endsName c = true) : c ∉ s.toList := by
  intro hmem
  rw [endsName_eq_false (isIdentifierPart_of_mem h hmem)] at hc
  cases hc

/-- An identifier is not empty. -/
theorem toList_ne_nil_of_isIdentifier {s : String} (h : isIdentifier s = true) :
    s.toList ≠ [] := by
  intro empty
  rw [isIdentifier, empty] at h
  cases h

/-- The one name of an identifier is this identifier. -/
theorem names_of_isIdentifier {s : String} (h : isIdentifier s = true) : names s.toList = [s] := by
  have whole : splitWhere endsName s.toList = [s.toList] :=
    splitWhere_of_forall fun c hc => endsName_eq_false (isIdentifierPart_of_mem h hc)
  simp [names, whole, toList_ne_nil_of_isIdentifier h]

/-- The names before and after a character that ends names. -/
theorem names_append {c : Char} (hc : endsName c = true) (l rest : List Char) :
    names (l ++ c :: rest) = names l ++ names rest := by
  rw [names, splitWhere_append_of_isSep hc, List.filter_append, List.map_append]
  rfl

/-- **The names of a list of identifiers** between commas are these identifiers. -/
theorem names_joinWith {l : List String} (h : ∀ s ∈ l, isIdentifier s = true) :
    names (joinWith ", " l).toList = l := by
  induction l with
  | nil => rfl
  | cons s rest ih =>
      have head : names s.toList = [s] := names_of_isIdentifier (h s List.mem_cons_self)
      have tail := ih fun t ht => h t (List.mem_cons_of_mem _ ht)
      cases rest with
      | nil => exact head
      | cons t rest =>
          have chars : (joinWith ", " (s :: t :: rest)).toList =
              s.toList ++ ',' :: ([] ++ ' ' :: (joinWith ", " (t :: rest)).toList) := by
            simp [joinWith]
          rw [chars, names_append rfl, names_append rfl, head, tail]
          rfl

end Text

/-! ### Names at places of a line -/

/-- Reads the line of an import: the module, and the names that are imported from it. -/
def readImport? (line : String) : Option (String × List String) := do
  let rest ← line.toList.dropPrefix? "from ".toList
  let wanted ← (rest.dropWhile (· != ' ')).dropPrefix? " import ".toList
  return (String.ofList (rest.takeWhile (· != ' ')), names wanted)

/-- Reads the line that opens a class: its name, and those of the classes it is derived from. -/
def readClass? (line : String) : Option (List String) := do
  let rest ← line.toList.dropPrefix? "class ".toList
  return names (rest.takeWhile (· != ':'))

/-- Reads the line that opens an operation of a class: its name, then those of its parameters, each
with the names of its type. -/
def readOperation? (line : String) : Option (List String) := do
  let rest ← line.toList.dropPrefix? "    def ".toList
  return names (rest.takeWhile (· != ')'))

/-- The names at the places of a line that only names can take. The module of an import gives its
parts. -/
def placedNames (line : String) : List String :=
  ((readImport? line).map fun i => split '.' i.1 ++ i.2).getD [] ++
    (readClass? line).getD [] ++ (readOperation? line).getD []

/-- A line that begins like no code has no place for names. -/
theorem placedNames_eq_nil {line : String} {c : Char} (h : line.toList.head? = some c)
    (hc : c ∉ ['f', 'c', ' ']) : placedNames line = [] := by
  obtain ⟨rest, chars⟩ := List.head?_eq_some_iff.mp h
  simp only [List.mem_cons, List.not_mem_nil, or_false, not_or] at hc
  obtain ⟨import', class', operation⟩ := hc
  simp [placedNames, readImport?, readClass?, readOperation?, chars, List.dropPrefix?, import',
    class', operation]

/-- An indented line that does not open an operation has no place for names. -/
theorem placedNames_eq_nil_of_indented {line rest : String} {c : Char}
    (h : line = "    " ++ rest) (first : rest.toList.head? = some c) (hc : c ≠ 'd') :
    placedNames line = [] := by
  obtain ⟨tail, chars⟩ := List.head?_eq_some_iff.mp first
  simp [placedNames, readImport?, readClass?, readOperation?, h, chars, List.dropPrefix?, hc]

/-- An import line is read as its module and the names in the rest of it. -/
theorem readImport?_append {moduleName : String} (blank : ' ' ∉ moduleName.toList)
    (wanted : String) :
    readImport? ("from " ++ moduleName ++ " import " ++ wanted) =
      some (moduleName, names wanted.toList) := by
  have chars : ("from " ++ moduleName ++ " import " ++ wanted).toList =
      "from ".toList ++ (moduleName.toList ++ (" import ".toList ++ wanted.toList)) := by
    simp
  have rest : ("from " ++ moduleName ++ " import " ++ wanted).toList.dropPrefix? "from ".toList =
      some (moduleName.toList ++ (" import ".toList ++ wanted.toList)) :=
    List.dropPrefix?_eq_some_iff.mpr ⟨_, chars, BEq.rfl⟩
  have inside : ∀ c ∈ moduleName.toList, (c != ' ') = true := by
    intro c hc
    exact bne_iff_ne.mpr fun heq => blank (heq ▸ hc)
  have before : (moduleName.toList ++ (" import ".toList ++ wanted.toList)).takeWhile (· != ' ') =
      moduleName.toList := by
    rw [List.takeWhile_append_of_pos inside]
    simp
  have after : (moduleName.toList ++ (" import ".toList ++ wanted.toList)).dropWhile (· != ' ') =
      " import ".toList ++ wanted.toList := by
    rw [List.dropWhile_append_of_pos inside]
    simp
  have imported : (" import ".toList ++ wanted.toList).dropPrefix? " import ".toList =
      some wanted.toList := List.dropPrefix?_eq_some_iff.mpr ⟨_, rfl, BEq.rfl⟩
  simp only [readImport?, rest, Option.bind_eq_bind, Option.bind_some, before, after, imported,
    String.ofList_toList]
  rfl

/-- An import line shows the parts of its module and what is imported from it. -/
theorem placedNames_import {moduleName : String} (blank : ' ' ∉ moduleName.toList)
    (wanted : String) :
    placedNames ("from " ++ moduleName ++ " import " ++ wanted) =
      split '.' moduleName ++ names wanted.toList := by
  have class' : readClass? ("from " ++ moduleName ++ " import " ++ wanted) = none := by
    simp [readClass?, List.dropPrefix?]
  have operation : readOperation? ("from " ++ moduleName ++ " import " ++ wanted) = none := by
    simp [readOperation?, List.dropPrefix?]
  simp [placedNames, readImport?_append blank, class', operation]

/-- The line of a class shows the names before its colon. -/
theorem placedNames_class {head : List Char} (colon : ':' ∉ head) {line : String}
    (rest : List Char) (h : line.toList = "class ".toList ++ (head ++ ':' :: rest)) :
    placedNames line = names head := by
  have inside : ∀ c ∈ head, (c != ':') = true := by
    intro c hc
    exact bne_iff_ne.mpr fun heq => colon (heq ▸ hc)
  simp [placedNames, readImport?, readClass?, readOperation?, h, List.dropPrefix?,
    List.takeWhile_append_of_pos inside]

/-- The line of an operation shows the names before its closing parenthesis. -/
theorem placedNames_operation {head : List Char} (paren : ')' ∉ head) {line : String}
    (rest : List Char) (h : line.toList = "    def ".toList ++ (head ++ ')' :: rest)) :
    placedNames line = names head := by
  have inside : ∀ c ∈ head, (c != ')') = true := by
    intro c hc
    exact bne_iff_ne.mpr fun heq => paren (heq ▸ hc)
  simp [placedNames, readImport?, readClass?, readOperation?, h, List.dropPrefix?,
    List.takeWhile_append_of_pos inside]

/-! ### Names of imports -/

/-- The names on an import line are the parts of the module and what is wanted from it. -/
theorem placedNames_importLine {imports : List Import} {moduleName : String}
    (package : isPackageName moduleName = true)
    (valid : ∀ i ∈ imports, isIdentifier i.name = true) :
    placedNames (importLine imports moduleName) =
      split '.' moduleName ++
        distinctSorted ((imports.filter (·.moduleName == moduleName)).map Import.name) := by
  have blank : ' ' ∉ moduleName.toList := by
    intro hc
    rcases isSep_or_mem_splitWhere (· == '.') hc with period | ⟨piece, hp, hcp⟩
    · cases period
    · have usable := isUsableName_of_mem_package package (List.mem_map_of_mem hp)
      refine not_mem_of_isIdentifier (c := ' ') (isIdentifier_of_isUsableName usable) rfl ?_
      rwa [String.toList_ofList]
  have wanted : ∀ n ∈ distinctSorted
      ((imports.filter (·.moduleName == moduleName)).map Import.name), isIdentifier n = true := by
    intro n hn
    obtain ⟨i, hi, rfl⟩ := List.mem_map.mp (Stub.mem_distinctSorted.mp hn)
    exact valid i (List.mem_filter.mp hi).1
  rw [importLine, placedNames_import blank, names_joinWith wanted]

/-- A group of imports shows the names of its lines. -/
theorem flatMap_placedNames_importGroup (imports : List Import) (modules : List String) :
    (importGroup imports modules).flatMap placedNames =
      modules.flatMap fun m => placedNames (importLine imports m) := by
  rw [importGroup]
  cases modules with
  | nil => rfl
  | cons m rest =>
      have blank : placedNames "" = [] := rfl
      simp [List.flatMap_append, List.flatMap_map, blank]

/-- Both groups of imports together show the line of each module, after the line that stands before
all others. -/
theorem mem_placedNames_groups {imports : List Import} {n : String} :
    n ∈ (importBlock imports).flatMap placedNames ↔
      n ∈ ["__future__", "annotations"] ∨
        ∃ m ∈ imports.map Import.moduleName, n ∈ placedNames (importLine imports m) := by
  have future : placedNames "from __future__ import annotations" =
      ["__future__", "annotations"] := by decide
  have blank : placedNames "" = [] := rfl
  simp only [importBlock, List.flatMap_append, List.flatMap_cons, List.flatMap_nil, future, blank,
    flatMap_placedNames_importGroup, List.mem_append, List.mem_flatMap, List.mem_filter,
    Stub.mem_distinctSorted, List.append_nil, or_assoc]
  refine or_congr_right ?_
  constructor
  · rintro (⟨m, ⟨hm, -⟩, hn⟩ | ⟨m, ⟨hm, -⟩, hn⟩)
    · exact ⟨m, hm, hn⟩
    · exact ⟨m, hm, hn⟩
  · rintro ⟨m, hm, hn⟩
    cases library : isLibraryModule m with
    | true => exact .inl ⟨m, ⟨hm, library⟩, hn⟩
    | false => exact .inr ⟨m, ⟨hm, by rw [library]; rfl⟩, hn⟩

/-- **What imports show**: the parts of their modules and the names that are imported from these,
and those of the line that stands before all others. -/
theorem mem_placedNames_importBlock {imports : List Import}
    (valid : ∀ i ∈ imports, isPackageName i.moduleName = true ∧ isIdentifier i.name = true)
    {n : String} :
    n ∈ (importBlock imports).flatMap placedNames ↔
      n ∈ ["__future__", "annotations"] ∨
        ∃ i ∈ imports, n ∈ split '.' i.moduleName ∨ n = i.name := by
  have line : ∀ i ∈ imports, placedNames (importLine imports i.moduleName) =
      split '.' i.moduleName ++
        distinctSorted ((imports.filter (·.moduleName == i.moduleName)).map Import.name) :=
    fun i hi => placedNames_importLine (valid i hi).1 fun j hj => (valid j hj).2
  rw [mem_placedNames_groups]
  refine or_congr_right ?_
  constructor
  · rintro ⟨m, hm, hn⟩
    obtain ⟨i, hi, rfl⟩ := List.mem_map.mp hm
    rw [line i hi, List.mem_append] at hn
    rcases hn with part | name
    · exact ⟨i, hi, .inl part⟩
    · obtain ⟨j, hj, rfl⟩ := List.mem_map.mp (Stub.mem_distinctSorted.mp name)
      exact ⟨j, (List.mem_filter.mp hj).1, .inr rfl⟩
  · rintro ⟨i, hi, hn⟩
    refine ⟨i.moduleName, List.mem_map_of_mem hi, ?_⟩
    rw [line i hi, List.mem_append]
    refine hn.imp_right ?_
    rintro rfl
    exact Stub.mem_distinctSorted.mpr
      (List.mem_map_of_mem (List.mem_filter.mpr ⟨hi, beq_self_eq_true _⟩))

/-! ### Names of modules -/

namespace Stub

/-- The names at all places of the module of a stub that only names can take. -/
def codeNames (u : Stub) : List String := u.moduleLines.flatMap placedNames

/-- The names that a stub has to show: those of its type, of its operations and their parameters,
of what it imports with the parts of the modules, and of what it has injected with its type. -/
def ownNames (u : Stub) : List String :=
  u.typeName :: u.operations.flatMap (fun o => o.name :: o.parameters.map Parameter.name) ++
    u.imports.flatMap (fun i => split '.' i.moduleName ++ [i.name]) ++
    u.collaborators.flatMap fun c => [c.slot, c.type.expression]

/-- The header of a module has no place for names. -/
theorem placedNames_headerLine (source : Option Path) : placedNames (headerLine source) = [] := by
  have first (origin : String) : ("# Generated by bpmngen 0.1.0" ++ origin ++
      ". Do not edit.").toList.head? = some '#' := by simp
  exact placedNames_eq_nil (first _) (by decide)

/-- A documentation has no place for names, indented or not. -/
theorem placedNames_documentation (u : Stub) :
    placedNames u.documentation = [] ∧ placedNames ("    " ++ u.documentation) = [] := by
  have first : u.documentation.toList.head? = some '"' := by simp [documentation]
  exact ⟨placedNames_eq_nil first (by decide),
    placedNames_eq_nil_of_indented rfl first (by decide)⟩

/-- The line that opens a service shows the name of its type. -/
theorem placedNames_serviceLine {typeName : String} (h : isIdentifier typeName = true) :
    placedNames ("class " ++ typeName ++ ":") = [typeName] := by
  have colon : ':' ∉ typeName.toList := not_mem_of_isIdentifier h rfl
  rw [placedNames_class colon [] (by simp)]
  exact names_of_isIdentifier h

/-- The line that opens an interface shows the name of its type and what makes it abstract. -/
theorem placedNames_interfaceLine {typeName : String} (h : isIdentifier typeName = true) :
    placedNames ("class " ++ typeName ++ "(ABC):") = [typeName, "ABC"] := by
  have colon : ':' ∉ typeName.toList ++ '(' :: "ABC)".toList := by
    rw [List.mem_append, not_or]
    exact ⟨not_mem_of_isIdentifier h rfl, by decide⟩
  rw [placedNames_class colon [] (by simp), names_append rfl, names_of_isIdentifier h]
  rfl

/-- The constructor of a service shows what it has injected, with its type. -/
theorem placedNames_constructor {typeName : String} (h : isIdentifier typeName = true) :
    placedNames ("    def __init__(self, runtime_service: " ++ typeName ++ ") -> None:") =
      ["__init__", "self", "runtime_service", typeName] := by
  have paren : ')' ∉ "__init__(self, runtime_service:".toList ++ ' ' :: typeName.toList := by
    rw [List.mem_append, List.mem_cons, not_or, not_or]
    exact ⟨by decide, by decide, not_mem_of_isIdentifier h rfl⟩
  rw [placedNames_operation paren " -> None:".toList (by simp), names_append rfl,
    names_of_isIdentifier h]
  rfl

/-- The operation of an interface shows its name. -/
theorem placedNames_method {method : String} (h : isIdentifier method = true) :
    placedNames ("    def " ++ method ++ "(self):") = [method, "self"] := by
  have paren : ')' ∉ method.toList ++ '(' :: "self".toList := by
    rw [List.mem_append, not_or]
    exact ⟨not_mem_of_isIdentifier h rfl, by decide⟩
  rw [placedNames_operation paren [':'] (by simp), names_append rfl, names_of_isIdentifier h]
  rfl

/-- The call that starts a process has no place for names, whatever its process is. -/
theorem placedNames_call (literal : String) :
    placedNames ("        return self.runtime_service.start_process_instance_by_key(" ++ literal ++
      ", variables).id") = [] := by
  have blanks : "        return self.runtime_service.start_process_instance_by_key(" =
      "    " ++ (" " ++ "   return self.runtime_service.start_process_instance_by_key(") := rfl
  rw [blanks, String.append_assoc, String.append_assoc, String.append_assoc]
  refine placedNames_eq_nil_of_indented (c := ' ') rfl ?_ (by decide)
  rw [String.toList_append]
  rfl

/-- The names that every service shows. -/
def serviceNames : List String := [
  "__future__", "annotations", "collections", "abc", "Mapping", "typing", "Any", "__init__", "self",
  "runtime_service", "start_process", "variables", "str"]

/-- The names that every interface shows. -/
def interfaceNames : List String :=
  ["__future__", "annotations", "abc", "ABC", "abstractmethod", "self"]

/-- The names that all services and all interfaces show can be used. -/
theorem isUsableName_of_mem_fixed {n : String} (h : n ∈ serviceNames ++ interfaceNames) :
    isUsableName n = true := by
  have all : (serviceNames ++ interfaceNames).all isUsableName = true := rfl
  exact List.all_eq_true.mp all n h

/-- **The names in the module of a service** are those in all services, that of its type, and those
of its runtime. -/
theorem mem_codeNames_ofProcess {reference : String} {runtime : RuntimeReference}
    (hr : runtimeOf reference = .ok runtime) (package : String) (source : Option Path)
    (id : String) {displayName : String}
    (type : isIdentifier (serviceTypeName displayName) = true) (n : String) :
    n ∈ (ofProcess package runtime source id displayName).codeNames ↔
      n ∈ serviceNames ∨ n = serviceTypeName displayName ∨
        n ∈ split '.' runtime.moduleName ∨ n = runtime.typeName := by
  obtain ⟨module, name⟩ := valid_of_runtimeOf hr
  have valid : ∀ i ∈ serviceImports runtime,
      isPackageName i.moduleName = true ∧ isIdentifier i.name = true := by
    simp only [serviceImports, List.forall_mem_cons]
    exact ⟨⟨rfl, rfl⟩, ⟨rfl, rfl⟩, ⟨module, name⟩, by simp⟩
  have operation : placedNames
      "    def start_process(self, variables: Mapping[str, Any]) -> str:" =
      ["start_process", "self", "variables", "Mapping", "str", "Any"] := by decide
  have assignment : placedNames "        self.runtime_service = runtime_service" = [] := by decide
  have blank : placedNames "" = [] := rfl
  obtain ⟨documentation, indented⟩ :=
    placedNames_documentation (ofProcess package runtime source id displayName)
  have collections : split '.' "collections.abc" = ["collections", "abc"] := by decide
  have typing : split '.' "typing" = ["typing"] := by decide
  have lines : (ofProcess package runtime source id displayName).codeNames =
      (importBlock (serviceImports runtime)).flatMap placedNames ++
        serviceTypeName displayName :: "__init__" :: "self" :: "runtime_service" ::
          runtime.typeName :: ["start_process", "self", "variables", "Mapping", "str", "Any"] := by
    rw [codeNames, moduleLines_ofProcess]
    simp only [serviceLines, List.flatMap_append, List.flatMap_cons, List.flatMap_nil,
      placedNames_headerLine, documentation, indented, blank, placedNames_serviceLine type,
      placedNames_constructor name, operation, assignment, placedNames_call, List.nil_append,
      List.append_nil, List.cons_append]
  rw [lines, List.mem_append, mem_placedNames_importBlock valid]
  simp only [serviceImports, List.exists_mem_cons_iff, collections, typing]
  grind [serviceNames]

/-- **The names in the module of an interface** are those in all interfaces, that of its type and
that of its method. -/
theorem mem_codeNames_ofBeanCall (package : String) (source : Option Path) {call : BeanCall}
    (type : isIdentifier (capitalized call.bean) = true)
    (method : isIdentifier call.method = true) (n : String) :
    n ∈ (ofBeanCall package source call).codeNames ↔
      n ∈ interfaceNames ∨ n = capitalized call.bean ∨ n = call.method := by
  have imports : placedNames "from abc import ABC, abstractmethod" =
      ["abc", "ABC", "abstractmethod"] := by decide
  have future : placedNames "from __future__ import annotations" =
      ["__future__", "annotations"] := by decide
  have decorator : placedNames "    @abstractmethod" = [] := by decide
  have ellipsis : placedNames "        ..." = [] := by decide
  have blank : placedNames "" = [] := rfl
  obtain ⟨documentation, indented⟩ := placedNames_documentation (ofBeanCall package source call)
  have lines : (ofBeanCall package source call).codeNames =
      ["__future__", "annotations", "abc", "ABC", "abstractmethod", capitalized call.bean, "ABC",
        call.method, "self"] := by
    rw [codeNames, moduleLines_ofBeanCall]
    simp only [interfaceLines, List.flatMap_cons, List.flatMap_nil, placedNames_headerLine,
      documentation, indented, blank, imports, future, decorator, ellipsis,
      placedNames_interfaceLine type, placedNames_method method, List.nil_append, List.append_nil,
      List.cons_append]
  rw [lines]
  grind [interfaceNames]

/-! ### Names that can be used -/

/-- **What a module shows of a stub** for a runtime: every name that the stub has to show, and at
its places identifiers only. A reserved word among them is the type of the runtime in a service,
which shows it in any case. -/
structure Shows (runtime : RuntimeReference) (u : Stub) : Prop where
  /-- No name of the stub is missing. -/
  own : ∀ n ∈ u.ownNames, n ∈ u.codeNames
  /-- All names are identifiers. -/
  identifier : ∀ n ∈ u.codeNames, isIdentifier n = true
  /-- A reserved word is the type of the runtime. -/
  keyword : ∀ n ∈ u.codeNames, isKeyword n = true → u.kind = .service ∧ n = runtime.typeName
  /-- A service shows the type of its runtime. -/
  runtimeType : u.kind = .service → runtime.typeName ∈ u.codeNames

/-- All names can be used exactly if the type of the runtime is no reserved word, or nothing shows
it. -/
theorem Shows.isUsableName_iff {runtime : RuntimeReference} {u : Stub} (h : u.Shows runtime) :
    (∀ n ∈ u.codeNames, isUsableName n = true) ↔
      (u.kind = .service → isKeyword runtime.typeName = false) := by
  constructor
  · intro usable service
    have name := usable _ (h.runtimeType service)
    rw [isUsableName, Bool.and_eq_true, Bool.not_eq_true'] at name
    exact name.2
  · intro free n hn
    rw [isUsableName, h.identifier n hn, Bool.true_and, Bool.not_eq_true']
    cases reserved : isKeyword n with
    | false => rfl
    | true =>
        obtain ⟨service, rfl⟩ := h.keyword n hn reserved
        rw [free service] at reserved
        cases reserved

/-- The names that a service has to show. -/
theorem mem_ownNames_ofProcess {package : String} {runtime : RuntimeReference}
    {source : Option Path} {id displayName n : String}
    (h : n ∈ (ofProcess package runtime source id displayName).ownNames) :
    n ∈ serviceNames ∨ n = serviceTypeName displayName ∨
      n ∈ split '.' runtime.moduleName ∨ n = runtime.typeName := by
  have collections : split '.' "collections.abc" = ["collections", "abc"] := by decide
  have typing : split '.' "typing" = ["typing"] := by decide
  have fixed : ∀ m ∈ ["start_process", "variables", "collections", "abc", "Mapping", "typing",
      "Any"], m ∈ serviceNames := by decide
  have own : (ofProcess package runtime source id displayName).ownNames =
      serviceTypeName displayName :: ["start_process", "variables", "collections", "abc", "Mapping",
        "typing", "Any"] ++ (split '.' runtime.moduleName ++
          [runtime.typeName, "runtime_service", runtime.typeName]) := by
    simp [ownNames, ofProcess, startOperation, imports, typeImports, variablesType,
      runtimeAttribute, collections, typing]
  rw [own, List.mem_append, List.mem_cons, List.mem_append] at h
  rcases h with (rfl | operation) | part | injected
  · exact .inr (.inl rfl)
  · exact .inl (fixed n operation)
  · exact .inr (.inr (.inl part))
  · simp only [List.mem_cons, List.not_mem_nil, or_false] at injected
    rcases injected with rfl | rfl | rfl
    · exact .inr (.inr (.inr rfl))
    · exact .inl (by decide)
    · exact .inr (.inr (.inr rfl))

/-- The names that an interface has to show. -/
theorem mem_ownNames_ofBeanCall {package : String} {source : Option Path} {call : BeanCall}
    {n : String} (h : n ∈ (ofBeanCall package source call).ownNames) :
    n ∈ interfaceNames ∨ n = capitalized call.bean ∨ n = call.method := by
  have abc : split '.' "abc" = ["abc"] := by decide
  have fixed : ∀ m ∈ ["abc", "ABC", "abc", "abstractmethod"], m ∈ interfaceNames := by decide
  have own : (ofBeanCall package source call).ownNames =
      capitalized call.bean :: call.method :: ["abc", "ABC", "abc", "abstractmethod"] := by
    simp [ownNames, ofBeanCall, imports, typeImports, abc]
  rw [own, List.mem_cons, List.mem_cons] at h
  rcases h with rfl | rfl | imported
  · exact .inr (.inl rfl)
  · exact .inr (.inr rfl)
  · exact .inl (fixed n imported)

/-- A usable name is no reserved word. -/
theorem isKeyword_of_isUsableName {n : String} (h : isUsableName n = true) :
    isKeyword n = false := by
  rw [isUsableName, Bool.and_eq_true, Bool.not_eq_true'] at h
  exact h.2

/-- The module of a service that can be written shows the names of the service. -/
theorem shows_ofProcess {reference : String} {runtime : RuntimeReference}
    (hr : runtimeOf reference = .ok runtime) {package : String} {source : Option Path}
    {id displayName : String}
    (accepted : (ofProcess package runtime source id displayName).unusableName? = none) :
    (ofProcess package runtime source id displayName).Shows runtime := by
  obtain ⟨module, name⟩ := valid_of_runtimeOf hr
  have type := isUsableName_of_unusableName?_eq_none accepted
  have shown := mem_codeNames_ofProcess hr package source id (isIdentifier_of_isUsableName type)
  -- Each name is usable or that of the type of the runtime.
  have usable : ∀ n ∈ (ofProcess package runtime source id displayName).codeNames,
      isUsableName n = true ∨ n = runtime.typeName := by
    intro n hn
    rcases (shown n).mp hn with fixed | rfl | part | rfl
    · exact .inl (isUsableName_of_mem_fixed (List.mem_append_left _ fixed))
    · exact .inl type
    · exact .inl (isUsableName_of_mem_package module part)
    · exact .inr rfl
  constructor
  · exact fun n hn => (shown n).mpr (mem_ownNames_ofProcess hn)
  · intro n hn
    rcases usable n hn with usable | rfl
    · exact isIdentifier_of_isUsableName usable
    · exact name
  · intro n hn reserved
    rcases usable n hn with usable | rfl
    · rw [isKeyword_of_isUsableName usable] at reserved
      cases reserved
    · exact ⟨rfl, rfl⟩
  · exact fun _ => (shown _).mpr (.inr (.inr (.inr rfl)))

/-- The module of an interface that can be written shows the names of the interface. -/
theorem shows_ofBeanCall (runtime : RuntimeReference) {package : String} {source : Option Path}
    {call : BeanCall} (accepted : (ofBeanCall package source call).unusableName? = none) :
    (ofBeanCall package source call).Shows runtime := by
  have type := isUsableName_of_unusableName?_eq_none accepted
  have method := isUsableName_operationName accepted List.mem_cons_self
  have shown := mem_codeNames_ofBeanCall package source (isIdentifier_of_isUsableName type)
    (isIdentifier_of_isUsableName method)
  have usable : ∀ n ∈ (ofBeanCall package source call).codeNames, isUsableName n = true := by
    intro n hn
    rcases (shown n).mp hn with fixed | rfl | rfl
    · exact isUsableName_of_mem_fixed (List.mem_append_right _ fixed)
    · exact type
    · exact method
  constructor
  · exact fun n hn => (shown n).mpr (mem_ownNames_ofBeanCall hn)
  · exact fun n hn => isIdentifier_of_isUsableName (usable n hn)
  · intro n hn reserved
    rw [isKeyword_of_isUsableName (usable n hn)] at reserved
    cases reserved
  · rintro ⟨⟩

/-- The modules of all stubs of a document show their names. -/
theorem shows_of_mem_ofDocument {reference : String} {runtime : RuntimeReference}
    (hr : runtimeOf reference = .ok runtime) {package : String} {document : ProcessDocument}
    {u : Stub} (hu : u ∈ ofDocument package runtime document)
    (accepted : u.unusableName? = none) : u.Shows runtime := by
  obtain ⟨p, -, hu⟩ := List.mem_flatMap.mp hu
  rcases List.mem_cons.mp hu with rfl | hu
  · exact shows_ofProcess hr accepted
  · obtain ⟨call, -, rfl⟩ := List.mem_map.mp hu
    exact shows_ofBeanCall runtime accepted

/-- **The names in the modules of frozen settings.** For every document there are stubs, and a stub
that can be written has a module that shows all its names, at the places for names only identifiers,
and no reserved word but the type of the runtime in a service. So all names in the module can be
used exactly if it is an interface or the type of the runtime is no reserved word. -/
theorem codeNames_of_freeze {draft : Draft} {tree : FileTree} {s : Settings}
    (frozen : draft.freeze tree = .ok s) (document : ProcessDocument) :
    ∃ runtime stubs, runtimeOf s.runtimeService = .ok runtime ∧
      s.stubsOf document = .ok stubs ∧
      ∀ u ∈ stubs, u.unusableName? = none → u.Shows runtime ∧
        ((∀ n ∈ u.codeNames, isUsableName n = true) ↔
          (u.kind = .service → isKeyword runtime.typeName = false)) := by
  obtain ⟨-, runtime, hr⟩ := Draft.freeze_ok frozen
  refine ⟨runtime, _, hr, Settings.stubsOf_eq hr document, ?_⟩
  intro u hu accepted
  have shows := shows_of_mem_ofDocument hr hu accepted
  exact ⟨shows, shows.isUsableName_iff⟩

/-- A document with one process that is executable and has no flow elements. -/
def plainDocument : ProcessDocument := ⟨[⟨"A", none, true, []⟩], [], none⟩

/-- It gives one service. -/
theorem ofDocument_plainDocument (package : String) (runtime : RuntimeReference) :
    ofDocument package runtime plainDocument = [ofProcess package runtime none "A" "A"] := by
  have shown : (⟨"A", none, true, []⟩ : Process).displayName [] = "A" := by decide
  simp [ofDocument, plainDocument, ProcessDocument.executable, ofExecutable, shown,
    Process.serviceTasks]

/-- It is the stub of the document in settings with a runtime. -/
theorem stubsOf_plainDocument {s : Settings} {runtime : RuntimeReference}
    (hr : runtimeOf s.runtimeService = .ok runtime) :
    s.stubsOf plainDocument = .ok [ofProcess s.packageName runtime none "A" "A"] := by
  rw [Settings.stubsOf_eq hr, ofDocument_plainDocument]

/-- All names in the service can be used in the standard settings. -/
theorem codeNames_of_freeze_standard :
    Draft.empty.freeze ⟨[], []⟩ = .ok Settings.standard ∧
      ∃ stubs, Settings.standard.stubsOf plainDocument = .ok stubs ∧
        ∃ u ∈ stubs, u.unusableName? = none ∧ ∀ n ∈ u.codeNames, isUsableName n = true := by
  have free : isKeyword "RuntimeService" = false := rfl
  obtain ⟨runtime, stubs, hr, found, shown⟩ := codeNames_of_freeze Draft.freeze_empty plainDocument
  rw [Settings.runtimeOf_standard] at hr
  cases hr
  cases (stubsOf_plainDocument Settings.runtimeOf_standard).symm.trans found
  have accepted := unusableName?_ofProcess_letter Settings.standard.packageName
    ⟨"bpmngen.runtime", "RuntimeService"⟩ none "A"
  exact ⟨Draft.freeze_empty, _, found, _, List.mem_cons_self, accepted,
    (shown _ List.mem_cons_self accepted).2.mpr fun _ => free⟩

/-- A draft whose runtime has a reserved word for its type. -/
def reservedDraft : Draft := { Draft.empty with runtimeService := some "app:class" }

/-- **A reserved word in code**: the draft can be frozen, and the service of a document can be
written and imports its runtime by this word. -/
theorem not_isUsableName_codeNames_class :
    ∃ s, reservedDraft.freeze ⟨[], []⟩ = .ok s ∧
      ∃ stubs, s.stubsOf plainDocument = .ok stubs ∧
        ∃ u ∈ stubs, u.unusableName? = none ∧ "from app import class" ∈ u.moduleLines ∧
          "class" ∈ u.codeNames ∧ isUsableName "class" = false := by
  have hr : runtimeOf "app:class" = .ok ⟨"app", "class"⟩ := rfl
  have frozen : reservedDraft.freeze ⟨[], []⟩ = .ok (reservedDraft.settings ⟨[], []⟩) := by
    obtain ⟨package, -⟩ := Draft.freeze_ok Draft.freeze_empty
    exact Draft.freeze_eq_ok_iff.mpr ⟨package, ⟨_, hr⟩, rfl, rfl⟩
  have found := stubsOf_plainDocument (s := reservedDraft.settings ⟨[], []⟩) hr
  have accepted := unusableName?_ofProcess_letter (reservedDraft.settings ⟨[], []⟩).packageName
    ⟨"app", "class"⟩ none "A"
  have library : isLibraryModule "app" = false := by decide +kernel
  have lines : importBlock (serviceImports ⟨"app", "class"⟩) = _ := importBlock_service library
  have line : "from " ++ "app" ++ " import " ++ "class" = "from app import class" := by decide
  have block : "from app import class" ∈ importBlock (serviceImports ⟨"app", "class"⟩) := by
    rw [lines, line]
    exact List.mem_append_right ["from __future__ import annotations", "",
      "from collections.abc import Mapping", "from typing import Any", ""] List.mem_cons_self
  have imported : "from app import class" ∈
      (ofProcess (reservedDraft.settings ⟨[], []⟩).packageName ⟨"app", "class"⟩ none
        "A" "A").moduleLines := by
    rw [moduleLines_ofProcess]
    exact List.mem_append_left _ (List.mem_append_right _ block)
  exact ⟨_, frozen, _, found, _, List.mem_cons_self, accepted, imported,
    (shows_ofProcess hr accepted).runtimeType rfl, rfl⟩

end Stub

end ProcessStubs
