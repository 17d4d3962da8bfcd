import ProcessStubs.Proofs.KeyedList
import ProcessStubs.Proofs.NamesInCode

/-!
# What import lines say

The imports of a module are read back from its lines. They say what the types of its stub need, and
an interface what makes it abstract, each module on one line; and no other line of the module is one
of imports. The lines are sorted and nothing is repeated on them, so they depend on what is needed
alone, and not on how often or in which order it is asked for.

## Main definitions

* `Stub.Needs`: what a stub needs to import.
* `ImportedNames`: a line of imports, as a module and the names from it.
* `Rises`: lines in the order of their modules, each with its names in order.
* `Stub.ImportsAs`: what the lines of a module say, in two groups.

## Main results

* `distinctSorted_eq_of_mem`: sorted texts depend on which texts there are.
* `importBlock_eq_of_mem`: so do imports.
* `Stub.filterMap_moduleLines`: the import lines of a module are those of its imports.
* `Stub.importsAs_importedFrom`: they say what the stub needs.
* `Stub.breakLines_moduleText_of_named`: no other lines of a module break than its header and those
  of its body.
* `Stub.importLines_say`: all of this, and that nothing else matters.
-/

namespace ProcessStubs

open Text

/-! ### Sorted texts -/

namespace Text

/-- Sorted texts rise strictly: nothing is repeated. -/
theorem pairwise_lt_distinctSorted (l : List String) : (distinctSorted l).Pairwise (· < ·) := by
  have distinct : (distinctSorted l).Pairwise (· ≠ ·) :=
    (List.mergeSort_perm _ _).nodup_iff.mpr (nodup_eraseDups l)
  refine (Stub.pairwise_distinctSorted l).imp₂ ?_ distinct
  intro a b le ne
  exact String.not_le.mp fun ge => ne (String.le_antisymm le ge)

/-- **Sorted texts depend on which texts there are**, and on nothing else. -/
theorem distinctSorted_eq_of_mem {l l' : List String} (same : ∀ s, s ∈ l ↔ s ∈ l') :
    distinctSorted l = distinctSorted l' :=
  mergeSort_eraseDups_eq_of_mem (by simpa using fun a b c => String.le_trans)
    (by simpa using String.le_total)
    (by simpa using fun a _ b _ => String.le_antisymm) same

/-! ### Dotted names -/

/-- Whether a text is identifiers with dots between them. -/
def isDottedName (s : String) : Bool := (split '.' s).all isIdentifier

/-- A package is a dotted name. -/
theorem isDottedName_of_isPackageName {s : String} (h : isPackageName s = true) :
    isDottedName s = true :=
  List.all_eq_true.mpr fun _ hpiece =>
    isIdentifier_of_isUsableName (isUsableName_of_mem_package h hpiece)

/-- A dotted name holds dots, and else what identifiers hold. -/
theorem eq_or_isIdentifierPart_of_isDottedName {s : String} (h : isDottedName s = true) {c : Char}
    (hc : c ∈ s.toList) : c = '.' ∨ isIdentifierPart c = true := by
  rcases isSep_or_mem_splitWhere (· == '.') hc with period | ⟨piece, hpiece, hcp⟩
  · exact .inl (beq_iff_eq.mp period)
  · have identifier := List.all_eq_true.mp h _ (List.mem_map_of_mem hpiece)
    exact .inr (isIdentifierPart_of_mem identifier (by rwa [String.toList_ofList]))

/-- There is no blank in a dotted name. -/
theorem blank_not_mem_of_isDottedName {s : String} (h : isDottedName s = true) :
    ' ' ∉ s.toList := by
  intro hmem
  rcases eq_or_isIdentifierPart_of_isDottedName h hmem with period | part
  · cases period
  · cases (endsName_eq_false part).symm.trans (show endsName ' ' = true from rfl)

/-- A dotted name is of one line. -/
theorem oneLine_of_isDottedName {s : String} (h : isDottedName s = true) : OneLine s := by
  intro c hc
  rcases eq_or_isIdentifierPart_of_isDottedName h hc with rfl | part
  · rfl
  · exact isLineBreak_eq_false part

end Text

/-! ### Lines of imports -/

/-- A line of imports: a module, and the names that are imported from it. -/
abbrev ImportedNames := String × List String

namespace ImportedNames

/-- How a line of imports is written. -/
def text (line : ImportedNames) : String :=
  "from " ++ line.1 ++ " import " ++ joinWith ", " line.2

/-- **A line of imports is read as it was written**, if the module is a dotted name and what is
imported are identifiers. -/
theorem readImport?_text {line : ImportedNames} (dotted : isDottedName line.1 = true)
    (identifiers : ∀ n ∈ line.2, isIdentifier n = true) : readImport? line.text = some line := by
  rw [text, readImport?_append (blank_not_mem_of_isDottedName dotted), names_joinWith identifiers]

end ImportedNames

/-- The line that is there whatever is imported. -/
def futureImport : ImportedNames := ("__future__", ["annotations"])

/-- The lines of a group and a blank line after them, or nothing. -/
def groupLines (group : List ImportedNames) : List String :=
  if group.isEmpty then [] else group.map ImportedNames.text ++ [""]

/-- **Lines in order**: their modules rise strictly, and so do the names on each of them, of which
there is at least one. -/
structure Rises (group : List ImportedNames) : Prop where
  modules : (group.map Prod.fst).Pairwise (· < ·)
  names : ∀ line ∈ group, line.2 ≠ [] ∧ line.2.Pairwise (· < ·)

/-- The modules with a property that something is imported from, each with what that is. -/
def importedFrom (imports : List Import) (p : String → Bool) : List ImportedNames :=
  ((distinctSorted (imports.map Import.moduleName)).filter p).map fun m =>
    (m, distinctSorted ((imports.filter (·.moduleName == m)).map Import.name))

variable {imports imports' : List Import} {p : String → Bool} {m n : String}

/-- Imports are two groups of lines after the line that is always there. -/
theorem importBlock_eq (imports : List Import) :
    importBlock imports = [futureImport.text, ""] ++
      groupLines (importedFrom imports isLibraryModule) ++
      groupLines (importedFrom imports fun m => !isLibraryModule m) := by
  have group (p : String → Bool) :
      importGroup imports ((distinctSorted (imports.map Import.moduleName)).filter p) =
        groupLines (importedFrom imports p) := by
    rw [importGroup, groupLines, importedFrom, List.isEmpty_map, List.map_map]
    rfl
  rw [importBlock, group, group]
  rfl

/-- A line is there for a module with the property from which something is imported. -/
theorem mem_importedFrom {line : ImportedNames} :
    line ∈ importedFrom imports p ↔ (∃ i ∈ imports, i.moduleName = line.1) ∧ p line.1 = true ∧
      line.2 = distinctSorted ((imports.filter (·.moduleName == line.1)).map Import.name) := by
  obtain ⟨m, names⟩ := line
  simp only [importedFrom, List.mem_map, List.mem_filter, Stub.mem_distinctSorted, Prod.mk.injEq]
  constructor
  · rintro ⟨m, ⟨used, holds⟩, rfl, rfl⟩
    exact ⟨used, holds, rfl⟩
  · rintro ⟨used, holds, rfl⟩
    exact ⟨m, ⟨used, holds⟩, rfl, rfl⟩

/-- What is imported from a module is on the line of the module. -/
theorem mem_names_iff {line : ImportedNames} (h : line ∈ importedFrom imports p) :
    n ∈ line.2 ↔ ⟨line.1, n⟩ ∈ imports := by
  obtain ⟨-, -, names⟩ := mem_importedFrom.mp h
  rw [names, Stub.mem_distinctSorted, List.mem_map]
  constructor
  · rintro ⟨⟨m, n⟩, hi, rfl⟩
    obtain ⟨there, same⟩ := List.mem_filter.mp hi
    exact beq_iff_eq.mp same ▸ there
  · intro hi
    exact ⟨_, List.mem_filter.mpr ⟨hi, beq_self_eq_true _⟩, rfl⟩

/-- **What a group of lines says**: all that is imported from modules with the property. -/
theorem exists_mem_importedFrom {i : Import} :
    (∃ line ∈ importedFrom imports p, line.1 = i.moduleName ∧ i.name ∈ line.2) ↔
      i ∈ imports ∧ p i.moduleName = true := by
  constructor
  · rintro ⟨line, hline, same, hname⟩
    have there := (mem_names_iff hline).mp hname
    rw [same] at there
    exact ⟨there, same ▸ (mem_importedFrom.mp hline).2.1⟩
  · rintro ⟨hi, holds⟩
    have hline : (i.moduleName, distinctSorted ((imports.filter (·.moduleName == i.moduleName)).map
        Import.name)) ∈ importedFrom imports p :=
      mem_importedFrom.mpr ⟨⟨i, hi, rfl⟩, holds, rfl⟩
    exact ⟨_, hline, rfl, (mem_names_iff hline).mpr hi⟩

/-- **The lines of a group are in order.** -/
theorem rises_importedFrom (imports : List Import) (p : String → Bool) :
    Rises (importedFrom imports p) where
  modules := by
    have modules : (importedFrom imports p).map Prod.fst =
        (distinctSorted (imports.map Import.moduleName)).filter p := by
      rw [importedFrom, List.map_map]
      exact List.map_id _
    rw [modules]
    exact (pairwise_lt_distinctSorted _).filter p
  names := by
    intro line hline
    obtain ⟨⟨i, hi, same⟩, -, names⟩ := mem_importedFrom.mp hline
    refine ⟨?_, names ▸ pairwise_lt_distinctSorted _⟩
    have there : ⟨line.1, i.name⟩ ∈ imports := same ▸ hi
    exact List.ne_nil_of_mem ((mem_names_iff hline).mpr there)

/-- **Each module has one line** of both groups together. -/
theorem nodup_modules_importedFrom (imports : List Import) :
    ((importedFrom imports isLibraryModule ++
      importedFrom imports fun m => !isLibraryModule m).map Prod.fst).Nodup := by
  rw [List.map_append, List.nodup_append]
  refine ⟨(rises_importedFrom _ _).modules.imp String.ne_of_lt,
    (rises_importedFrom _ _).modules.imp String.ne_of_lt, ?_⟩
  -- A module of both groups would be of the standard library and not.
  rintro m hm n hn rfl
  obtain ⟨line, hline, rfl⟩ := List.mem_map.mp hm
  obtain ⟨line', hline', same⟩ := List.mem_map.mp hn
  have other := (mem_importedFrom.mp hline').2.1
  rw [same, (mem_importedFrom.mp hline).2.1] at other
  cases other

/-- **Imports depend on what is imported**, and on nothing else. -/
theorem importBlock_eq_of_mem (same : ∀ i, i ∈ imports ↔ i ∈ imports') :
    importBlock imports = importBlock imports' := by
  have modules : distinctSorted (imports.map Import.moduleName) =
      distinctSorted (imports'.map Import.moduleName) :=
    distinctSorted_eq_of_mem fun m => by simp only [List.mem_map, same]
  have names (m : String) : distinctSorted ((imports.filter (·.moduleName == m)).map Import.name) =
      distinctSorted ((imports'.filter (·.moduleName == m)).map Import.name) :=
    distinctSorted_eq_of_mem fun n => by simp only [List.mem_map, List.mem_filter, same]
  have groups : importedFrom imports = importedFrom imports' := by
    funext p
    simp only [importedFrom, modules, names]
  rw [importBlock_eq, importBlock_eq, groups]

/-! ### Reading lines back -/

/-- No imports are read from a line that begins otherwise. -/
theorem readImport?_append_eq_none {first : String}
    (other : first.toList.head?.any (· != 'f') = true) (rest : String) :
    readImport? (first ++ rest) = none := by
  cases chars : first.toList with
  | nil => simp [chars] at other
  | cons c start =>
      have different : c ≠ 'f' := by simpa [chars] using other
      simp [readImport?, chars, List.dropPrefix?, different]

/-- The lines of a group are read back. -/
theorem filterMap_groupLines {group : List ImportedNames}
    (h : ∀ line ∈ group, readImport? line.text = some line) :
    (groupLines group).filterMap readImport? = group := by
  rw [groupLines]
  split
  · next empty => rw [List.isEmpty_iff.mp empty, List.filterMap_nil]
  · have blank : [""].filterMap readImport? = [] := rfl
    rw [List.filterMap_append, blank, List.append_nil, List.filterMap_map]
    calc group.filterMap (readImport? ∘ ImportedNames.text)
      _ = group.filterMap some := List.filterMap_congr h
      _ = group := List.filterMap_some

/-- The line of each module is read back. -/
theorem readImport?_of_mem_importedFrom (named : ∀ i ∈ imports,
    isDottedName i.moduleName = true ∧ isIdentifier i.name = true) :
    ∀ line ∈ importedFrom imports p, readImport? line.text = some line := by
  intro line hline
  obtain ⟨⟨i, hi, same⟩, -, -⟩ := mem_importedFrom.mp hline
  refine ImportedNames.readImport?_text (same ▸ (named i hi).1) ?_
  intro n hn
  exact (named _ ((mem_names_iff hline).mp hn)).2

/-- **Imports are read back** from their lines. -/
theorem filterMap_importBlock (named : ∀ i ∈ imports,
    isDottedName i.moduleName = true ∧ isIdentifier i.name = true) :
    (importBlock imports).filterMap readImport? =
      futureImport :: (importedFrom imports isLibraryModule ++
        importedFrom imports fun m => !isLibraryModule m) := by
  have first : [futureImport.text, ""].filterMap readImport? = [futureImport] := by decide +kernel
  rw [importBlock_eq, List.filterMap_append, List.filterMap_append, first,
    filterMap_groupLines (readImport?_of_mem_importedFrom named),
    filterMap_groupLines (readImport?_of_mem_importedFrom named)]
  rfl

/-! ### Lines of modules -/

namespace Stub

variable {s s' : Stub}

/-- All types of a stub: those of parameters, of results and of collaborators. -/
def types (s : Stub) : List TypeUse :=
  s.operations.flatMap (fun o => o.parameters.map (·.type) ++ o.returns.toList) ++
    s.collaborators.map (·.type)

/-- Something that a type of the stub needs to be imported. -/
def TypesNeed (s : Stub) (i : Import) : Prop := ∃ type ∈ s.types, i ∈ type.imports

/-- **What a stub needs to import**: what its types need, and for an interface what makes it
abstract. -/
def Needs (s : Stub) (i : Import) : Prop :=
  s.TypesNeed i ∨ s.kind = .interface ∧ i.moduleName = "abc" ∧ i.name ∈ ["ABC", "abstractmethod"]

/-- The types of a stub need what is collected from them. -/
theorem mem_typeImports {i : Import} : i ∈ s.typeImports ↔ s.TypesNeed i := by
  have result (o : Operation) : (o.returns.map TypeUse.imports).getD [] =
      o.returns.toList.flatMap TypeUse.imports := by
    cases o.returns <;> simp
  have collected : s.typeImports = s.types.flatMap TypeUse.imports := by
    simp only [typeImports, types, result, List.flatMap_append, List.flatMap_map,
      List.flatMap_assoc]
  rw [collected, List.mem_flatMap, TypesNeed]

/-- A module imports what its stub needs. -/
theorem mem_imports {i : Import} : i ∈ s.imports ↔ s.Needs i := by
  obtain ⟨moduleName, name⟩ := i
  rw [imports, Needs]
  cases s.kind with
  | service => simp [mem_typeImports]
  | interface =>
      simp only [List.mem_append, mem_typeImports, List.mem_cons, Import.mk.injEq,
        List.not_mem_nil, or_false]
      tauto

/-- No imports are read from an indented line. -/
theorem readImport?_indent (rest : String) : readImport? (indent ++ rest) = none :=
  readImport?_append_eq_none (by decide) rest

/-- No imports are read from the line of a class. -/
theorem readImport?_class (rest : String) : readImport? ("class " ++ rest) = none :=
  readImport?_append_eq_none (by decide) rest

/-- No imports are read from the lines of a type. -/
theorem readImport?_of_mem_bodyLines : ∀ line ∈ s.bodyLines, readImport? line = none := by
  obtain ⟨opening, inner, lines, -, inside⟩ := bodyLines_eq s
  rw [lines, List.forall_mem_cons]
  refine ⟨by rw [String.append_assoc, readImport?_class], fun line hline => ?_⟩
  rcases inside line hline with rfl | ⟨text, rfl⟩
  · rfl
  · exact readImport?_indent text

/-- No imports are read from the header of a module. -/
theorem readImport?_headerLine (source : Option Path) : readImport? (headerLine source) = none := by
  have opened (origin : String) : readImport? ("# Generated by bpmngen 0.1.0" ++ origin ++
      ". Do not edit.") = none := by
    rw [String.append_assoc]
    exact readImport?_append_eq_none (by simp) _
  exact opened _

/-- No imports are read from the documentation of a module. -/
theorem readImport?_documentation : readImport? s.documentation = none := by
  rw [Stub.documentation, String.append_assoc]
  exact readImport?_append_eq_none (by decide) _

/-- **The import lines of a module** are those of its imports. -/
theorem filterMap_moduleLines (s : Stub) :
    s.moduleLines.filterMap readImport? = (importBlock s.imports).filterMap readImport? := by
  have blank : readImport? "" = none := rfl
  have header : readImport? s.header = none := by
    rw [header_eq]
    exact readImport?_headerLine s.source
  have body : s.bodyLines.filterMap readImport? = [] :=
    List.filterMap_eq_nil_iff.mpr readImport?_of_mem_bodyLines
  have above : [s.header, s.documentation, ""].filterMap readImport? = [] := by
    simp [header, readImport?_documentation, blank]
  rw [moduleLines, List.filterMap_append, List.filterMap_append, List.filterMap_append, above, body]
  simp [blank]

/-- **What the lines of a module say that it imports**, in two groups: the modules of the standard
library, and all others. Each group is in order and followed by a blank line, unless it is empty. No
other line of the module is one of imports, and the lines say what the stub needs. -/
structure ImportsAs (s : Stub) (library others : List ImportedNames) : Prop where
  lines : s.moduleLines = [s.header, s.documentation, ""] ++
    ([futureImport.text, ""] ++ groupLines library ++ groupLines others) ++ [""] ++ s.bodyLines
  read : s.moduleLines.filterMap readImport? = futureImport :: (library ++ others)
  library_modules : ∀ line ∈ library, isLibraryModule line.1 = true
  other_modules : ∀ line ∈ others, isLibraryModule line.1 = false
  library_rises : Rises library
  others_rise : Rises others
  once : ((library ++ others).map Prod.fst).Nodup
  complete : ∀ i : Import,
    (∃ line ∈ library ++ others, line.1 = i.moduleName ∧ i.name ∈ line.2) ↔ s.Needs i

/-- What a stub needs has names if what its types need has. -/
theorem Needs.named (named : ∀ i, s.TypesNeed i →
    isDottedName i.moduleName = true ∧ isIdentifier i.name = true) {i : Import} (h : s.Needs i) :
    isDottedName i.moduleName = true ∧ isIdentifier i.name = true := by
  rcases h with need | ⟨-, hmodule, hname⟩
  · exact named i need
  · have abstract : ∀ name ∈ ["ABC", "abstractmethod"], isIdentifier name = true := by
      decide +kernel
    rw [hmodule]
    exact ⟨by decide +kernel, abstract i.name hname⟩

/-- The imports of a stub have names if what its types need has. -/
theorem named_of_mem_imports (named : ∀ i, s.TypesNeed i →
    isDottedName i.moduleName = true ∧ isIdentifier i.name = true) :
    ∀ i ∈ s.imports, isDottedName i.moduleName = true ∧ isIdentifier i.name = true :=
  fun _ hi => (mem_imports.mp hi).named named

/-- **The lines of a module say what its stub needs**, each module on one line of its group. -/
theorem importsAs_importedFrom (named : ∀ i, s.TypesNeed i →
    isDottedName i.moduleName = true ∧ isIdentifier i.name = true) :
    s.ImportsAs (importedFrom s.imports isLibraryModule)
      (importedFrom s.imports fun m => !isLibraryModule m) := by
  have library_modules : ∀ line ∈ importedFrom s.imports isLibraryModule,
      isLibraryModule line.1 = true := fun line hline => (mem_importedFrom.mp hline).2.1
  have other_modules : ∀ line ∈ importedFrom s.imports fun m => !isLibraryModule m,
      isLibraryModule line.1 = false := fun line hline => by
    simpa using (mem_importedFrom.mp hline).2.1
  have library_rises := rises_importedFrom s.imports isLibraryModule
  have others_rise := rises_importedFrom s.imports fun m => !isLibraryModule m
  refine ⟨?_, ?_, library_modules, other_modules, library_rises, others_rise,
    nodup_modules_importedFrom s.imports, ?_⟩
  · rw [moduleLines, importBlock_eq]
  · rw [filterMap_moduleLines, filterMap_importBlock (named_of_mem_imports named)]
  · intro i
    simp only [List.mem_append, or_and_right, exists_or, exists_mem_importedFrom, mem_imports]
    cases isLibraryModule i.moduleName <;> simp

/-- The lines of a module between its header and its body are of one line each. -/
theorem oneLine_between (named : ∀ i, s.TypesNeed i →
    isDottedName i.moduleName = true ∧ isIdentifier i.name = true) :
    ∀ line ∈ [s.documentation, ""] ++ importBlock s.imports ++ [""], OneLine line := by
  have imports : ∀ line ∈ importBlock s.imports, OneLine line :=
    oneLine_importBlock fun i hi =>
      have ⟨dotted, identifier⟩ := named_of_mem_imports named i hi
      ⟨oneLine_of_isDottedName dotted, oneLine_of_isIdentifier identifier⟩
  have blank : OneLine "" := by decide
  simp only [List.forall_mem_append, List.forall_mem_cons]
  exact ⟨⟨⟨oneLine_documentation s, blank, List.forall_mem_nil _⟩, imports⟩, blank,
    List.forall_mem_nil _⟩

/-- **The lines of a text**: no line of its module breaks but its header and those of its body. -/
theorem breakLines_moduleText_of_named (named : ∀ i, s.TypesNeed i →
    isDottedName i.moduleName = true ∧ isIdentifier i.name = true) :
    breakLines s.moduleText = breakLines s.header ++
      ([s.documentation, ""] ++ importBlock s.imports ++ [""]) ++
      s.bodyLines.flatMap breakLines ++ [""] := by
  have lines : s.moduleLines =
      s.header :: ([s.documentation, ""] ++ importBlock s.imports ++ [""]) ++ s.bodyLines := by
    simp [moduleLines]
  rw [breakLines_moduleText_eq, lines, List.cons_append, List.flatMap_cons, List.flatMap_append,
    flatMap_breakLines (oneLine_between named)]
  simp only [List.append_assoc]

/-- What is read back from the lines of a text: its imports, and what its header and its body read
as where they break. -/
theorem filterMap_breakLines_moduleText (named : ∀ i, s.TypesNeed i →
    isDottedName i.moduleName = true ∧ isIdentifier i.name = true) :
    (breakLines s.moduleText).filterMap readImport? =
      (breakLines s.header).filterMap readImport? ++
      (importBlock s.imports).filterMap readImport? ++
      (s.bodyLines.flatMap breakLines).filterMap readImport? := by
  have blank : readImport? "" = none := rfl
  rw [breakLines_moduleText_of_named named]
  simp [List.filterMap_append, readImport?_documentation, blank]

/-- **What import lines say.** If the types of a stub need identifiers from dotted names, the lines
of its module are read back as two groups of imports that are in order, and together say what the
stub needs, each module on one line. The lines of the text are these lines, but for the header and
lines of the body that break: what else is read back from the text is read from their pieces. Any
stub of this kind whose types need the same has the same imports, however often and in which order
its types ask for them. -/
theorem importLines_say (s : Stub) (named : ∀ i, s.TypesNeed i →
    isDottedName i.moduleName = true ∧ isIdentifier i.name = true) :
    (∃ library others, s.ImportsAs library others ∧
      (breakLines s.moduleText).filterMap readImport? =
        (breakLines s.header).filterMap readImport? ++ futureImport :: (library ++ others) ++
          (s.bodyLines.flatMap breakLines).filterMap readImport?) ∧
    breakLines s.moduleText = breakLines s.header ++
      ([s.documentation, ""] ++ importBlock s.imports ++ [""]) ++
      s.bodyLines.flatMap breakLines ++ [""] ∧
    ((∀ line ∈ s.header :: s.bodyLines, OneLine line) →
      breakLines s.moduleText = s.moduleLines ++ [""]) ∧
    ∀ s' : Stub, s'.kind = s.kind → (∀ i, s'.TypesNeed i ↔ s.TypesNeed i) →
      importBlock s'.imports = importBlock s.imports := by
  refine ⟨⟨_, _, importsAs_importedFrom named, ?_⟩, breakLines_moduleText_of_named named, ?_, ?_⟩
  · rw [filterMap_breakLines_moduleText named, filterMap_importBlock (named_of_mem_imports named)]
  · intro lines
    obtain ⟨header, body⟩ := List.forall_mem_cons.mp lines
    rw [breakLines_moduleText_of_named named, header.breakLines_eq, flatMap_breakLines body]
    simp [moduleLines]
  · intro s' kind same
    refine importBlock_eq_of_mem fun i => ?_
    rw [mem_imports, mem_imports, Needs, Needs, kind, same]

/-- An interface whose method takes two values. -/
def takingTwo (first second : TypeUse) : Stub where
  packageName := "shop"
  typeName := "Cart"
  kind := .interface
  operations := [⟨"put", [⟨"first", first⟩, ⟨"second", second⟩], none, true, none⟩]
  collaborators := []
  origin := "cart"
  source := none

/-- What such a method needs. -/
theorem typesNeed_takingTwo {first second : TypeUse} {i : Import} :
    (takingTwo first second).TypesNeed i ↔ i ∈ first.imports ∨ i ∈ second.imports := by
  simp [TypesNeed, types, takingTwo]

/-- A type of two modules. -/
def itemType : TypeUse := ⟨"Item", [⟨"shop.goods", "Item"⟩, ⟨"typing", "Any"⟩]⟩

/-- Another type of these modules. -/
def priceType : TypeUse := ⟨"Price", [⟨"typing", "Any"⟩, ⟨"shop.goods", "Price"⟩]⟩

/-- The imports of both types are read back from the lines of an interface, and nothing else is read
from the text; they are the same if its values come in the other order. -/
theorem importLines_say_takingTwo :
    (∃ library others, (takingTwo itemType priceType).ImportsAs library others ∧
      (breakLines (takingTwo itemType priceType).moduleText).filterMap readImport? =
        futureImport :: (library ++ others)) ∧
      breakLines (takingTwo itemType priceType).moduleText =
        (takingTwo itemType priceType).moduleLines ++ [""] ∧
      importBlock (takingTwo priceType itemType).imports =
        importBlock (takingTwo itemType priceType).imports := by
  have named : ∀ i, (takingTwo itemType priceType).TypesNeed i →
      isDottedName i.moduleName = true ∧ isIdentifier i.name = true := by
    have all : ∀ i ∈ itemType.imports ++ priceType.imports,
        isDottedName i.moduleName = true ∧ isIdentifier i.name = true := by decide +kernel
    intro i need
    exact all i (List.mem_append.mpr (typesNeed_takingTwo.mp need))
  have header : OneLine (takingTwo itemType priceType).header := by
    rw [header_eq]
    exact oneLine_headerLine (by simp [takingTwo])
  have body : ∀ line ∈ (takingTwo itemType priceType).bodyLines, OneLine line := by
    have lines : (takingTwo itemType priceType).bodyLines = ["class Cart(ABC):",
        indent ++ (takingTwo itemType priceType).documentation, "", "    @abstractmethod",
        "    def put(self, first: Item, second: Price):", "        ..."] := rfl
    have documentation : OneLine (indent ++ (takingTwo itemType priceType).documentation) :=
      .append (by decide) (oneLine_documentation _)
    rw [lines]
    simp only [List.forall_mem_cons]
    exact ⟨by decide, documentation, by decide, by decide, by decide, by decide,
      List.forall_mem_nil _⟩
  obtain ⟨⟨library, others, reads, text⟩, -, lines, canonical⟩ :=
    importLines_say (takingTwo itemType priceType) named
  refine ⟨⟨library, others, reads, ?_⟩, lines (List.forall_mem_cons.mpr ⟨header, body⟩),
    canonical _ rfl fun i => ?_⟩
  · have above : [(takingTwo itemType priceType).header].filterMap readImport? = [] :=
      List.filterMap_cons_none (readImport?_headerLine none)
    have below : (takingTwo itemType priceType).bodyLines.filterMap readImport? = [] :=
      List.filterMap_eq_nil_iff.mpr readImport?_of_mem_bodyLines
    rw [text, header.breakLines_eq, above, flatMap_breakLines body, below, List.nil_append,
      List.append_nil]
  · rw [typesNeed_takingTwo, typesNeed_takingTwo, or_comm]

end Stub

end ProcessStubs
