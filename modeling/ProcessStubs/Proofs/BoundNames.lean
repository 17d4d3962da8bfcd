import ProcessStubs.Proofs.ImportLines

/-!
# What names are bound to

A module binds names: those that it imports, and that of its class. A type is written with the names
of what it needs, and means what it should only if each of these names is bound to what was asked
for. The lines of imports see to the names from one module, which stand on one line, each once.
Nothing sees to one name from two modules, nor to an imported name that the class has as well: the
line that comes last has it.

The types of every service need `Mapping` and `Any`, and that of its runtime, which the settings
choose freely. A class is named after its kind, so it takes neither of the former names; all else is
up to the name that the runtime brings along. The line that is there whatever is imported binds a
name too. As it comes first, it takes no name from a type, but a type can be the second one to bind
this name.

Names are compared in a normal form, and two that are written in different ways can be one name. All
that is asked of this form is that ASCII characters at the end of a text stay as they are and change
nothing before them, as it is with the compatibility composition in which identifiers are compared.

## Main definitions

* `Referent`, `Stub.bindings`: what the lines of a module bind its names to.
* `NormalForm`: how names are compared.
* `Stub.BindsOnce`, `Stub.BindsOnly`, `Stub.Denotes`: the name of an import is bound by one line, to
  nothing but the import, and to the import in the end.

## Main results

* `Stub.bindings_eq`: the bindings of a module are those of its imports and its class.
* `Stub.bindsOnce_iff`, `Stub.bindsOnly_iff`, `Stub.forall_denotes_iff`: when a module binds its
  imports in these ways.
* `Stub.binds_ofProcess`: when a service does, by its runtime.
* `Stub.bindings_of_freeze`: so do the services of frozen settings.
-/

namespace ProcessStubs

open Text

/-! ### Bindings of lines -/

/-- What a name is bound to at the outermost level of a module. -/
inductive Referent where
  /-- What another module has under the name. -/
  | imported (moduleName : String)
  /-- A class of the module itself. -/
  | defined
deriving Repr, DecidableEq

/-- A name, and what it is bound to. -/
abbrev Binding := String × Referent

/-- The names that a line binds, in their order. -/
def lineBindings (line : String) : List Binding :=
  match readImport? line with
  | some (moduleName, wanted) => wanted.map fun name => (name, .imported moduleName)
  | none => ((readClass? line).bind List.head?).toList.map fun name => (name, .defined)

/-- What a line of imports binds. -/
def ImportedNames.bindings (line : ImportedNames) : List Binding :=
  line.2.map fun name => (name, .imported line.1)

/-- A line that can be read back binds what it imports. -/
theorem lineBindings_text {line : ImportedNames} (h : readImport? line.text = some line) :
    lineBindings line.text = line.bindings := by
  rw [lineBindings, h]
  rfl

/-- A line that begins like no import and no class binds nothing. -/
theorem lineBindings_append_eq_nil {first : String}
    (other : first.toList.head?.any (fun c => c != 'f' && c != 'c') = true) (rest : String) :
    lineBindings (first ++ rest) = [] := by
  cases chars : first.toList with
  | nil => simp [chars] at other
  | cons c start =>
      obtain ⟨noImport, noClass⟩ : c ≠ 'f' ∧ c ≠ 'c' := by simpa [chars] using other
      simp [lineBindings, readImport?, readClass?, chars, List.dropPrefix?, noImport, noClass]

/-- The line that opens a class binds its name. -/
theorem lineBindings_class {typeName opening : String} (h : isIdentifier typeName = true)
    (hopening : opening ∈ [":", "(ABC):"]) :
    lineBindings ("class " ++ typeName ++ opening) = [(typeName, .defined)] := by
  have noImport : readImport? ("class " ++ typeName ++ opening) = none := by
    rw [String.append_assoc, Stub.readImport?_class]
  have shown : readClass? ("class " ++ typeName ++ opening) =
      some (placedNames ("class " ++ typeName ++ opening)) := by
    simp [placedNames, readImport?, readClass?, readOperation?, List.dropPrefix?]
  simp only [List.mem_cons, List.not_mem_nil, or_false] at hopening
  rcases hopening with rfl | rfl
  · rw [Stub.placedNames_serviceLine h] at shown
    simp [lineBindings, noImport, shown]
  · rw [Stub.placedNames_interfaceLine h] at shown
    simp [lineBindings, noImport, shown]

/-- A group of lines binds what its lines import. -/
theorem flatMap_lineBindings_groupLines {group : List ImportedNames}
    (h : ∀ line ∈ group, readImport? line.text = some line) :
    (groupLines group).flatMap lineBindings = group.flatMap ImportedNames.bindings := by
  have blank : lineBindings "" = [] := rfl
  rw [groupLines]
  split
  · next empty => rw [List.isEmpty_iff.mp empty, List.flatMap_nil, List.flatMap_nil]
  · rw [List.flatMap_append, List.flatMap_singleton, blank, List.append_nil, List.flatMap_map]
    exact List.flatMap_congr fun line hline => lineBindings_text (h line hline)

/-! ### Bindings of imports -/

/-- What imports bind besides the line that is always there. -/
def importBindings (imports : List Import) : List Binding :=
  (importedFrom imports isLibraryModule ++
    importedFrom imports fun m => !isLibraryModule m).flatMap ImportedNames.bindings

/-- The line that is there whatever is imported binds one name. -/
theorem lineBindings_futureImport :
    lineBindings futureImport.text = [("annotations", .imported "__future__")] := by
  have read : readImport? futureImport.text = some futureImport := by decide +kernel
  rw [lineBindings_text read]
  rfl

/-- **Imports are bound**, and nothing else is. -/
theorem mem_importBindings {imports : List Import} {b : Binding} :
    b ∈ importBindings imports ↔ ∃ i ∈ imports, b = (i.name, .imported i.moduleName) := by
  have lines (p : String → Bool) :
      b ∈ (importedFrom imports p).flatMap ImportedNames.bindings ↔
        ∃ i ∈ imports, p i.moduleName = true ∧ b = (i.name, .imported i.moduleName) := by
    simp only [List.mem_flatMap, ImportedNames.bindings, List.mem_map]
    constructor
    · rintro ⟨line, hline, name, hname, rfl⟩
      exact ⟨⟨line.1, name⟩, (mem_names_iff hline).mp hname, (mem_importedFrom.mp hline).2.1, rfl⟩
    · rintro ⟨i, hi, holds, rfl⟩
      obtain ⟨line, hline, same, hname⟩ := exists_mem_importedFrom.mpr ⟨hi, holds⟩
      exact ⟨line, hline, i.name, hname, by rw [same]⟩
  rw [importBindings, List.flatMap_append, List.mem_append, lines, lines]
  constructor
  · rintro (⟨i, hi, -, rfl⟩ | ⟨i, hi, -, rfl⟩)
    · exact ⟨i, hi, rfl⟩
    · exact ⟨i, hi, rfl⟩
  · rintro ⟨i, hi, rfl⟩
    cases library : isLibraryModule i.moduleName with
    | true => exact .inl ⟨i, hi, library, rfl⟩
    | false => exact .inr ⟨i, hi, by rw [library]; rfl, rfl⟩

/-- Lines bind nothing twice if they are of different modules and repeat no name. -/
theorem nodup_flatMap_bindings {lines : List ImportedNames} (once : (lines.map Prod.fst).Nodup)
    (names : ∀ line ∈ lines, line.2.Nodup) : (lines.flatMap ImportedNames.bindings).Nodup := by
  refine List.nodup_flatMap.mpr ⟨?_, ?_⟩
  · intro line hline
    exact (names line hline).map fun a b same => (Prod.mk.inj same).1
  · refine (List.pairwise_map.mp once).imp ?_
    intro line line' ne b hb hb'
    obtain ⟨name, -, rfl⟩ := List.mem_map.mp hb
    obtain ⟨name', -, same⟩ := List.mem_map.mp hb'
    exact ne (Referent.imported.inj (Prod.mk.inj same).2).symm

/-- **Nothing is imported twice.** -/
theorem nodup_importBindings (imports : List Import) : (importBindings imports).Nodup := by
  refine nodup_flatMap_bindings (nodup_modules_importedFrom imports) ?_
  intro line hline
  rcases List.mem_append.mp hline with hline | hline
  · exact ((rises_importedFrom _ _).names line hline).2.imp String.ne_of_lt
  · exact ((rises_importedFrom _ _).names line hline).2.imp String.ne_of_lt

namespace Stub

variable {s : Stub}

/-! ### Bindings of modules -/

/-- The names that the lines of a module bind, in their order. A name that is bound again denotes
what it is bound to last. -/
def bindings (s : Stub) : List Binding := (breakLines s.moduleText).flatMap lineBindings

/-- **What can be read back**: the lines of a module if none of them is broken, its imports if they
are identifiers from dotted names, and its class if it is named by an identifier. -/
structure Readable (s : Stub) : Prop where
  lines : breakLines s.moduleText = s.moduleLines ++ [""]
  imports : ∀ i ∈ s.imports, isDottedName i.moduleName = true ∧ isIdentifier i.name = true
  type : isIdentifier s.typeName = true

/-- The lines of a type bind its name. -/
theorem flatMap_lineBindings_bodyLines (type : isIdentifier s.typeName = true) :
    s.bodyLines.flatMap lineBindings = [(s.typeName, .defined)] := by
  obtain ⟨opening, inner, lines, hopening, inside⟩ := bodyLines_eq s
  have silent : inner.flatMap lineBindings = [] := by
    refine List.flatMap_eq_nil_iff.mpr fun line hline => ?_
    rcases inside line hline with rfl | ⟨text, rfl⟩
    · rfl
    · exact lineBindings_append_eq_nil (by decide) text
  rw [lines, List.flatMap_cons, lineBindings_class type hopening, silent, List.append_nil]

/-- **What a module binds**: a name that no type uses, then what is imported, then its class. -/
theorem bindings_eq (h : s.Readable) :
    s.bindings = ("annotations", .imported "__future__") ::
      (importBindings s.imports ++ [(s.typeName, .defined)]) := by
  have blank : lineBindings "" = [] := rfl
  have opened (origin : String) : lineBindings ("# Generated by bpmngen 0.1.0" ++ origin ++
      ". Do not edit.") = [] := by
    rw [String.append_assoc]
    exact lineBindings_append_eq_nil (by simp) _
  have header : lineBindings s.header = [] := by
    rw [header_eq]
    exact opened _
  have documentation : lineBindings s.documentation = [] := by
    rw [Stub.documentation, String.append_assoc]
    exact lineBindings_append_eq_nil (by decide) _
  rw [bindings, h.lines]
  simp only [moduleLines, importBlock_eq, List.flatMap_append, List.flatMap_cons, List.flatMap_nil,
    header, documentation, blank, lineBindings_futureImport,
    flatMap_lineBindings_groupLines (readImport?_of_mem_importedFrom h.imports),
    flatMap_lineBindings_bodyLines h.type, importBindings, List.append_nil, List.nil_append,
    List.cons_append, List.append_assoc]

end Stub

/-! ### Names of imports -/

/-- The parts of a module as they are compared. -/
def moduleForm (normal : String → String) (moduleName : String) : List String :=
  (split '.' moduleName).map normal

/-- Something is what a module has. -/
def Referent.IsFrom (normal : String → String) (moduleName : String) : Referent → Prop
  | .imported other => moduleForm normal other = moduleForm normal moduleName
  | .defined => False

namespace Stub

variable {s : Stub} {normal : String → String} {i : Import}

/-- What a module binds a name to, by each line that binds it. -/
def boundTo (s : Stub) (normal : String → String) (name : String) : List Referent :=
  (s.bindings.filter fun b => normal b.1 = normal name).map Prod.snd

/-- The name of an import is bound once, and to this import. -/
def BindsOnce (s : Stub) (normal : String → String) (i : Import) : Prop :=
  s.boundTo normal i.name = [.imported i.moduleName]

/-- The name of an import is bound to something of the module that the import is from by each line
that binds it. -/
def BindsOnly (s : Stub) (normal : String → String) (i : Import) : Prop :=
  ∀ r ∈ s.boundTo normal i.name, r.IsFrom normal i.moduleName

/-- The name of an import denotes something of the module that the import is from: the last line
that binds it does so. -/
def Denotes (s : Stub) (normal : String → String) (i : Import) : Prop :=
  ∃ r, (s.boundTo normal i.name).getLast? = some r ∧ r.IsFrom normal i.moduleName

/-- What a name is bound to by the imports of a stub. -/
def importedAs (s : Stub) (normal : String → String) (name : String) : List Referent :=
  ((importBindings s.imports).filter fun b => normal b.1 = normal name).map Prod.snd

/-- The imports bind a name to what is imported by it. -/
theorem mem_importedAs {name : String} {r : Referent} : r ∈ s.importedAs normal name ↔
    ∃ j ∈ s.imports, normal j.name = normal name ∧ r = .imported j.moduleName := by
  simp only [importedAs, List.mem_map, List.mem_filter, decide_eq_true_eq, mem_importBindings]
  constructor
  · rintro ⟨b, ⟨⟨j, hj, rfl⟩, same⟩, rfl⟩
    exact ⟨j, hj, same, rfl⟩
  · rintro ⟨j, hj, same, rfl⟩
    exact ⟨_, ⟨⟨j, hj, rfl⟩, same⟩, rfl⟩

/-- The imports bind the name of an import once exactly if no other import has this name. -/
theorem importedAs_eq_singleton_iff (hi : i ∈ s.imports) :
    s.importedAs normal i.name = [.imported i.moduleName] ↔
      ∀ j ∈ s.imports, normal j.name = normal i.name → j = i := by
  have here {j : Import} (hj : j ∈ s.imports) (same : normal j.name = normal i.name) :
      (j.name, Referent.imported j.moduleName) ∈
        (importBindings s.imports).filter fun b => normal b.1 = normal i.name :=
    List.mem_filter.mpr ⟨mem_importBindings.mpr ⟨j, hj, rfl⟩, decide_eq_true same⟩
  constructor
  · intro once j hj same
    obtain ⟨b, one, -⟩ := List.map_eq_singleton_iff.mp once
    have first := here hi rfl
    have second := here hj same
    rw [one, List.mem_singleton] at first second
    obtain ⟨name, module⟩ := Prod.mk.inj (second.trans first.symm)
    cases i
    cases j
    cases name
    cases module
    rfl
  · intro alone
    have perm : ((importBindings s.imports).filter fun b => normal b.1 = normal i.name).Perm
        [(i.name, .imported i.moduleName)] := by
      refine (List.perm_ext_iff_of_nodup ((nodup_importBindings _).filter _)
        (List.nodup_singleton _)).mpr fun b => ?_
      rw [List.mem_singleton]
      constructor
      · intro hb
        obtain ⟨bound, same⟩ := List.mem_filter.mp hb
        obtain ⟨j, hj, rfl⟩ := mem_importBindings.mp bound
        rw [alone j hj (of_decide_eq_true same)]
      · rintro rfl
        exact here hi rfl
    rw [importedAs, List.perm_singleton.mp perm]
    rfl

section

variable (readable : s.Readable)

include readable

/-- What a name is bound to: by the line that is always there, by the imports and by the class. -/
theorem boundTo_eq (name : String) : s.boundTo normal name =
    (if normal "annotations" = normal name then [.imported "__future__"] else []) ++
      s.importedAs normal name ++
      if normal s.typeName = normal name then [.defined] else [] := by
  rw [boundTo, bindings_eq readable, List.filter_cons, List.filter_append, List.filter_singleton]
  by_cases first : normal "annotations" = normal name <;>
    by_cases last : normal s.typeName = normal name <;>
      simp [first, last, importedAs]

/-- Something is bound to a name by the line that is always there, by an import or by the class. -/
theorem mem_boundTo {name : String} {r : Referent} : r ∈ s.boundTo normal name ↔
    (normal "annotations" = normal name ∧ r = .imported "__future__") ∨
    (∃ j ∈ s.imports, normal j.name = normal name ∧ r = .imported j.moduleName) ∨
    (normal s.typeName = normal name ∧ r = .defined) := by
  rw [boundTo_eq readable, List.append_assoc, List.mem_append, List.mem_append, mem_importedAs]
  simp only [List.mem_ite_nil_right, List.mem_singleton]

/-- What is imported is bound. -/
theorem imported_mem_boundTo (hi : i ∈ s.imports) :
    .imported i.moduleName ∈ s.boundTo normal i.name :=
  (mem_boundTo readable).mpr (.inr (.inl ⟨i, hi, rfl, rfl⟩))

/-- A name is not bound exactly if nothing has it. -/
theorem boundTo_eq_nil_iff {name : String} : s.boundTo normal name = [] ↔
    normal "annotations" ≠ normal name ∧ (∀ j ∈ s.imports, normal j.name ≠ normal name) ∧
      normal s.typeName ≠ normal name := by
  simp only [List.eq_nil_iff_forall_not_mem, mem_boundTo readable]
  constructor
  · intro none
    refine ⟨fun same => ?_, fun j hj same => ?_, fun same => ?_⟩
    · exact none _ (.inl ⟨same, rfl⟩)
    · exact none _ (.inr (.inl ⟨j, hj, same, rfl⟩))
    · exact none _ (.inr (.inr ⟨same, rfl⟩))
  · rintro ⟨first, others, last⟩ r (⟨same, -⟩ | ⟨j, hj, same, -⟩ | ⟨same, -⟩)
    · exact first same
    · exact others j hj same
    · exact last same

/-- **A name is bound once** exactly if no other import has it, nor the class, and it is not the one
that is bound in any case. -/
theorem bindsOnce_iff (hi : i ∈ s.imports) : s.BindsOnce normal i ↔
    normal i.name ≠ normal "annotations" ∧ normal i.name ≠ normal s.typeName ∧
      ∀ j ∈ s.imports, normal j.name = normal i.name → j = i := by
  have imported : s.importedAs normal i.name = [.imported i.moduleName] ↔ _ :=
    importedAs_eq_singleton_iff hi
  have there : s.importedAs normal i.name ≠ [] :=
    List.ne_nil_of_mem (mem_importedAs.mpr ⟨i, hi, rfl, rfl⟩)
  rw [BindsOnce, boundTo_eq readable, ← imported]
  constructor
  · intro once
    -- Another binding before or after those of the imports would be a second one.
    have first : normal i.name ≠ normal "annotations" := by
      intro same
      rw [if_pos same.symm, List.append_assoc, List.singleton_append, List.cons.injEq] at once
      exact there (List.append_eq_nil_iff.mp once.2).1
    have last : normal i.name ≠ normal s.typeName := by
      intro same
      rw [if_pos same.symm, if_neg (Ne.symm first), List.nil_append] at once
      obtain ⟨none, -⟩ := List.append_eq_singleton_iff.mp once |>.resolve_right fun h => by
        cases h.2
      exact there none
    rw [if_neg (Ne.symm first), if_neg (Ne.symm last), List.nil_append, List.append_nil] at once
    exact ⟨first, last, once⟩
  · rintro ⟨first, last, one⟩
    rw [if_neg (Ne.symm first), if_neg (Ne.symm last), one]
    rfl

/-- **A name is bound to one thing only** exactly if it is not that of the class, and whatever else
binds it is of the same module. -/
theorem bindsOnly_iff : s.BindsOnly normal i ↔
    (normal i.name = normal "annotations" →
      moduleForm normal "__future__" = moduleForm normal i.moduleName) ∧
    normal i.name ≠ normal s.typeName ∧
    ∀ j ∈ s.imports, normal j.name = normal i.name →
      moduleForm normal j.moduleName = moduleForm normal i.moduleName := by
  simp only [BindsOnly, mem_boundTo readable]
  constructor
  · intro only
    refine ⟨fun same => ?_, fun same => ?_, fun j hj same => ?_⟩
    · exact only _ (.inl ⟨same.symm, rfl⟩)
    · exact only _ (.inr (.inr ⟨same.symm, rfl⟩))
    · exact only _ (.inr (.inl ⟨j, hj, same, rfl⟩))
  · rintro ⟨first, last, others⟩ r (⟨same, rfl⟩ | ⟨j, hj, same, rfl⟩ | ⟨same, -⟩)
    · exact first same.symm
    · exact others j hj same
    · exact absurd same.symm last

/-- **All imports are denoted** exactly if none has the name of the class, and those of one name are
of one module. Which of two imports with one name is last does not matter. -/
theorem forall_denotes_iff : (∀ i ∈ s.imports, s.Denotes normal i) ↔
    ∀ i ∈ s.imports, normal i.name ≠ normal s.typeName ∧
      ∀ j ∈ s.imports, normal j.name = normal i.name →
        moduleForm normal j.moduleName = moduleForm normal i.moduleName := by
  constructor
  · intro all i hi
    obtain ⟨r, last, origin⟩ := all i hi
    refine ⟨fun same => ?_, fun j hj same => ?_⟩
    · -- The class comes last.
      rw [boundTo_eq readable, if_pos same.symm, List.getLast?_concat] at last
      cases last
      exact origin
    · -- Both imports are denoted by the same binding.
      obtain ⟨r', last', origin'⟩ := all j hj
      have one : s.boundTo normal j.name = s.boundTo normal i.name := by rw [boundTo, boundTo, same]
      rw [one, last] at last'
      cases last'
      cases r with
      | imported moduleName => exact origin'.symm.trans origin
      | defined => exact origin.elim
  · intro free i hi
    obtain ⟨own, others⟩ := free i hi
    have there : s.importedAs normal i.name ≠ [] :=
      List.ne_nil_of_mem (mem_importedAs.mpr ⟨i, hi, rfl, rfl⟩)
    have last : (s.boundTo normal i.name).getLast? = (s.importedAs normal i.name).getLast? := by
      rw [boundTo_eq readable, if_neg (Ne.symm own), List.append_nil,
        List.getLast?_append_of_ne_nil _ there]
    have imported := List.getLast_mem there
    obtain ⟨j, hj, same, origin⟩ := mem_importedAs.mp imported
    refine ⟨_, last.trans (List.getLast?_eq_some_getLast there), ?_⟩
    rw [origin]
    exact others j hj same

end

end Stub

/-! ### Normal forms -/

/-- Whether a text has ASCII characters only. -/
def isAscii (s : String) : Bool := s.toList.all fun c => c.toNat < 128

/-- A form in which names are compared: it leaves ASCII characters at the end of a text as they are,
and what comes before them is as it would be without them. -/
structure NormalForm (normal : String → String) : Prop where
  empty : normal "" = ""
  append_ascii : ∀ s t, isAscii t = true → normal (s ++ t) = normal s ++ t

namespace NormalForm

variable {normal : String → String}

/-- An ASCII text is its own normal form. -/
theorem ascii (form : NormalForm normal) {t : String} (h : isAscii t = true) : normal t = t := by
  have whole := form.append_ascii "" t h
  rwa [form.empty, String.empty_append] at whole

/-- Names can be compared as they are written. -/
theorem asWritten : NormalForm id := ⟨rfl, fun _ _ _ => rfl⟩

/-- The name of a service is that of nothing that does not end like it. -/
theorem serviceTypeName_ne (form : NormalForm normal) (displayName : String) {t : String}
    (h : t.toList.getLast? ≠ some 'e') : normal (Stub.serviceTypeName displayName) ≠ t := by
  rintro rfl
  refine h ?_
  rw [Stub.serviceTypeName, form.append_ascii _ _ (by decide), String.toList_append]
  exact List.getLast?_append_of_ne_nil _ (by decide)

end NormalForm

/-! ### Services -/

/-- What a runtime is imported by. -/
def RuntimeReference.toImport (runtime : RuntimeReference) : Import :=
  ⟨runtime.moduleName, runtime.typeName⟩

namespace Stub

variable {normal : String → String} {runtime : RuntimeReference}

/-- The names in the types of a stub. -/
def annotationNames (s : Stub) : List String := s.types.flatMap fun t => names t.expression.toList

/-- The name of the type of a runtime is neither that of the class, nor that of something which is
imported from another module. -/
@[mk_iff apart_iff]
structure Apart (normal : String → String) (runtime : RuntimeReference) (u : Stub) : Prop where
  ofClass : normal runtime.typeName ≠ normal u.typeName
  ofTypes : ∀ i ∈ variablesType.imports, normal runtime.typeName = i.name →
    moduleForm normal runtime.moduleName = moduleForm normal i.moduleName

/-- **What a service binds the names of its types to**, by its runtime. -/
structure Binds (normal : String → String) (runtime : RuntimeReference) (u : Stub) : Prop where
  /-- The types need two imports in any case, and that of the runtime. -/
  needs : ∀ i, u.TypesNeed i ↔ i ∈ variablesType.imports ∨ i = runtime.toImport
  /-- The types are written with the names of these imports, and one that is not imported. -/
  annotations : ∀ n, n ∈ u.annotationNames ↔ n = "str" ∨ ∃ i, u.TypesNeed i ∧ i.name = n
  /-- When each name is bound once. -/
  once : (∀ i, u.TypesNeed i → u.BindsOnce normal i) ↔
    normal runtime.typeName ≠ "annotations" ∧ normal runtime.typeName ≠ normal u.typeName ∧
      ∀ i ∈ variablesType.imports, normal runtime.typeName = i.name → runtime.toImport = i
  /-- When no name is bound to anything else. -/
  only : (∀ i, u.TypesNeed i → u.BindsOnly normal i) ↔
    (normal runtime.typeName = "annotations" →
      moduleForm normal "__future__" = moduleForm normal runtime.moduleName) ∧
    Apart normal runtime u
  /-- When each name denotes what is imported by it. -/
  denotes : (∀ i, u.TypesNeed i → u.Denotes normal i) ↔ Apart normal runtime u
  /-- When the name that is not imported is free. -/
  free : u.boundTo normal "str" = [] ↔ normal runtime.typeName ≠ "str"

/-- The imports that every service needs have names in normal form. -/
theorem normal_name_of_mem_variablesType (form : NormalForm normal) {i : Import}
    (hi : i ∈ variablesType.imports) : normal i.name = i.name := by
  have ascii : ∀ i ∈ variablesType.imports, isAscii i.name = true := by decide
  exact form.ascii (ascii i hi)

section

variable {u : Stub} (form : NormalForm normal)
  (wanted : ∀ i, i ∈ u.imports ↔ i ∈ variablesType.imports ∨ i = runtime.toImport)

include form wanted

/-- Only the runtime can bring an import with the name that is bound in any case. -/
theorem forall_eq_annotations_iff (P : Import → Prop) :
    (∀ i ∈ u.imports, normal i.name = normal "annotations" → P i) ↔
      (normal runtime.typeName = "annotations" → P runtime.toImport) := by
  have always : normal "annotations" = "annotations" := form.ascii (by decide)
  have other : ∀ i ∈ variablesType.imports, i.name ≠ "annotations" := by decide
  rw [always]
  constructor
  · exact fun all => all _ ((wanted _).mpr (.inr rfl))
  · intro h i hi same
    rcases (wanted i).mp hi with fixed | rfl
    · rw [normal_name_of_mem_variablesType form fixed] at same
      exact absurd same (other i fixed)
    · exact h same

/-- Only the runtime can bind the name of the type that is not imported. -/
theorem boundTo_str_eq_nil_iff (readable : u.Readable) (own : normal u.typeName ≠ "str") :
    u.boundTo normal "str" = [] ↔ normal runtime.typeName ≠ "str" := by
  have builtin : normal "str" = "str" := form.ascii (by decide)
  have always : normal "annotations" ≠ "str" := by
    rw [form.ascii (by decide)]
    decide
  have other : ∀ i ∈ variablesType.imports, i.name ≠ "str" := by decide
  rw [boundTo_eq_nil_iff readable, builtin]
  constructor
  · rintro ⟨-, imported, -⟩
    exact imported _ ((wanted _).mpr (.inr rfl))
  · intro free
    refine ⟨always, fun j hj => ?_, own⟩
    rcases (wanted j).mp hj with hj | rfl
    · rw [normal_name_of_mem_variablesType form hj]
      exact other j hj
    · exact free

variable (own : ∀ i ∈ variablesType.imports, normal u.typeName ≠ i.name)

include own

/-- Only the runtime can bring an import with the name of the class, or two imports with one name
that are not the same, in whichever sense. -/
theorem forall_same_iff (Same : Import → Import → Prop) (refl : ∀ i, Same i i)
    (symm : ∀ i j, Same i j → Same j i) :
    (∀ i ∈ u.imports, normal i.name ≠ normal u.typeName ∧
      ∀ j ∈ u.imports, normal j.name = normal i.name → Same j i) ↔
    normal runtime.typeName ≠ normal u.typeName ∧
      ∀ i ∈ variablesType.imports, normal runtime.typeName = i.name → Same runtime.toImport i := by
  have distinct : ∀ i ∈ variablesType.imports, ∀ j ∈ variablesType.imports,
      j.name = i.name → j = i := by decide
  have formed := fun i => normal_name_of_mem_variablesType form (i := i)
  have mem : runtime.toImport ∈ u.imports := (wanted _).mpr (.inr rfl)
  constructor
  · intro all
    refine ⟨(all _ mem).1, fun i hi same => ?_⟩
    refine (all i ((wanted i).mpr (.inl hi))).2 _ mem ?_
    rw [formed i hi, ← same]
    rfl
  · rintro ⟨ofClass, ofTypes⟩ i hi
    rcases (wanted i).mp hi with hi | rfl
    · rw [formed i hi]
      refine ⟨(own i hi).symm, fun j hj same => ?_⟩
      rcases (wanted j).mp hj with hj | rfl
      · rw [formed j hj] at same
        exact distinct i hi j hj same ▸ refl j
      · exact ofTypes i hi same
    · refine ⟨ofClass, fun j hj same => ?_⟩
      rcases (wanted j).mp hj with hj | rfl
      · rw [formed j hj] at same
        exact symm _ _ (ofTypes j hj same.symm)
      · exact refl _

variable (readable : u.Readable)

include readable

/-- The imports of a service are bound once exactly if its runtime takes no name that is bound. -/
theorem forall_bindsOnce_iff : (∀ i ∈ u.imports, u.BindsOnce normal i) ↔
    normal runtime.typeName ≠ "annotations" ∧ normal runtime.typeName ≠ normal u.typeName ∧
      ∀ i ∈ variablesType.imports, normal runtime.typeName = i.name → runtime.toImport = i := by
  have always := forall_eq_annotations_iff form wanted fun _ => False
  have same := forall_same_iff form wanted own Eq (fun _ => rfl) fun _ _ => Eq.symm
  have each : (∀ i ∈ u.imports, u.BindsOnce normal i) ↔ _ :=
    forall₂_congr fun i hi => bindsOnce_iff readable hi
  rw [each, forall₂_and]
  exact and_congr always same

/-- They are bound to nothing else exactly if it takes no such name from another module. -/
theorem forall_bindsOnly_iff : (∀ i ∈ u.imports, u.BindsOnly normal i) ↔
    (normal runtime.typeName = "annotations" →
      moduleForm normal "__future__" = moduleForm normal runtime.moduleName) ∧
    Apart normal runtime u := by
  have always := forall_eq_annotations_iff form wanted
    fun i => moduleForm normal "__future__" = moduleForm normal i.moduleName
  have same := forall_same_iff form wanted own
    (fun i j => moduleForm normal i.moduleName = moduleForm normal j.moduleName)
    (fun _ => rfl) fun _ _ => Eq.symm
  have each : (∀ i ∈ u.imports, u.BindsOnly normal i) ↔ _ :=
    forall₂_congr fun i _ => bindsOnly_iff readable
  rw [each, forall₂_and, apart_iff]
  exact and_congr always same

/-- They denote what is imported exactly if it takes none from another module that a type uses. -/
theorem forall_denotes_iff_apart :
    (∀ i ∈ u.imports, u.Denotes normal i) ↔ Apart normal runtime u := by
  rw [forall_denotes_iff readable, apart_iff]
  exact forall_same_iff form wanted own
    (fun i j => moduleForm normal i.moduleName = moduleForm normal j.moduleName)
    (fun _ => rfl) fun _ _ => Eq.symm

end

/-- The names in the types of a service are those of its imports, and one more. -/
theorem mem_annotationNames_ofProcess (h : isIdentifier runtime.typeName = true) (package : String)
    (source : Option Path) (id displayName : String) (n : String) :
    n ∈ (ofProcess package runtime source id displayName).annotationNames ↔
      n = "str" ∨ ∃ i ∈ (ofProcess package runtime source id displayName).imports, i.name = n := by
  have parameter : names "Mapping[str, Any]".toList = ["Mapping", "str", "Any"] := by decide
  have result : names "str".toList = ["str"] := by decide
  have types : (ofProcess package runtime source id displayName).types =
      [variablesType, ⟨"str", []⟩, ⟨runtime.typeName, [runtime.toImport]⟩] := rfl
  have shown : (ofProcess package runtime source id displayName).annotationNames =
      ["Mapping", "str", "Any", "str", runtime.typeName] := by
    simp only [annotationNames, types, variablesType, List.flatMap_cons, List.flatMap_nil,
      parameter, result, names_of_isIdentifier h, List.cons_append, List.nil_append]
  have imports : (ofProcess package runtime source id displayName).imports =
      [⟨"collections.abc", "Mapping"⟩, ⟨"typing", "Any"⟩, runtime.toImport] := rfl
  rw [shown, imports]
  simp only [List.mem_cons, List.not_mem_nil, or_false, RuntimeReference.toImport]
  grind

section

variable {reference : String} (hr : runtimeOf reference = .ok runtime) {package : String}
  {source : Option Path} (hs : ∀ p ∈ source, OneLine p.name) {id displayName : String}
  (accepted : (ofProcess package runtime source id displayName).unusableName? = none)

include hr hs accepted

/-- The module of a service that can be written can be read back. -/
theorem readable_ofProcess : (ofProcess package runtime source id displayName).Readable where
  lines := by rw [breakLines_service hr hs accepted, moduleLines_ofProcess]
  imports := by
    obtain ⟨module, name⟩ := valid_of_runtimeOf hr
    have imports : (ofProcess package runtime source id displayName).imports =
        variablesType.imports ++ [runtime.toImport] := rfl
    have fixed : ∀ i ∈ variablesType.imports,
        isDottedName i.moduleName = true ∧ isIdentifier i.name = true := by decide +kernel
    rw [imports, List.forall_mem_append, List.forall_mem_singleton]
    exact ⟨fixed, isDottedName_of_isPackageName module, name⟩
  type := isIdentifier_of_isUsableName (isUsableName_of_unusableName?_eq_none accepted)

/-- **What the service for a process binds.** -/
theorem binds_ofProcess (form : NormalForm normal) :
    (ofProcess package runtime source id displayName).Binds normal runtime := by
  have name := (valid_of_runtimeOf hr).2
  have readable := readable_ofProcess hr hs accepted
  have annotations := mem_annotationNames_ofProcess name package source id displayName
  have imports : (ofProcess package runtime source id displayName).imports =
      variablesType.imports ++ [runtime.toImport] := rfl
  have needs (i : Import) : (ofProcess package runtime source id displayName).TypesNeed i ↔
      i ∈ (ofProcess package runtime source id displayName).imports := mem_typeImports.symm
  have ends : ∀ t ∈ "str" :: variablesType.imports.map Import.name,
      t.toList.getLast? ≠ some 'e' := by decide
  have own : ∀ t ∈ "str" :: variablesType.imports.map Import.name,
      normal (ofProcess package runtime source id displayName).typeName ≠ t :=
    fun t ht => form.serviceTypeName_ne displayName (ends t ht)
  -- From here on it is of no interest which process the service is for.
  generalize ofProcess package runtime source id displayName = u at *
  have wanted (i : Import) : i ∈ u.imports ↔ i ∈ variablesType.imports ∨ i = runtime.toImport := by
    rw [imports, List.mem_append, List.mem_singleton]
  obtain ⟨builtin, fixed⟩ := List.forall_mem_cons.mp own
  rw [List.forall_mem_map] at fixed
  constructor
  · exact fun i => (needs i).trans (wanted i)
  · simpa only [needs] using annotations
  · simpa only [needs] using forall_bindsOnce_iff form wanted fixed readable
  · simpa only [needs] using forall_bindsOnly_iff form wanted fixed readable
  · simpa only [needs] using forall_denotes_iff_apart form wanted fixed readable
  · exact boundTo_str_eq_nil_iff form wanted readable builtin

end

/-- **What the services of frozen settings bind.** The settings have a runtime, and every service
that can be written, for whichever process of a source whose name is of one line, binds the names of
its types as the runtime lets it: each of them once, exactly if the type of the runtime takes no
name that is bound otherwise, and each of them to what it should denote, exactly if this type takes
no name of another module that a type uses, and not that of the class. So do the services among the
stubs of every document. -/
theorem bindings_of_freeze {draft : Draft} {tree : FileTree} {s : Settings}
    (frozen : draft.freeze tree = .ok s) (form : NormalForm normal) :
    ∃ runtime, runtimeOf s.runtimeService = .ok runtime ∧
      (∀ source id displayName, (∀ p ∈ source, OneLine p.name) →
        (ofProcess s.packageName runtime source id displayName).unusableName? = none →
          (ofProcess s.packageName runtime source id displayName).Binds normal runtime) ∧
      ∀ document, (∀ p ∈ document.source, OneLine p.name) →
        ∃ stubs, s.stubsOf document = .ok stubs ∧
          ∀ u ∈ stubs, u.kind = .service → u.unusableName? = none → u.Binds normal runtime := by
  obtain ⟨-, runtime, hr⟩ := Draft.freeze_ok frozen
  refine ⟨runtime, hr, fun _ _ _ hs accepted => binds_ofProcess hr hs accepted form, ?_⟩
  intro document hs
  refine ⟨_, Settings.stubsOf_eq hr document, fun u hu service accepted => ?_⟩
  obtain ⟨p, -, hu⟩ := List.mem_flatMap.mp hu
  rcases List.mem_cons.mp hu with rfl | hu
  · exact binds_ofProcess hr hs accepted form
  · obtain ⟨call, -, rfl⟩ := List.mem_map.mp hu
    cases service

/-- In the standard settings the service of a document binds all names of its types once, to what
they should denote. -/
theorem bindings_of_freeze_standard :
    Draft.empty.freeze ⟨[], []⟩ = .ok Settings.standard ∧ NormalForm id ∧
      ∃ stubs, Settings.standard.stubsOf plainDocument = .ok stubs ∧
        ∃ u ∈ stubs, u.kind = .service ∧ u.unusableName? = none ∧
          (∀ i, u.TypesNeed i → u.BindsOnce id i) ∧ (∀ i, u.TypesNeed i → u.Denotes id i) ∧
          u.boundTo id "str" = [] := by
  obtain ⟨runtime, hr, -, documents⟩ := bindings_of_freeze Draft.freeze_empty NormalForm.asWritten
  rw [Settings.runtimeOf_standard] at hr
  cases hr
  obtain ⟨stubs, found, binds⟩ := documents plainDocument (by simp [plainDocument])
  cases (stubsOf_plainDocument Settings.runtimeOf_standard).symm.trans found
  have accepted := unusableName?_ofProcess_letter Settings.standard.packageName
    ⟨"bpmngen.runtime", "RuntimeService"⟩ none "A"
  have shown := binds _ List.mem_cons_self rfl accepted
  have other : "RuntimeService" ≠ serviceTypeName "A" := by decide
  have types : ∀ i ∈ variablesType.imports, "RuntimeService" ≠ i.name := by decide
  refine ⟨Draft.freeze_empty, NormalForm.asWritten, _, found, _, List.mem_cons_self, rfl, accepted,
    ?_, ?_, shown.free.mpr (by decide)⟩
  · exact shown.once.mpr ⟨by decide, other, fun i hi same => absurd same (types i hi)⟩
  · exact shown.denotes.mpr ⟨other, fun i hi same => absurd same (types i hi)⟩

/-- A draft whose runtime has a type with the name of another one. -/
def mappingDraft : Draft := { Draft.empty with runtimeService := some "app:Mapping" }

/-- **A name is taken**: the draft can be frozen, and the service of a document can be written. It
binds `Mapping` to what two modules have under this name, though its types need both, so not each of
them is bound once, and not each of them denotes what it should. -/
theorem not_denotes_mapping :
    ∃ s, mappingDraft.freeze ⟨[], []⟩ = .ok s ∧
      ∃ stubs, s.stubsOf plainDocument = .ok stubs ∧
        ∃ u ∈ stubs, u.kind = .service ∧ u.unusableName? = none ∧
          .imported "collections.abc" ∈ u.boundTo id "Mapping" ∧
          .imported "app" ∈ u.boundTo id "Mapping" ∧
          (¬ ∀ i, u.TypesNeed i → u.BindsOnce id i) ∧ ¬ ∀ i, u.TypesNeed i → u.Denotes id i := by
  have hr : runtimeOf "app:Mapping" = .ok ⟨"app", "Mapping"⟩ := rfl
  have frozen : mappingDraft.freeze ⟨[], []⟩ = .ok (mappingDraft.settings ⟨[], []⟩) := by
    obtain ⟨package, -⟩ := Draft.freeze_ok Draft.freeze_empty
    exact Draft.freeze_eq_ok_iff.mpr ⟨package, ⟨_, hr⟩, rfl, rfl⟩
  have found := stubsOf_plainDocument (s := mappingDraft.settings ⟨[], []⟩) hr
  have accepted := unusableName?_ofProcess_letter (mappingDraft.settings ⟨[], []⟩).packageName
    ⟨"app", "Mapping"⟩ none "A"
  have readable := readable_ofProcess hr (by simp) accepted
  have shown := binds_ofProcess hr (by simp) accepted NormalForm.asWritten
  have library : (⟨"collections.abc", "Mapping"⟩ : Import) ∈ variablesType.imports := by decide
  have modules : moduleForm id "app" ≠ moduleForm id "collections.abc" := by decide
  refine ⟨_, frozen, _, found, _, List.mem_cons_self, rfl, accepted, ?_, ?_, ?_, ?_⟩
  · have needed := mem_imports.mpr (.inl ((shown.needs _).mpr (.inl library)))
    have bound : _ ∈ boundTo _ id _ := imported_mem_boundTo readable needed
    exact bound
  · have needed := mem_imports.mpr (.inl ((shown.needs _).mpr (.inr rfl)))
    have bound : _ ∈ boundTo _ id _ := imported_mem_boundTo readable needed
    exact bound
  · rw [shown.once]
    exact fun ⟨_, _, types⟩ => absurd (types _ library rfl) (by decide)
  · rw [shown.denotes]
    exact fun apart => modules (apart.ofTypes _ library rfl)

end Stub

end ProcessStubs
