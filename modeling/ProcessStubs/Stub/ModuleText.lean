import ProcessStubs.Stub.Basic
import ProcessStubs.Stub.LibraryModules
import ProcessStubs.Text.Order
import ProcessStubs.Text.Quoted

/-!
# The text of a module

How a stub is written as a module. The text depends on the stub alone: imports are grouped and
sorted, so the same stub always gives the same text.
-/

namespace ProcessStubs

open Text

/-- The version that generated modules name. -/
def version : String := "0.1.0"

/-- Whether a module belongs to the standard library. -/
def isLibraryModule (moduleName : String) : Bool :=
  libraryModules.contains ((split '.' moduleName).headD "")

/-- The line that imports all names wanted from one module. -/
def importLine (imports : List Import) (moduleName : String) : String :=
  let names := (imports.filter (·.moduleName == moduleName)).map Import.name
  "from " ++ moduleName ++ " import " ++ joinWith ", " (distinctSorted names)

/-- A group of import lines and the blank line after it, or nothing. -/
def importGroup (imports : List Import) (modules : List String) : List String :=
  if modules.isEmpty then [] else modules.map (importLine imports) ++ [""]

/-- The lines of the imports: deferred evaluation of annotations, then the standard library, then
all other modules, each group sorted by module and followed by a blank line. -/
def importBlock (imports : List Import) : List String :=
  let modules := distinctSorted (imports.map Import.moduleName)
  ["from __future__ import annotations", ""] ++
    importGroup imports (modules.filter isLibraryModule) ++
    importGroup imports (modules.filter fun m => !isLibraryModule m)

namespace Stub

/-- One level of indentation. -/
def indent : String := "    "

/-- All imports that the types of a stub need. -/
def typeImports (s : Stub) : List Import :=
  s.operations.flatMap (fun o =>
    o.parameters.flatMap (·.type.imports) ++ (o.returns.map TypeUse.imports).getD []) ++
  s.collaborators.flatMap (·.type.imports)

/-- The imports of a module: those of the types, and for an interface what makes it abstract. -/
def imports (s : Stub) : List Import :=
  match s.kind with
  | .service => s.typeImports
  | .interface => s.typeImports ++ [⟨"abc", "ABC"⟩, ⟨"abc", "abstractmethod"⟩]

/-- A text in quotes for use inside of a documentation text: every double quote is preceded by a
backslash. -/
def quotedInDocumentation (s : String) : String :=
  String.ofList ((quotedChars s.toList).flatMap fun c => if c = '"' then ['\\', '"'] else [c])

/-- What the documentation says a stub is for. -/
def summary (s : Stub) : String :=
  match s.kind with
  | .service => "Start instances of process " ++ quotedInDocumentation s.origin ++ "."
  | .interface =>
    "Contract of bean " ++ quotedInDocumentation s.origin ++ " called by service tasks."

/-- The documentation text in its quotes. -/
def documentation (s : Stub) : String := "\"\"\"" ++ s.summary ++ "\"\"\""

/-- The first line of a module. -/
def header (s : Stub) : String :=
  "# Generated by bpmngen " ++ version ++
    (match s.source with
      | some p => " from " ++ p.name
      | none => "") ++
    ". Do not edit."

/-- How an argument is written. -/
def argumentText : Argument → String
  | .literal value => quoted value
  | .parameter name => name

/-- How an invocation is written. -/
def callText (i : Invocation) : String :=
  "self." ++ i.collaborator ++ "." ++ i.method ++ "(" ++
    joinWith ", " (i.arguments.map argumentText) ++ ")" ++
    (match i.resultAttribute with
      | some a => if a = "" then "" else "." ++ a
      | none => "")

/-- How a name is written with its type. -/
def annotated (name : String) (type : TypeUse) : String := name ++ ": " ++ type.expression

/-- The first line of an operation. -/
def signature (o : Operation) : String :=
  "def " ++ o.name ++ "(" ++
    joinWith ", " ("self" :: o.parameters.map fun p => annotated p.name p.type) ++ ")" ++
    (match o.returns with
      | some t => " -> " ++ t.expression
      | none => "") ++
    ":"

/-- The lines of the constructor that stores the collaborators. -/
def constructorLines (s : Stub) : List String :=
  if s.collaborators.isEmpty then []
  else
    [indent ++ "def __init__(self, " ++
      joinWith ", " (s.collaborators.map fun c => annotated c.slot c.type) ++ ") -> None:"] ++
    s.collaborators.map (fun c =>
      indent ++ indent ++ "self." ++ c.slot ++ " = " ++ c.slot) ++
    [""]

/-- The lines of an operation of a service. -/
def serviceOperationLines (o : Operation) : List String := [
  indent ++ signature o,
  indent ++ indent ++
    (match o.invocation with
      | some i => "return " ++ callText i
      | none => "raise NotImplementedError"),
  ""]

/-- The lines of an operation of an interface. -/
def interfaceOperationLines (o : Operation) : List String := [
  indent ++ "@abstractmethod",
  indent ++ signature o,
  indent ++ indent ++ "...",
  ""]

/-- The lines of the type, without the blank line at their end. -/
def bodyLines (s : Stub) : List String :=
  let lines :=
    match s.kind with
    | .service =>
      ["class " ++ s.typeName ++ ":", indent ++ s.documentation, ""] ++ s.constructorLines ++
        s.operations.flatMap serviceOperationLines
    | .interface =>
      ["class " ++ s.typeName ++ "(ABC):", indent ++ s.documentation, ""] ++
        s.operations.flatMap interfaceOperationLines
  lines.dropLast

/-- The lines of the module of a stub. -/
def moduleLines (s : Stub) : List String :=
  [s.header, s.documentation, ""] ++ importBlock s.imports ++ [""] ++ s.bodyLines

/-- The text of the module of a stub. -/
def moduleText (s : Stub) : String := joinWith "\n" s.moduleLines ++ "\n"

end Stub

end ProcessStubs
