import ProcessStubs.Document.OfElement
import ProcessStubs.FileTree.Basic
import ProcessStubs.Markup.Reader

/-!
# Reading documents

A document is read from the bytes of a file: the bytes give a tree of elements, and the tree the
document.
-/

namespace ProcessStubs

/-- Why a document cannot be read: its file cannot, it is not well-formed, or its elements are no
process document. -/
inductive DocumentFault where
  | unreadable (fault : FileFault)
  | markup (fault : Markup.Fault)
  | structure (fault : StructureFault)
deriving Repr, DecidableEq

/-- The wording of a fault. -/
def DocumentFault.message : DocumentFault → String
  | unreadable fault => "Cannot read file: " ++ fault.message
  | markup fault => fault.message
  | .structure fault => fault.message

/-- The mistake that nothing can be at the path of a document, if the fault is that. -/
def DocumentFault.mistake? : DocumentFault → Option FileFault
  | unreadable fault => if fault.isMistake then some fault else none
  | _ => none

/-- How it is said that the document from a source cannot be read. -/
def parseFailure (source : Option Path) (reason : String) : String :=
  ((source.map fun p => p.toString ++ ": ").getD "") ++ reason

/-- Why there is no document, and the source it should have come from. -/
structure DocumentError where
  source : Option Path
  fault : DocumentFault
deriving Repr, DecidableEq

/-- How it is said that there is no document. -/
def DocumentError.message (e : DocumentError) : String := parseFailure e.source e.fault.message

namespace ProcessDocument

/-- The document that the tree from a source declares, if there is a tree. -/
def ofTree (source : Option Path) (tree : Except Markup.Fault Markup.Element) :
    Except DocumentError ProcessDocument :=
  match tree with
  | .error f => .error ⟨source, .markup f⟩
  | .ok root => (ofElement source root).mapError fun f => ⟨source, .structure f⟩

/-- The document that the bytes from a source hold. -/
def parse (source : Option Path) (bytes : ByteArray) : Except DocumentError ProcessDocument :=
  ofTree source (Markup.readDocument bytes.toList)

/-- The document that bytes hold. -/
def ofBytes (source : Option Path) (bytes : ByteArray) : Except DocumentFault ProcessDocument :=
  match Markup.readDocument bytes.toList with
  | .error f => .error (.markup f)
  | .ok root => (ofElement source root).mapError .structure

/-- The document in a file. -/
def ofFile (t : FileTree) (p : Path) : Except DocumentFault ProcessDocument :=
  match t.read p with
  | .error f => .error (.unreadable f)
  | .ok bytes => ofBytes (some p) bytes

/-- What a document holds is no matter of where it is from. -/
theorem ofBytes_withSource (source : Option Path) (bytes : ByteArray) :
    ofBytes source bytes = (ofBytes none bytes).map ({ · with source := source }) := by
  rw [ofBytes, ofBytes]
  cases Markup.readDocument bytes.toList with
  | error f => rfl
  | ok root =>
      dsimp only
      rw [ofElement, ofElement]
      split
      · rfl
      · cases (root.childrenNamed (modelName "process")).mapM Process.ofElement <;> rfl

/-- A document that is read from no path is read from every path. -/
theorem ofBytes_of_toOption {bytes : ByteArray} {document : ProcessDocument}
    (read : (ofBytes none bytes).toOption = some document) (source : Path) :
    ofBytes (some source) bytes = .ok { document with source := some source } := by
  rw [ofBytes_withSource]
  cases h : ofBytes none bytes with
  | error f =>
      rw [h] at read
      cases read
  | ok d =>
      rw [h] at read
      cases read
      rfl

end ProcessDocument

end ProcessStubs
