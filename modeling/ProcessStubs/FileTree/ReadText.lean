import ProcessStubs.FileTree.Basic
import ProcessStubs.Text.Lines
import ProcessStubs.Text.Utf8

/-!
# Reading texts

The text of a file is what its bytes hold, with every line end as a line feed.
-/

namespace ProcessStubs

open Text

/-- Why there is no text to be read: the file cannot be used, or its bytes are no text. -/
inductive TextFault where
  | unusable (fault : FileFault)
  | notText (fault : Utf8Fault)
deriving Repr, DecidableEq

/-- The wording of a fault. -/
def TextFault.message : TextFault → String
  | unusable fault => fault.message
  | notText fault => fault.message

/-- The text that bytes hold. -/
def textOfBytes (bytes : ByteArray) : Except TextFault String :=
  match decodeUtf8 bytes with
  | .ok s => .ok (String.ofList (unifyLineEnds s.toList))
  | .error f => .error (.notText f)

namespace FileTree

/-- The text of the file a path leads to. -/
def readText (t : FileTree) (p : Path) : Except TextFault String := do
  textOfBytes (← (t.read p).mapError .unusable)

/-- The text of the file a path leads to, if it leads to a file. -/
def text? (t : FileTree) (p : Path) : Except TextFault (Option String) := do
  if ← (t.isFile p).mapError .unusable then return some (← t.readText p)
  else return none

end FileTree

/-- The bytes of a text without carriage returns hold the text. -/
theorem textOfBytes_toUTF8 {s : String} (h : '\r' ∉ s.toList) : textOfBytes s.toUTF8 = .ok s := by
  rw [textOfBytes, decode_toUTF8]
  simp [unifyLineEnds_eq_self h]

end ProcessStubs
