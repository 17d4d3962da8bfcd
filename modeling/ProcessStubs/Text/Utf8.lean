import ProcessStubs.Text.Quoted

/-!
# Bytes of texts

Texts are kept as bytes in UTF-8. Bytes that are no text are refused with the place where they stop
being one: the first byte that begins no character, or the bytes that begin a character which is not
completed.

Main statement: reading the bytes of a text gives the text (`decode_toUTF8`).
-/

namespace ProcessStubs.Text

/-- Why bytes are no text. -/
inductive Utf8Problem where
  | invalidStart
  | invalidContinuation
  | unexpectedEnd
deriving Repr, DecidableEq

/-- The wording of a problem. -/
def Utf8Problem.text : Utf8Problem → String
  | invalidStart => "invalid start byte"
  | invalidContinuation => "invalid continuation byte"
  | unexpectedEnd => "unexpected end of data"

/-- A run of bytes that is no text: its first byte, where it stands, how many bytes it has, and what
is wrong with it. -/
structure Utf8Fault where
  byte : UInt8
  position : Nat
  width : Nat
  problem : Utf8Problem
deriving Repr, DecidableEq

/-- The wording of a fault. A single byte is shown, several are counted. -/
def Utf8Fault.message (f : Utf8Fault) : String :=
  (if f.width = 1 then
    "'utf-8' codec can't decode byte 0x" ++ String.ofList (hexDigits 2 f.byte.toNat) ++
      " in position " ++ toString f.position
  else
    "'utf-8' codec can't decode bytes in position " ++ toString f.position ++ "-" ++
      toString (f.position + f.width - 1)) ++
  ": " ++ f.problem.text

/-- The number of bytes of the character that a byte begins and the range its second byte is in, if
the byte begins a character. -/
def leadByte? (b : UInt8) : Option (Nat × UInt8 × UInt8) :=
  if b < 0x80 then some (1, 0, 0)
  else if b < 0xC2 then none
  else if b < 0xE0 then some (2, 0x80, 0xBF)
  else if b = 0xE0 then some (3, 0xA0, 0xBF)
  else if b = 0xED then some (3, 0x80, 0x9F)
  else if b < 0xF0 then some (3, 0x80, 0xBF)
  else if b = 0xF0 then some (4, 0x90, 0xBF)
  else if b < 0xF4 then some (4, 0x80, 0xBF)
  else if b = 0xF4 then some (4, 0x80, 0x8F)
  else none

/-- Whether a byte continues a character. -/
def isContinuation (b : UInt8) : Bool := 0x80 ≤ b && b ≤ 0xBF

/-- What is wrong with the bytes that begin a character of `size` bytes, if it is not completed, and
how many of them are taken. -/
def characterFault? (size : Nat) (low high : UInt8) (rest : List UInt8) :
    Option (Nat × Utf8Problem) :=
  let valid := (match rest with
    | [] => []
    | b :: more =>
      if low ≤ b && b ≤ high then b :: (more.take (size - 2)).takeWhile isContinuation else [])
  if valid.length + 1 ≥ size then none
  else if valid.length = rest.length then some (valid.length + 1, .unexpectedEnd)
  else some (valid.length + 1, .invalidContinuation)

/-- The first fault of bytes, `position` bytes from the start. -/
def firstFault? (position : Nat) (bytes : List UInt8) : Option Utf8Fault :=
  match bytes with
  | [] => none
  | b :: rest =>
    match leadByte? b with
    | none => some ⟨b, position, 1, .invalidStart⟩
    | some (size, low, high) =>
      match characterFault? size low high rest with
      | some (width, problem) => some ⟨b, position, width, problem⟩
      | none => firstFault? (position + (1 + (size - 1))) (rest.drop (size - 1))
termination_by bytes.length
decreasing_by simp only [List.length_cons, List.length_drop]; omega

/-- The text that bytes hold. -/
def decodeUtf8 (bytes : ByteArray) : Except Utf8Fault String :=
  if h : bytes.IsValidUTF8 then .ok (String.fromUTF8 bytes h)
  else .error ((firstFault? 0 bytes.toList).getD ⟨0, 0, 1, .invalidStart⟩)

/-- The bytes of a text hold the text. -/
theorem decode_toUTF8 (s : String) : decodeUtf8 s.toUTF8 = .ok s := by
  simp [decodeUtf8, s.isValidUTF8, String.fromUTF8]

end ProcessStubs.Text
