import ProcessStubs.Markup.CodePage
import ProcessStubs.Markup.Symbol

/-!
# Encodings of documents

How the bytes of a document become symbols. The reader knows UTF-8, UTF-16 in both byte orders,
ISO 8859-1 and ASCII by itself and takes other single-byte encodings from the code pages. The first
bytes of a document decide how its declaration is read; the declaration may name another encoding.
-/

namespace ProcessStubs.Markup

/-- A way to read bytes as characters.

* `page upper gaps`: single bytes, ASCII below `0x80` less the characters in `gaps`, and
  `upper` from `0x80` on, where U+FFFD marks a byte without a meaning. -/
inductive Encoding where
  | utf8
  | utf16 (littleEndian : Bool)
  | latin1
  | ascii
  | page (upper : Array Char) (gaps : List Char)
deriving Repr, DecidableEq

/-- The bytes that the smallest character takes. -/
def Encoding.unitSize : Encoding → Nat
  | .utf16 _ => 2
  | _ => 1

/-- The characters below this code are single units whose role in names is kept by unit. -/
def Encoding.tableEnd : Encoding → Nat
  | .utf8 => 0x80
  | .utf16 _ => 0x100
  | _ => 0x110000

/-- The ASCII character of a byte. -/
def asciiSymbol (b : UInt8) : Symbol := .ofChar (Char.ofNat b.toNat)

/-- The symbols of two, three or four bytes of UTF-8, given the bits of the first one. -/
def joinBits (first : Nat) (rest : List UInt8) : List Symbol :=
  let c := Char.ofNat (rest.foldl (fun n b => n * 64 + b.toNat % 64) first)
  (if isAllowed c then .ofChar c else .invalid true) :: rest.map fun _ => .more

/-- The symbols of the beginning of a character at the end of the input. -/
def partialSymbols (rest : List UInt8) : List Symbol := .partialChar :: rest.map fun _ => .more

/-- Whether a byte continues a character of UTF-8. -/
def isTail (b : UInt8) : Bool := 0x80 ≤ b && b < 0xC0

/-- Reads UTF-8. A faulty byte gives one mark, and reading goes on with the next byte. -/
def decodeUtf8 : List UInt8 → List Symbol
  | [] => []
  | a :: rest =>
    if a < 0x80 then asciiSymbol a :: decodeUtf8 rest
    else if a < 0xC0 then .invalid false :: decodeUtf8 rest
    else if a < 0xE0 then
      match rest with
      | b :: rest' =>
        if a ≥ 0xC2 && isTail b then joinBits (a.toNat % 32) [b] ++ decodeUtf8 rest'
        else .invalid true :: decodeUtf8 (b :: rest')
      | [] => [.partialChar]
    else if a < 0xF0 then
      match rest with
      | b :: c :: rest' =>
        if isTail b && isTail c && (a != 0xE0 || b ≥ 0xA0) && (a != 0xED || b < 0xA0) then
          joinBits (a.toNat % 16) [b, c] ++ decodeUtf8 rest'
        else .invalid true :: decodeUtf8 (b :: c :: rest')
      | _ => partialSymbols rest
    else if a < 0xF5 then
      match rest with
      | b :: c :: d :: rest' =>
        if isTail b && isTail c && isTail d &&
            (a != 0xF0 || b ≥ 0x90) && (a != 0xF4 || b < 0x90) then
          joinBits (a.toNat % 8) [b, c, d] ++ decodeUtf8 rest'
        else .invalid true :: decodeUtf8 (b :: c :: d :: rest')
      | _ => partialSymbols rest
    else .invalid false :: decodeUtf8 rest

/-- The symbol of a character in an encoding whose lower half is a table of its own: the ordinal
signs and the micro sign may begin names there. -/
def tableSymbol (c : Char) : Symbol :=
  if c == 'ª' || c == 'µ' || c == 'º' then .char c .start else .ofChar c

/-- The two-byte units of UTF-16, and whether a byte is left over. -/
def units16 (littleEndian : Bool) : List UInt8 → List Nat × Bool
  | a :: b :: rest =>
    let (units, odd) := units16 littleEndian rest
    let unit := if littleEndian then b.toNat * 256 + a.toNat else a.toNat * 256 + b.toNat
    (unit :: units, odd)
  | [_] => ([], true)
  | [] => ([], false)

/-- Reads the units of UTF-16. The second half of a pair is taken as it is. -/
def decodeUnits : List Nat → List Symbol
  | [] => []
  | u :: rest =>
    if 0xD800 ≤ u && u < 0xDC00 then
      match rest with
      | v :: rest' =>
        .ofChar (Char.ofNat (0x10000 + (u % 1024) * 1024 + v % 1024)) :: .more :: decodeUnits rest'
      | [] => [.partialChar]
    else if 0xDC00 ≤ u && u < 0xE000 then .invalid false :: decodeUnits rest
    else tableSymbol (Char.ofNat u) :: decodeUnits rest

/-- Reads one byte of a code page. -/
def pageSymbol (upper : Array Char) (gaps : List Char) (b : UInt8) : Symbol :=
  if b < 0x80 then
    let c := Char.ofNat b.toNat
    if gaps.contains c then .invalid false else .ofChar c
  else
    match upper[b.toNat - 0x80]? with
    | some c => if c == '\uFFFD' then .invalid false else .ofChar c
    | none => .invalid false

/-- Reads bytes in an encoding. -/
def Encoding.decode (e : Encoding) (bytes : List UInt8) : List Symbol :=
  match e with
  | .utf8 => decodeUtf8 bytes
  | .utf16 littleEndian =>
    let (units, odd) := units16 littleEndian bytes
    decodeUnits units ++ (if odd then [.partialUnit] else [])
  | .latin1 => bytes.map fun b => tableSymbol (Char.ofNat b.toNat)
  | .ascii => bytes.map fun b => if b < 0x80 then asciiSymbol b else .invalid false
  | .page upper gaps => bytes.map (pageSymbol upper gaps)

/-- The encoding the first bytes of a document show, and how many bytes of them are a mark of the
byte order, which is not part of the text. -/
def Encoding.detect : List UInt8 → Encoding × Nat
  | 0xFE :: 0xFF :: _ => (.utf16 false, 2)
  | 0xFF :: 0xFE :: _ => (.utf16 true, 2)
  | 0xEF :: 0xBB :: 0xBF :: _ => (.utf8, 3)
  | 0 :: _ :: _ => (.utf16 false, 0)
  | _ :: 0 :: _ => (.utf16 true, 0)
  | _ => (.utf8, 0)

/-- Whether the input is so short that its encoding cannot be told: a beginning of a mark of the
byte order, or a single byte that might be half a character. -/
def Encoding.isUndecided : List UInt8 → Bool
  | [0xEF, 0xBB] => true
  | [b] => b == 0xFE || b == 0xFF || b == 0xEF || b == 0 || b == 0x3C
  | _ => false

/-- Why a declared encoding cannot be used. -/
inductive EncodingProblem where
  | unknown (name : String)
  | multiByte
  | notText (name : String)
  | undefinedMapping (name : String)
  | strictOnly (name : String)
  | asciiOnly
deriving Repr, DecidableEq

/-- The wording of a problem with a declared encoding. -/
def EncodingProblem.message : EncodingProblem → String
  | .unknown name => "unknown encoding: " ++ name
  | .multiByte => "multi-byte encodings are not supported"
  | .notText name =>
    "'" ++ name ++ "' is not a text encoding; use codecs.decode() to handle arbitrary codecs"
  | .undefinedMapping name =>
    "decoding with '" ++ name ++ "' codec failed (UnicodeError: undefined encoding)"
  | .strictOnly name =>
    "decoding with '" ++ name ++ "' codec failed (UnicodeError: Unsupported error handling replace)"
  | .asciiOnly => "'ascii' codec can't decode byte 0x80 in position 82: ordinal not in range(128)"

/-- What a declaration's encoding name asks for: an encoding the reader knows, one from the tables,
one whose lower half is not ASCII, or none that can be used. -/
inductive DeclaredEncoding where
  | known (e : Encoding)
  | mapped (e : Encoding)
  | foreign
  | unusable (p : EncodingProblem)

/-- The key under which an encoding name is kept in the tables: lower case, an underscore for each
run of other characters than letters, digits and periods, and none at the end. -/
def encodingKey (name : String) : String :=
  let go := name.toLower.toList.foldl (fun (acc : List Char × Bool) c =>
    if c.isAlphanum || c == '.' then
      (if acc.2 && !acc.1.isEmpty then c :: '_' :: acc.1 else c :: acc.1, false)
    else (acc.1, true)) ([], false)
  String.ofList go.1.reverse

/-- The keys under which an encoding may be kept: the name's own, and the one with underscores for
periods. -/
def encodingKeys (name : String) : List String :=
  let key := encodingKey name
  let periodless := key.replace "." "_"
  if periodlessNames.contains periodless then [key] else [key, periodless]

/-- The encoding of a table key. -/
def tableEncoding? (key : String) : Option DeclaredEncoding :=
  if asciiNames.contains key then some (.mapped .ascii)
  else if tildeEscapeNames.contains key then some (.mapped (.page #[] ['~']))
  else if latinNames.contains key then
    some (.mapped (.page ((List.range 128).map (Char.ofNat <| · + 128)).toArray []))
  else if foreignNames.contains key then some .foreign
  else if multiByteNames.contains key then some (.unusable .multiByte)
  else
    (codePages.find? (·.names.contains key)).map fun p =>
      .mapped (.page p.upper.toList.toArray [])

/-- Looks up the name of a declared encoding, for a reader that has found `current`. -/
def DeclaredEncoding.ofName (current : Encoding) (name : String) : DeclaredEncoding :=
  let folded := name.toLower
  if folded == "utf-16" && current.unitSize == 2 then .known current
  else if folded == "utf-8" then .known .utf8
  else if folded == "iso-8859-1" then .known .latin1
  else if folded == "us-ascii" then .known .ascii
  else if folded == "utf-16" || folded == "utf-16be" then .known (.utf16 false)
  else if folded == "utf-16le" then .known (.utf16 true)
  else
    let keys := encodingKeys name
    if keys.any byteTransformNames.contains then .unusable (.notText name)
    else if keys.contains "undefined" then .unusable (.undefinedMapping name)
    else if keys.contains "idna" then .unusable (.strictOnly name)
    else if keys.contains "punycode" then .unusable .asciiOnly
    else (keys.findSome? tableEncoding?).getD (.unusable (.unknown name))

end ProcessStubs.Markup
