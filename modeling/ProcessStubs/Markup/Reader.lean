import ProcessStubs.Markup.Declaration
import ProcessStubs.Markup.Tag

/-!
# The reader of markup

A reader takes the symbols of a document one at a time; `Reader.step` says what a symbol does to it
and `Reader.finish` what the end of the input means. What the reader remembers is where it is in the
document (`Phase`), where it is inside a token (`Mode`), and the elements that are open.

Faults are reported where the reader stands if the symbol itself cannot follow, and at the first
symbol of the token if the token is complete but not allowed there, or never becomes complete.
-/

namespace ProcessStubs.Markup

/-- How far the declaration of a document type has come. -/
inductive DoctypeStage where
  | awaitsName
  | named (name : String)
  | awaitsPublicId (name : String)
  | awaitsSystemId (name : String) (publicId : Option String)
  | identified (name : String) (publicId : Option String) (systemId : String)
deriving Repr, DecidableEq

/-- An element whose end tag has not been read. The children are in reverse order. -/
structure OpenElement where
  rawName : List Char
  name : ExpandedName
  attributes : List (ExpandedName × String)
  scope : Scope
  children : List Element

/-- Where the reader is in the document. Inside of elements there is an innermost one and the list
of those around it. -/
inductive Phase where
  | start
  | prolog
  | doctype (stage : DoctypeStage)
  | inside (innermost : OpenElement) (outer : List OpenElement)
  | epilog (root : Element)

/-- What a name outside of elements is. -/
inductive WordKind where
  | name
  | labelled
  | token
deriving Repr, DecidableEq

/-- Where the reader is inside a token, with the characters read so far in reverse order. The
modes of references carry the quote of the attribute value they stand in, if they stand in one. -/
inductive Mode where
  -- between tokens, and in character data
  | between
  | text
  | textReturn
  | textBracket
  | textBrackets
  -- what begins with `<`
  | less
  | lessBang
  -- comments
  | commentOpen
  | comment
  | commentDash
  | commentDashes
  -- instructions and the declaration
  | targetOpen
  | target (name : List Char)
  | targetMark (name : List Char)
  | instruction (name body : List Char)
  | instructionMark (name body : List Char)
  -- sections of literal character data
  | cdataOpen (expected : List Char) (wrong : Option Position)
  | cdata
  | cdataReturn
  | cdataBracket
  | cdataBrackets (second : Position)
  -- start tags
  | tagName (hasColon : Bool)
  | tagColon
  | tagSpace
  | tagSlash
  | attributeName (hasColon : Bool)
  | attributeColon
  | attributeEquals
  | attributeQuote
  | value (quote : Char)
  | valueEnd
  -- end tags
  | endOpen
  | endName (name : List Char)
  | endSpace (name : List Char)
  -- references
  | referenceOpen (quote : Option Char)
  | referenceName (quote : Option Char) (name : List Char)
  | numberOpen (quote : Option Char)
  | number (quote : Option Char) (n : Nat)
  | hexOpen (quote : Option Char)
  | hex (quote : Option Char) (n : Nat)
  -- tokens outside of elements
  | declarationName (name : List Char)
  | declarationPercent (name : List Char)
  | word (kind : WordKind) (name : List Char)
  | wordColon (name : List Char)
  | literal (quote : Char) (body : List Char)
  | literalEnd (body : List Char)
  | closeParen
  | closeBracket
  | closeBrackets
  | percentOpen
  | percentName
  | poundOpen
  | poundName
  -- the declaration of the document has been read
  | declared (body : List Char)

/-- The state of reading. `tag` and `current` are the start tag and the attribute being read,
their lists in reverse order. `place` is where the token, or the reference in an attribute value,
begins. Characters from the code `tableEnd` on are several units in the encoding, or have roles that
are not kept by unit. -/
structure Reader where
  position : Position
  tokenStart : Position
  place : Position
  phase : Phase
  mode : Mode
  tag : RawTag
  current : RawAttribute
  tableEnd : Nat

namespace Reader

/-- A reader at the start of a document in an encoding. -/
def initial (position : Position) (encoding : Encoding) : Reader where
  position := position
  tokenStart := position
  place := position
  phase := .start
  mode := .between
  tag := ⟨[], position, []⟩
  current := ⟨[], position, []⟩
  tableEnd := encoding.tableEnd

/-- Fails where the reader stands. -/
def failHere (r : Reader) (flaw : Flaw) : Except Fault Reader := .error (.malformed flaw r.position)

/-- Fails at the first symbol of the token. -/
def failToken (r : Reader) (flaw : Flaw) : Except Fault Reader :=
  .error (.malformed flaw r.tokenStart)

/-- Goes on in another mode. -/
def goTo (r : Reader) (mode : Mode) : Except Fault Reader := .ok { r with mode := mode }

/-- Begins a token here. -/
def beginToken (r : Reader) (mode : Mode) : Except Fault Reader :=
  .ok { r with mode := mode, tokenStart := r.position, place := r.position }

/-- Between tokens, the mode that fits the phase. -/
def rest (r : Reader) : Mode :=
  match r.phase with
  | .inside .. => .text
  | _ => .between

/-! ### Tokens outside of elements -/

/-- Tokens that matter only for the declaration of a document type. -/
inductive Outer where
  | declaration (name : List Char)
  | word (kind : WordKind) (name : List Char)
  | literal (body : List Char)
  | openBracket
  | greater
  | parameterEntity
  | other

/-- White space in a public identifier: single blanks, and none at the ends. -/
def normalizePublicId (cs : List Char) : List Char :=
  let go := cs.foldl (fun (acc : List Char) c =>
    if isSpace c then (match acc with | [] => [] | ' ' :: _ => acc | _ => ' ' :: acc)
    else c :: acc) []
  (match go with | ' ' :: r => r | r => r).reverse

/-- Whether a character may stand in a public identifier. -/
def isPublicIdChar (c : Char) : Bool :=
  c.isAlphanum || " \r\n-'()+,./:=?;!*#@$_%".toList.contains c

/-- Takes a complete token outside of elements. -/
def accept (r : Reader) (token : Outer) : Except Fault Reader :=
  match r.phase with
  | .epilog _ => r.failToken .junkAfterElement
  | .doctype stage =>
    match stage, token with
    | .awaitsName, .word .name n | .awaitsName, .word .labelled n =>
      .ok { r with phase := .doctype (.named (String.ofList n.reverse)), mode := .between }
    | .named n, .openBracket | .named n, .greater => .error (.doctype n none none)
    | .named n, .word .name ['M', 'E', 'T', 'S', 'Y', 'S'] =>
      .ok { r with phase := .doctype (.awaitsSystemId n none), mode := .between }
    | .named n, .word .name ['C', 'I', 'L', 'B', 'U', 'P'] =>
      .ok { r with phase := .doctype (.awaitsPublicId n), mode := .between }
    | .awaitsPublicId n, .literal body =>
      let cs := body.reverse
      match cs.dropWhile isPublicIdChar with
      | [] =>
        let publicId := String.ofList (normalizePublicId cs)
        .ok { r with phase := .doctype (.awaitsSystemId n (some publicId)), mode := .between }
      | bad =>
        let good := cs.take (cs.length - bad.length)
        .error (.malformed .badPublicId (r.tokenStart.after (('"' :: good).map Symbol.ofChar)))
    | .awaitsSystemId n publicId, .literal body =>
      .ok { r with phase := .doctype (.identified n publicId (String.ofList body.reverse)),
                   mode := .between }
    | .identified n publicId systemId, .openBracket
    | .identified n publicId systemId, .greater => .error (.doctype n (some systemId) publicId)
    | _, .parameterEntity => r.failToken .parameterEntity
    | _, _ => r.failToken .syntaxError
  | _ =>
    match token with
    | .declaration ['E', 'P', 'Y', 'T', 'C', 'O', 'D'] =>
      .ok { r with phase := .doctype .awaitsName, mode := .between }
    | .parameterEntity => r.failToken .parameterEntity
    | _ => r.failToken .syntaxError

/-- Takes a comment or an instruction, which may stand anywhere but in the declaration of a document
type. -/
def acceptRemark (r : Reader) : Except Fault Reader :=
  match r.phase with
  | .doctype _ => r.failToken .syntaxError
  | .start => .ok { r with phase := .prolog, mode := .between }
  | _ => r.goTo r.rest

/-- Takes an instruction whose target is `xml`: the declaration at the start of the document, and a
fault anywhere else. -/
def acceptDeclaration (r : Reader) (body : List Char) : Except Fault Reader :=
  match r.phase with
  | .start => .ok { r with phase := .prolog, mode := .declared body.reverse }
  | .epilog _ => r.failToken .junkAfterElement
  | _ => r.failToken .misplacedDeclaration

/-- Takes an instruction by its target and body. -/
def acceptInstruction (r : Reader) (name body : List Char) : Except Fault Reader :=
  if name = ['l', 'm', 'x'] then r.acceptDeclaration body else r.acceptRemark

/-- Begins a token outside of elements. -/
def stepBetween (r : Reader) (s : Symbol) : Except Fault Reader :=
  match s with
  | .more => .ok r
  | .partialUnit => r.failHere .unclosedToken
  | .partialChar => r.failHere .partialCharacter
  | .invalid _ => r.failHere .invalidToken
  | .char c role =>
    if isSpace c then
      match r.phase with
      | .start => .ok { r with phase := .prolog, mode := .between }
      | _ => r.goTo .between
    else
      let r := { r with tokenStart := r.position, place := r.position }
      match c with
      | '<' => r.goTo .less
      | '"' | '\'' => r.goTo (.literal c [])
      | '%' => r.goTo .percentOpen
      | '#' => r.goTo .poundOpen
      | ')' => r.goTo .closeParen
      | ']' => r.goTo .closeBracket
      | '[' => r.accept .openBracket
      | '>' => r.accept .greater
      | ',' | '(' | '|' => r.accept .other
      | ':' => r.goTo (.word .token [c])
      | _ =>
        match role with
        | .start => r.goTo (.word .name [c])
        | .part => r.goTo (.word .token [c])
        | .other => r.failHere .invalidToken

/-- Takes a complete token that ended before this symbol, and begins the next one. -/
def acceptThen (r : Reader) (token : Outer) (s : Symbol) : Except Fault Reader := do
  (← r.accept token).stepBetween s

/-! ### Elements -/

/-- Puts a complete element into the one around it, or ends the document element. -/
def addElement (r : Reader) (e : Element) : List OpenElement → Except Fault Reader
  | [] => .ok { r with phase := .epilog e, mode := .between }
  | top :: outer =>
    .ok { r with phase := .inside { top with children := e :: top.children } outer, mode := .text }

/-- Takes a complete start tag, or the tag of an empty element. -/
def acceptTag (r : Reader) (isEmpty : Bool) : Except Fault Reader := do
  let tag : RawTag := ⟨r.tag.name.reverse, r.tokenStart, r.tag.attributes.reverse⟩
  let around : List OpenElement :=
    match r.phase with
    | .inside top outer => top :: outer
    | _ => []
  let scope := (around.head?.map OpenElement.scope).getD Scope.initial
  let (scope', name, attributes) ← tag.resolve scope
  if isEmpty then
    r.addElement (.node name attributes []) around
  else
    let inner : OpenElement := ⟨tag.name, name, attributes, scope', []⟩
    return { r with phase := .inside inner around, mode := .text }

/-- Takes a complete end tag. -/
def acceptEnd (r : Reader) (name : List Char) : Except Fault Reader :=
  match r.phase with
  | .inside top outer =>
    if top.rawName = name.reverse then
      r.addElement (.node top.name top.attributes top.children.reverse) outer
    else .error (.malformed .mismatchedTag r.place)
  | _ => r.failHere .invalidToken

/-- Takes a complete attribute. -/
def acceptAttribute (r : Reader) : Reader :=
  let a : RawAttribute :=
    ⟨r.current.name.reverse, r.current.position, r.current.value.reverse⟩
  { r with tag := { r.tag with attributes := a :: r.tag.attributes }, mode := .valueEnd }

/-- Adds a piece to the attribute value being read. -/
def addPart (r : Reader) (part : ValuePart) (mode : Mode) : Except Fault Reader :=
  .ok { r with current := { r.current with value := part :: r.current.value }, mode := mode }

/-- Takes a complete reference in character data, or in an attribute value between quotes `q`. -/
def acceptReference (r : Reader) (quote : Option Char) (part : ValuePart) : Except Fault Reader :=
  match quote with
  | some q => r.addPart part (.value q)
  | none => do
    let _ ← part.resolve r.place
    r.goTo .text

/-! ### Steps inside a token -/

/-- What a symbol that is no character does inside a token that may hold any character. -/
def stepFault (r : Reader) (s : Symbol) : Except Fault Reader :=
  match s with
  | .partialChar => r.failToken .partialCharacter
  | _ => r.failHere .invalidToken

/-- A step in character data. -/
def stepText (r : Reader) (s : Symbol) : Except Fault Reader :=
  match s with
  | .char '<' _ => r.beginToken .less
  | .char '&' _ => r.beginToken (.referenceOpen none)
  | .char ']' _ => r.beginToken .textBracket
  | .char '\r' _ => r.beginToken .textReturn
  | .char _ _ | .more => r.goTo .text
  | .partialUnit => r.failHere .unclosedToken
  | .partialChar => r.failHere .partialCharacter
  | .invalid _ => r.failHere .invalidToken

/-- A step where a section of literal character data begins. As many units are taken as are expected
before the first wrong one is looked at. -/
def stepCdataOpen (r : Reader) (expected : List Char) (wrong : Option Position) (s : Symbol) :
    Except Fault Reader :=
  let wrong := wrong.or (match s, expected with
    | .char c _, e :: _ => if c == e then none else some r.position
    | _, _ => some r.position)
  match expected, wrong with
  | _ :: e :: more, _ => r.goTo (.cdataOpen (e :: more) wrong)
  | _, some p => .error (.malformed .invalidToken p)
  | _, none => r.goTo .cdata

/-- A step in a section of literal character data. -/
def stepCdata (r : Reader) (s : Symbol) : Except Fault Reader :=
  match s with
  | .char ']' _ => r.beginToken .cdataBracket
  | .char '\r' _ => r.beginToken .cdataReturn
  | .char _ _ | .more => r.goTo .cdata
  | .partialUnit => r.failHere .unclosedCdata
  | .partialChar => r.failHere .partialCharacter
  | .invalid _ => r.failHere .invalidToken

/-- A step in a comment. -/
def stepComment (r : Reader) (s : Symbol) : Except Fault Reader :=
  match s with
  | .char '-' _ => r.goTo .commentDash
  | .char _ _ => r.goTo .comment
  | _ => r.stepFault s

/-- A step in the body of an instruction. -/
def stepInstruction (r : Reader) (name body : List Char) (s : Symbol) : Except Fault Reader :=
  match s with
  | .char '?' _ => r.goTo (.instructionMark name body)
  | .char c _ => r.goTo (.instruction name (c :: body))
  | _ => r.stepFault s

/-- Whether a target is the reserved one in another spelling than `xml`. -/
def isMisspeltXml (name : List Char) : Bool :=
  name != ['l', 'm', 'x'] && name.map Char.toLower == ['l', 'm', 'x']

/-- A step after `<`. -/
def stepLess (r : Reader) (s : Symbol) : Except Fault Reader :=
  let beginsTag : Bool :=
    match s with
    | .char c role => role == .start || c.toNat ≥ r.tableEnd
    | .invalid leading => leading
    | .partialChar => true
    | .partialUnit | .more => false
  match r.phase, s with
  | .epilog _, _ =>
    if beginsTag then r.failToken .junkAfterElement
    else
      match s with
      | .char '!' _ => r.goTo .lessBang
      | .char '?' _ => r.goTo .targetOpen
      | _ => r.failHere .invalidToken
  | .doctype _, _ =>
    if beginsTag then r.failToken .syntaxError
    else
      match s with
      | .char '!' _ => r.goTo .lessBang
      | .char '?' _ => r.goTo .targetOpen
      | _ => r.failHere .invalidToken
  | .inside .., .char '/' _ => r.goTo .endOpen
  | _, .char '!' _ => r.goTo .lessBang
  | _, .char '?' _ => r.goTo .targetOpen
  | _, .char c .start =>
    .ok { r with tag := ⟨[c], r.tokenStart, []⟩, mode := .tagName false }
  | _, _ => r.stepFault s

/-- A step after `<!`. -/
def stepLessBang (r : Reader) (s : Symbol) : Except Fault Reader :=
  match r.phase, s with
  | _, .char '-' _ => r.goTo .commentOpen
  | .inside .., .char '[' _ => r.goTo (.cdataOpen "CDATA[".toList none)
  | .inside .., _ => r.failHere .invalidToken
  | _, .char '[' _ => r.accept .other
  | _, .char c .start =>
    if c.toNat < r.tableEnd then r.goTo (.declarationName [c]) else r.failHere .invalidToken
  | _, _ => r.failHere .invalidToken

/-- A step in a start tag. -/
def stepTag (r : Reader) (s : Symbol) : Mode → Except Fault Reader
  | .tagName hasColon =>
    match s with
    | .char c role =>
      if c == ':' then
        if hasColon then r.failHere .invalidToken
        else .ok { r with tag := { r.tag with name := c :: r.tag.name }, mode := .tagColon }
      else if isSpace c then r.goTo .tagSpace
      else if c == '>' then r.acceptTag false
      else if c == '/' then r.goTo .tagSlash
      else if role == .other then r.failHere .invalidToken
      else
        .ok { r with tag := { r.tag with name := c :: r.tag.name }, mode := .tagName hasColon }
    | _ => r.stepFault s
  | .tagColon =>
    match s with
    | .char c .start =>
      .ok { r with tag := { r.tag with name := c :: r.tag.name }, mode := .tagName true }
    | _ => r.stepFault s
  | .tagSpace =>
    match s with
    | .char c role =>
      if isSpace c then r.goTo .tagSpace
      else if c == '>' then r.acceptTag false
      else if c == '/' then r.goTo .tagSlash
      else if role == .start then
        .ok { r with current := ⟨[c], r.position, []⟩, mode := .attributeName false }
      else r.failHere .invalidToken
    | _ => r.stepFault s
  | .tagSlash =>
    match s with
    | .char '>' _ => r.acceptTag true
    | _ => r.failHere .invalidToken
  | .attributeName hasColon =>
    match s with
    | .char c role =>
      if c == ':' then
        if hasColon then r.failHere .invalidToken
        else
          .ok { r with current := { r.current with name := c :: r.current.name },
                       mode := .attributeColon }
      else if isSpace c then r.goTo .attributeEquals
      else if c == '=' then r.goTo .attributeQuote
      else if role == .other then r.failHere .invalidToken
      else
        .ok { r with current := { r.current with name := c :: r.current.name },
                     mode := .attributeName hasColon }
    | _ => r.stepFault s
  | .attributeColon =>
    match s with
    | .char c .start =>
      .ok { r with current := { r.current with name := c :: r.current.name },
                   mode := .attributeName true }
    | _ => r.stepFault s
  | .attributeEquals =>
    match s with
    | .char c _ =>
      if isSpace c then r.goTo .attributeEquals
      else if c == '=' then r.goTo .attributeQuote
      else r.failHere .invalidToken
    | _ => r.failHere .invalidToken
  | .attributeQuote =>
    match s with
    | .char c _ =>
      if isSpace c then r.goTo .attributeQuote
      else if c == '"' || c == '\'' then r.goTo (.value c)
      else r.failHere .invalidToken
    | _ => r.failHere .invalidToken
  | .value q =>
    match s with
    | .char c _ =>
      if c == q then .ok r.acceptAttribute
      else if c == '<' then r.failHere .invalidToken
      else if c == '&' then .ok { r with place := r.position, mode := .referenceOpen (some q) }
      else if c == '\n' && r.position.afterReturn then r.goTo (.value q)
      else r.addPart (.literal c) (.value q)
    | _ => r.stepFault s
  | _ =>
    match s with
    | .char c _ =>
      if isSpace c then r.goTo .tagSpace
      else if c == '>' then r.acceptTag false
      else if c == '/' then r.goTo .tagSlash
      else r.failHere .invalidToken
    | _ => r.failHere .invalidToken

/-- The value of a hexadecimal digit. -/
def hexValue? (c : Char) : Option Nat :=
  if c.isDigit then some (c.toNat - '0'.toNat)
  else if 'a' ≤ c && c ≤ 'f' then some (c.toNat - 'a'.toNat + 10)
  else if 'A' ≤ c && c ≤ 'F' then some (c.toNat - 'A'.toNat + 10)
  else none

/-- A step in a reference. -/
def stepReference (r : Reader) (s : Symbol) : Mode → Except Fault Reader
  | .referenceOpen q =>
    match s with
    | .char '#' _ => r.goTo (.numberOpen q)
    | .char c .start => r.goTo (.referenceName q [c])
    | _ => r.stepFault s
  | .referenceName q name =>
    match s with
    | .char ';' _ => r.acceptReference q (.entity name.reverse)
    | .char c .start | .char c .part => r.goTo (.referenceName q (c :: name))
    | _ => r.stepFault s
  | .numberOpen q =>
    match s with
    | .char 'x' _ => r.goTo (.hexOpen q)
    | .char c _ =>
      if c.isDigit then r.goTo (.number q (c.toNat - '0'.toNat)) else r.failHere .invalidToken
    | _ => r.failHere .invalidToken
  | .number q n =>
    match s with
    | .char ';' _ => r.acceptReference q (.number (characterOfNumber n) r.place)
    | .char c _ =>
      if c.isDigit then r.goTo (.number q (n * 10 + (c.toNat - '0'.toNat)))
      else r.failHere .invalidToken
    | _ => r.failHere .invalidToken
  | .hexOpen q =>
    match s with
    | .char c _ =>
      match hexValue? c with
      | some d => r.goTo (.hex q d)
      | none => r.failHere .invalidToken
    | _ => r.failHere .invalidToken
  | .hex q n =>
    match s with
    | .char ';' _ => r.acceptReference q (.number (characterOfNumber n) r.place)
    | .char c _ =>
      match hexValue? c with
      | some d => r.goTo (.hex q (n * 16 + d))
      | none => r.failHere .invalidToken
    | _ => r.failHere .invalidToken
  | _ => r.failHere .invalidToken

/-- A step after a percent sign. -/
def stepPercent (r : Reader) (s : Symbol) : Except Fault Reader :=
  match s with
  | .char c role =>
    if isSpace c || c == '%' then r.accept .other
    else if role == .start then r.goTo .percentName
    else r.failHere .invalidToken
  | _ => r.stepFault s

/-- A step in a name, a literal or another token outside of elements. -/
def stepOuter (r : Reader) (s : Symbol) : Mode → Except Fault Reader
  | .declarationName name =>
    match s with
    | .char '%' _ => .ok { r with place := r.position, mode := .declarationPercent name }
    | .char c role =>
      if isSpace c then r.acceptThen (.declaration name) s
      else if role == .start && c.toNat < r.tableEnd then
        r.goTo (.declarationName (c :: name))
      else r.failHere .invalidToken
    | _ => r.failHere .invalidToken
  | .declarationPercent name => do
    if let .char c _ := s then
      if isSpace c || c == '%' then
        throw (.malformed .invalidToken r.place)
    let r' ← r.accept (.declaration name)
    stepPercent { r' with tokenStart := r.place } s
  | .word kind name =>
    match s with
    | .char c role =>
      if c == ':' then
        match kind with
        | .name => r.goTo (.wordColon (c :: name))
        | _ => r.goTo (.word .token (c :: name))
      else if isSpace c || ">),|[%".toList.contains c then r.acceptThen (.word kind name) s
      else if c == '+' || c == '*' || c == '?' then
        if kind == .token then r.failHere .invalidToken else r.accept .other
      else if role == .other then r.failHere .invalidToken
      else r.goTo (.word kind (c :: name))
    | _ => r.stepFault s
  | .wordColon name =>
    match s with
    | .char c .start | .char c .part => r.goTo (.word .labelled (c :: name))
    | .char c _ =>
      if isSpace c || ">),|[%".toList.contains c then r.acceptThen (.word .token name) s
      else if c == ':' then r.goTo (.word .token (c :: name))
      else r.failHere .invalidToken
    | _ => r.stepFault s
  | .literal q body =>
    match s with
    | .char c _ => if c == q then r.goTo (.literalEnd body) else r.goTo (.literal q (c :: body))
    | _ => r.stepFault s
  | .literalEnd body =>
    match s with
    | .char c _ =>
      if isSpace c || c == '>' || c == '%' || c == '[' then r.acceptThen (.literal body) s
      else r.failHere .invalidToken
    | _ => r.failHere .invalidToken
  | .closeParen =>
    match s with
    | .char c _ =>
      if c == '*' || c == '?' || c == '+' || isSpace c || c == '>' || c == ',' || c == '|' ||
          c == ')' then r.accept .other
      else r.failHere .invalidToken
    | _ => r.failHere .invalidToken
  | .closeBracket =>
    match s with
    | .char ']' _ => r.goTo .closeBrackets
    | _ => r.accept .other
  | .percentOpen => r.stepPercent s
  | .percentName =>
    match s with
    | .char ';' _ => r.accept .parameterEntity
    | .char _ .start | .char _ .part => r.goTo .percentName
    | _ => r.stepFault s
  | .poundOpen =>
    match s with
    | .char _ .start => r.goTo .poundName
    | _ => r.stepFault s
  | .poundName =>
    match s with
    | .char c role =>
      if isSpace c || ")>%|".toList.contains c then r.accept .other
      else if role == .other then r.failHere .invalidToken
      else r.goTo .poundName
    | _ => r.stepFault s
  | _ => r.accept .other

/-- What the end of the input means: the document element, or a fault. Some tokens are complete at
the end of the input though they might have gone on. -/
def finish (r : Reader) : Except Fault Element :=
  let noElement (r : Reader) : Except Fault Element :=
    match r.phase with
    | .epilog root => .ok root
    | _ => .error (.malformed .noElement r.position)
  let complete (token : Outer) : Except Fault Element := do noElement (← r.accept token)
  match r.mode with
  | .between | .text | .textBracket | .textBrackets | .declared _ => noElement r
  | .textReturn => .error (.malformed .noElement r.tokenStart)
  | .cdata => .error (.malformed .unclosedCdata r.position)
  | .cdataReturn | .cdataBracket | .cdataBrackets _ =>
    .error (.malformed .unclosedCdata r.tokenStart)
  | .word kind name => complete (.word kind name)
  | .literalEnd body => complete (.literal body)
  | .closeBracket | .closeParen | .poundName => complete .other
  | _ => .error (.malformed .unclosedToken r.tokenStart)

/-- What a symbol does to the reader, its position aside. -/
def stepMode (r : Reader) (s : Symbol) : Except Fault Reader :=
  match r.mode with
  | .between | .declared _ => r.stepBetween s
  | .text | .textReturn => r.stepText s
  | .textBracket =>
    match s with
    | .char ']' _ => r.goTo .textBrackets
    | _ => r.stepText s
  | .textBrackets =>
    match s with
    | .char ']' _ => r.goTo .textBrackets
    | .char '>' _ => r.failHere .invalidToken
    | _ => r.stepText s
  | .less => r.stepLess s
  | .lessBang => r.stepLessBang s
  | .commentOpen =>
    match s with
    | .char '-' _ => r.goTo .comment
    | _ => r.failHere .invalidToken
  | .comment => r.stepComment s
  | .commentDash =>
    match s with
    | .char '-' _ => r.goTo .commentDashes
    | _ => r.stepComment s
  | .commentDashes =>
    match s with
    | .char '>' _ => r.acceptRemark
    | _ => r.failHere .invalidToken
  | .targetOpen =>
    match s with
    | .char c .start => r.goTo (.target [c])
    | _ => r.stepFault s
  | .target name =>
    match s with
    | .char c role =>
      if role != .other then r.goTo (.target (c :: name))
      else if (isSpace c || c == '?') && !isMisspeltXml name then
        r.goTo (if c == '?' then .targetMark name else .instruction name [c])
      else r.failHere .invalidToken
    | _ => r.stepFault s
  | .targetMark name =>
    match s with
    | .char '>' _ => r.acceptInstruction name []
    | _ => r.failHere .invalidToken
  | .instruction name body => r.stepInstruction name body s
  | .instructionMark name body =>
    match s with
    | .char '>' _ => r.acceptInstruction name body
    | _ => r.stepInstruction name ('?' :: body) s
  | .cdataOpen expected wrong => r.stepCdataOpen expected wrong s
  | .cdata | .cdataReturn => r.stepCdata s
  | .cdataBracket =>
    match s with
    | .char ']' _ => r.goTo (.cdataBrackets r.position)
    | _ => r.stepCdata s
  | .cdataBrackets second =>
    match s with
    | .char '>' _ => r.goTo .text
    | .char ']' _ => .ok { r with tokenStart := second, mode := .cdataBrackets r.position }
    | _ => r.stepCdata s
  | .endOpen =>
    match s with
    | .char c .start => .ok { r with place := r.position, mode := .endName [c] }
    | _ => r.stepFault s
  | .endName name =>
    match s with
    | .char c role =>
      if c == '>' then r.acceptEnd name
      else if isSpace c then r.goTo (.endSpace name)
      else if c == ':' || role != .other then r.goTo (.endName (c :: name))
      else r.failHere .invalidToken
    | _ => r.stepFault s
  | .endSpace name =>
    match s with
    | .char c _ =>
      if c == '>' then r.acceptEnd name
      else if isSpace c then r.goTo (.endSpace name)
      else r.failHere .invalidToken
    | _ => r.failHere .invalidToken
  | .referenceOpen _ | .referenceName _ _ | .numberOpen _ | .number _ _ | .hexOpen _ | .hex _ _ =>
    r.stepReference s r.mode
  | .declarationName _ | .declarationPercent _ | .word _ _ | .wordColon _ | .literal _ _
  | .literalEnd _ | .closeParen | .closeBracket | .closeBrackets | .percentOpen | .percentName
  | .poundOpen | .poundName =>
    r.stepOuter s r.mode
  | _ => r.stepTag s r.mode

/-- Whether the end of the input inside a two-byte unit is met between tokens. -/
def isBetweenTokens (r : Reader) : Bool :=
  match r.mode with
  | .between | .text | .cdata | .declared _ => true
  | _ => false

/-- The reader at half a unit. The half belongs to a name that ends there, which then is no word of
the language. -/
def atHalfUnit (r : Reader) : Reader :=
  match r.mode with
  | .word .name name => { r with mode := .word .labelled name }
  | _ => r

/-- What a further unit of a character does to the reader: it only counts where units do. -/
def stepMore (r : Reader) : Except Fault Reader :=
  match r.mode with
  | .cdataOpen expected wrong => r.stepCdataOpen expected wrong .more
  | _ => .ok r

/-- What a symbol does to the reader. Half a unit ends a token as the end of the input does. -/
def step (r : Reader) (s : Symbol) : Except Fault Reader := do
  if s == .partialUnit && !r.isBetweenTokens then
    let _ ← r.atHalfUnit.finish
  let r' ← if s == .more then r.stepMore else r.stepMode s
  return { r' with position := r.position.next s }

/-- Whether the declaration of the document has just been read. -/
def isDeclared (r : Reader) : Bool :=
  match r.mode with
  | .declared _ => true
  | _ => false

/-- Reads symbols up to the end of the declaration of the document, or else all of them. -/
def runToDeclaration (r : Reader) : List Symbol → Except Fault (Reader × List Symbol)
  | [] => .ok (r, [])
  | s :: rest => do
    let r' ← r.step s
    if r'.isDeclared then return (r', rest) else r'.runToDeclaration rest

/-- Reads all symbols and ends the document. -/
def run (r : Reader) (symbols : List Symbol) : Except Fault Element := do
  (← symbols.foldlM step r).finish

end Reader

/-- Reads the declaration of a document that begins at `start`: the encoding of what follows. -/
def declaredEncoding (start : Position) (current : Encoding) (body : List Char) :
    Except Fault Encoding :=
  let place (left : Nat) : Position :=
    start.after
      (("<?xml".toList ++ body.take (body.length - left)).map Symbol.ofChar)
  match readDeclaration body with
  | .error left => .error (.malformed .badDeclaration (place left))
  | .ok none => .ok current
  | .ok (some (name, left)) =>
    match DeclaredEncoding.ofName current name with
    | .known e =>
      if e.unitSize != current.unitSize || (e.unitSize == 2 && e != current) then
        .error (.malformed .incorrectEncoding (place left))
      else .ok e
    | .mapped e => .ok e
    | .foreign => .error (.malformed .unknownEncoding (place left))
    | .unusable p => .error (.encoding p)

/-- Reads a document. Lines and columns before the end of the declaration are counted by the
encoding it is read in, those after it by the encoding it declares. -/
def readDocument (bytes : List UInt8) : Except Fault Element := do
  if Encoding.isUndecided bytes then
    throw (.malformed .unclosedToken .start)
  let (encoding, markSize) := Encoding.detect bytes
  let start := if markSize = 0 then Position.start else Position.start.next (.char '\uFEFF' .other)
  let symbols := encoding.decode (bytes.drop markSize)
  let (reader, rest) ← (Reader.initial start encoding).runToDeclaration symbols
  match reader.mode with
  | .declared body =>
    let declared ← declaredEncoding start encoding body
    let consumed := markSize + encoding.unitSize * (symbols.length - rest.length)
    let position := Position.start.after (declared.decode (bytes.take consumed))
    let reader :=
      { reader with position := position, mode := .between, tableEnd := declared.tableEnd }
    reader.run (declared.decode (bytes.drop consumed))
  | _ => reader.finish

end ProcessStubs.Markup
