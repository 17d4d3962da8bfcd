import ProcessStubs.Markup.Encoding
import ProcessStubs.Text.Quoted

/-!
# Faults of documents

What can be wrong with a document as markup, where, and how that is said.
-/

namespace ProcessStubs.Markup

open ProcessStubs.Text

/-- A violation of the rules of markup. -/
inductive Flaw where
  | syntaxError
  | noElement
  | invalidToken
  | unclosedToken
  | partialCharacter
  | mismatchedTag
  | duplicateAttribute
  | junkAfterElement
  | parameterEntity
  | undefinedEntity
  | badCharacterNumber
  | misplacedDeclaration
  | unknownEncoding
  | incorrectEncoding
  | unclosedCdata
  | unboundLabel
  | undeclaredLabel
  | badDeclaration
  | badPublicId
  | reservedXml
  | reservedXmlns
  | reservedNamespace
deriving Repr, DecidableEq

/-- The wording of a flaw. -/
def Flaw.message : Flaw → String
  | .syntaxError => "syntax error"
  | .noElement => "no element found"
  | .invalidToken => "not well-formed (invalid token)"
  | .unclosedToken => "unclosed token"
  | .partialCharacter => "partial character"
  | .mismatchedTag => "mismatched tag"
  | .duplicateAttribute => "duplicate attribute"
  | .junkAfterElement => "junk after document element"
  | .parameterEntity => "illegal parameter entity reference"
  | .undefinedEntity => "undefined entity"
  | .badCharacterNumber => "reference to invalid character number"
  | .misplacedDeclaration => "XML or text declaration not at start of entity"
  | .unknownEncoding => "unknown encoding"
  | .incorrectEncoding => "encoding specified in XML declaration is incorrect"
  | .unclosedCdata => "unclosed CDATA section"
  | .unboundLabel => "unbound prefix"
  | .undeclaredLabel => "must not undeclare prefix"
  | .badDeclaration => "XML declaration not well-formed"
  | .badPublicId => "illegal character(s) in public id"
  | .reservedXml =>
    "reserved prefix (xml) must not be undeclared or bound to another namespace name"
  | .reservedXmlns => "reserved prefix (xmlns) must not be declared or undeclared"
  | .reservedNamespace => "prefix must not be bound to one of the reserved namespace names"

/-- Why a document cannot be read.

* `malformed`: it breaks a rule of markup at a place.
* `doctype`: it declares a document type, which is refused whatever it says.
* `encoding`: it names an encoding that cannot be used. -/
inductive Fault where
  | malformed (flaw : Flaw) (position : Position)
  | doctype (name : String) (systemId publicId : Option String)
  | encoding (problem : EncodingProblem)
deriving Repr, DecidableEq

/-- The wording of a fault. -/
def Fault.message : Fault → String
  | .malformed flaw p =>
    "Malformed XML: " ++ flaw.message ++ ": line " ++ toString p.line ++ ", column " ++
      toString p.column
  | .doctype name systemId publicId =>
    "Forbidden XML construct: DTDForbidden(name='" ++ name ++ "', system_id=" ++
      quotedOrNone systemId ++ ", public_id=" ++ quotedOrNone publicId ++ ")"
  | .encoding problem => "Unsupported encoding: " ++ problem.message

end ProcessStubs.Markup
