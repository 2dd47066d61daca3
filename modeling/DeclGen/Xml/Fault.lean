/-!
Faults of documents: what is wrong, and the line and column where. Lines count from one, columns
from zero.
-/

namespace DeclGen.Xml

structure Position where
  line : Nat
  column : Nat
  deriving DecidableEq, Repr

inductive FaultCause where
  | noElement
  | invalidToken
  | unclosedToken
  | partialCharacter
  | mismatchedTag
  | duplicateAttribute
  | junkAfterRoot
  | parameterReference
  | undefinedEntity
  | unreadEntity (reference : String)
  | recursiveEntity
  | asynchronousEntity
  | invalidCharacterNumber
  | binaryEntity
  | externalEntityInAttribute
  | misplacedDeclaration
  | malformedDeclaration
  | incorrectEncoding
  | unknownEncoding
  | unclosedCdata
  | invalidPublicId
  | unboundPrefix
  | undeclaredPrefix
  | reservedXml
  | reservedXmlns
  | reservedNamespace
  | misplacedMarkup
  deriving DecidableEq, Repr

/-- The first bytes of a text, at most `limit` of them. A character that is cut in two leaves the
replacement character. -/
def cutBytes (limit : Nat) : List Char → List Char
  | [] => []
  | c :: cs =>
    if c.utf8Size ≤ limit then c :: cutBytes (limit - c.utf8Size) cs
    else if limit = 0 then []
    else ['\uFFFD']

def FaultCause.message : FaultCause → String
  | noElement => "no element found"
  | invalidToken => "not well-formed (invalid token)"
  | unclosedToken => "unclosed token"
  | partialCharacter => "partial character"
  | mismatchedTag => "mismatched tag"
  | duplicateAttribute => "duplicate attribute"
  | junkAfterRoot => "junk after document element"
  | parameterReference => "illegal parameter entity reference"
  | undefinedEntity => "undefined entity"
  | unreadEntity reference =>
    "undefined entity " ++ String.ofList (cutBytes 100 reference.toList)
  | recursiveEntity => "recursive entity reference"
  | asynchronousEntity => "asynchronous entity"
  | invalidCharacterNumber => "reference to invalid character number"
  | binaryEntity => "reference to binary entity"
  | externalEntityInAttribute => "reference to external entity in attribute"
  | misplacedDeclaration => "XML or text declaration not at start of entity"
  | malformedDeclaration => "XML declaration not well-formed"
  | incorrectEncoding => "encoding specified in XML declaration is incorrect"
  | unknownEncoding => "unknown encoding"
  | unclosedCdata => "unclosed CDATA section"
  | invalidPublicId => "illegal character(s) in public id"
  | unboundPrefix => "unbound prefix"
  | undeclaredPrefix => "must not undeclare prefix"
  | reservedXml =>
    "reserved prefix (xml) must not be undeclared or bound to another namespace name"
  | reservedXmlns => "reserved prefix (xmlns) must not be declared or undeclared"
  | reservedNamespace => "prefix must not be bound to one of the reserved namespace names"
  | misplacedMarkup => "syntax error"

structure Fault where
  cause : FaultCause
  position : Position
  deriving DecidableEq, Repr

def Fault.message (f : Fault) : String :=
  s!"{f.cause.message}: line {f.position.line}, column {f.position.column}"

end DeclGen.Xml
