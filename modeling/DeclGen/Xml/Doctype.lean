import DeclGen.Xml.Definitions
import DeclGen.Xml.PrologToken

/-!
The grammar of everything before the root element, as an automaton over tokens. A state says what
may come next, and what has been read of a declaration so far.
-/

namespace DeclGen.Xml

/-- What separates the parts of a group in an element declaration. -/
inductive Connector where
  | comma
  | bar
  deriving DecidableEq, Repr

/-- The declared type of an attribute, as far as it matters: a text, or a list of tokens. -/
structure AttributeHead where
  element : String
  name : String
  tokens : Bool
  deriving DecidableEq, Repr

inductive PrologState where
  | beforeDoctype
  | afterDoctype
  | doctypeName
  | doctypeIdentifier
  | doctypePublic
  | doctypeSystem
  | doctypeSubset
  | doctypeEnd
  | subset
  /-- A declaration that has to end. -/
  | declarationEnd
  | entityName
  | parameterName
  | entityValue (general : Option String)
  | entityPublic (general : Option String)
  | entitySystem (general : Option String)
  | entityEnd (general : Option String)
  | entityNotation (general : Option String)
  | notationName
  | notationIdentifier
  | notationPublic
  | notationSystem
  | notationEnd
  | attributeElement
  | attributeName (element : String)
  | attributeType (element name : String)
  | enumValue (head : AttributeHead)
  | enumNext (head : AttributeHead)
  | notationOpen (head : AttributeHead)
  | notationValue (head : AttributeHead)
  | notationNext (head : AttributeHead)
  | attributeDefault (head : AttributeHead)
  | attributeFixed (head : AttributeHead)
  | elementName
  | elementContent
  | elementGroup
  | mixedEnd
  | mixedName
  | mixedNext
  /-- The next part of a group; the groups around it from the inside out, each with what separates
  its parts so far. -/
  | groupPart (groups : List (Option Connector))
  | groupNext (groups : List (Option Connector))
  deriving DecidableEq, Repr

/-- The state of the reading, and the definitions so far. -/
structure Prolog where
  state : PrologState
  definitions : Definitions
  deriving DecidableEq, Repr

/-- The fault of a token that the grammar does not allow. -/
def PrologToken.unexpected (t : Placed PrologToken) : Fault :=
  match t.item with
  | .parameterReference => ⟨.parameterReference, t.position⟩
  | .declaration _ _ => ⟨.misplacedDeclaration, t.position⟩
  | _ => ⟨.misplacedMarkup, t.position⟩

def isPublicIdChar (c : Char) : Bool :=
  c.isAlphanum || " \r\n-'()+,./:=?;!*#@$_%".toList.contains c

/-- Public identifiers admit a small set of characters. Where one is torn it has no character. -/
def checkPublicId (value : Input) : Except Fault Unit :=
  match value.find? fun p => p.item != .cut && !p.item.char?.any isPublicIdChar with
  | some p => .error ⟨.invalidPublicId, p.position⟩
  | none => .ok ()

def plainTypes : List String :=
  ["ID", "IDREF", "IDREFS", "ENTITY", "ENTITIES", "NMTOKEN", "NMTOKENS"]

namespace Prolog

def goTo (p : Prolog) (state : PrologState) : Except Fault Prolog := .ok { p with state := state }

def start (standalone : Bool) : Prolog := ⟨.beforeDoctype, .empty standalone⟩

/-- Takes over an entity that is complete. Parameter entities have no name here. -/
def withEntity (p : Prolog) (general : Option String) (body : EntityBody) : Prolog :=
  match general with
  | some name => { p with definitions := p.definitions.addEntity name body }
  | none => p

/-- Takes over an attribute, whose default is written as `value`. -/
def withAttribute (p : Prolog) (head : AttributeHead) (position : Position)
    (value : Option Input) : Except Fault Prolog :=
  if p.definitions.active then do
    let default ← match value with
      | some s => (attributeValue p.definitions [] position head.tokens s).map some
      | none => pure none
    let rule : AttributeRule := ⟨head.element, head.name, head.tokens, default⟩
    return { p with definitions := p.definitions.addAttribute rule }
  else .ok p

/-- Reads one declaration keyword of the internal subset. -/
def openDeclaration (p : Prolog) (t : Placed PrologToken) (keyword : String) :
    Except Fault Prolog :=
  if keyword = "ENTITY" then p.goTo .entityName
  else if keyword = "ATTLIST" then p.goTo .attributeElement
  else if keyword = "ELEMENT" then p.goTo .elementName
  else if keyword = "NOTATION" then p.goTo .notationName
  else .error (PrologToken.unexpected t)

/-- The value of a repeated entity is checked too, although the first declaration counts. -/
def readEntityValue (p : Prolog) (general : Option String) (value : Input) :
    Except Fault Prolog := do
  if p.definitions.active then
    let cs ← entityText value
    (p.withEntity general (.text cs)).goTo .declarationEnd
  else p.goTo .declarationEnd

def readAttributeType (p : Prolog) (t : Placed PrologToken) (element name type : String) :
    Except Fault Prolog :=
  if type = "CDATA" then p.goTo (.attributeDefault ⟨element, name, false⟩)
  else if type = "NOTATION" then p.goTo (.notationOpen ⟨element, name, true⟩)
  else if plainTypes.contains type then p.goTo (.attributeDefault ⟨element, name, true⟩)
  else .error (PrologToken.unexpected t)

/-- Closes the innermost group. -/
def closeGroup (p : Prolog) : List (Option Connector) → Except Fault Prolog
  | _ :: outer :: groups => p.goTo (.groupNext (outer :: groups))
  | _ => p.goTo .declarationEnd

/-- All parts of one group are separated alike. -/
def separate (p : Prolog) (t : Placed PrologToken) (c : Connector) :
    List (Option Connector) → Except Fault Prolog
  | [] => .error (PrologToken.unexpected t)
  | inner :: groups =>
    if inner = none ∨ inner = some c then p.goTo (.groupPart (some c :: groups))
    else .error (PrologToken.unexpected t)

/-- The effect of one token. Blanks have none. -/
def step (p : Prolog) (t : Placed PrologToken) : Except Fault Prolog :=
  let unexpected : Except Fault Prolog := .error (PrologToken.unexpected t)
  match p.state, t.item with
  | _, .space => .ok p
  | .beforeDoctype, .comment | .beforeDoctype, .instruction => .ok p
  | .afterDoctype, .comment | .afterDoctype, .instruction => .ok p
  | .beforeDoctype, .declOpen keyword =>
    if keyword = "DOCTYPE" then p.goTo .doctypeName else unexpected
  | .doctypeName, .name _ | .doctypeName, .colonName _ => p.goTo .doctypeIdentifier
  | .doctypeIdentifier, .openBracket | .doctypeSubset, .openBracket => p.goTo .subset
  | .doctypeIdentifier, .declClose | .doctypeSubset, .declClose | .doctypeEnd, .declClose =>
    p.goTo .afterDoctype
  | .doctypeIdentifier, .name word =>
    if word = "SYSTEM" then p.goTo .doctypeSystem
    else if word = "PUBLIC" then p.goTo .doctypePublic
    else unexpected
  | .doctypePublic, .literal value => do
    checkPublicId value
    Prolog.goTo { p with definitions := p.definitions.skipPart } .doctypeSystem
  | .doctypeSystem, .literal _ =>
    Prolog.goTo { p with definitions := p.definitions.skipPart } .doctypeSubset
  | .subset, .declOpen keyword => p.openDeclaration t keyword
  | .subset, .comment | .subset, .instruction => .ok p
  | .subset, .parameterReference => .ok { p with definitions := p.definitions.skipReference }
  | .subset, .closeBracket => p.goTo .doctypeEnd
  | .declarationEnd, .declClose => p.goTo .subset
  | .entityName, .percent => p.goTo .parameterName
  | .entityName, .name name => p.goTo (.entityValue (some name))
  | .parameterName, .name _ => p.goTo (.entityValue none)
  | .entityValue general, .name word =>
    if word = "SYSTEM" then p.goTo (.entitySystem general)
    else if word = "PUBLIC" then p.goTo (.entityPublic general)
    else unexpected
  | .entityValue general, .literal value => p.readEntityValue general value
  | .entityPublic general, .literal value => do
    checkPublicId value
    p.goTo (.entitySystem general)
  | .entitySystem general, .literal _ => p.goTo (.entityEnd general)
  | .entityEnd general, .declClose => (p.withEntity general .external).goTo .subset
  | .entityEnd (some general), .name word =>
    if word = "NDATA" then p.goTo (.entityNotation (some general)) else unexpected
  | .entityNotation general, .name _ => (p.withEntity general .unparsed).goTo .declarationEnd
  | .notationName, .name _ => p.goTo .notationIdentifier
  | .notationIdentifier, .name word =>
    if word = "SYSTEM" then p.goTo .notationSystem
    else if word = "PUBLIC" then p.goTo .notationPublic
    else unexpected
  | .notationPublic, .literal value => do
    checkPublicId value
    p.goTo .notationEnd
  | .notationSystem, .literal _ | .notationEnd, .literal _ => p.goTo .declarationEnd
  | .notationEnd, .declClose => p.goTo .subset
  | .attributeElement, .name element | .attributeElement, .colonName element =>
    p.goTo (.attributeName element)
  | .attributeName _, .declClose => p.goTo .subset
  | .attributeName element, .name name | .attributeName element, .colonName name =>
    p.goTo (.attributeType element name)
  | .attributeType element name, .name type => p.readAttributeType t element name type
  | .attributeType element name, .openParen => p.goTo (.enumValue ⟨element, name, true⟩)
  | .enumValue head, .name _ | .enumValue head, .colonName _ | .enumValue head, .nameToken =>
    p.goTo (.enumNext head)
  | .enumNext head, .closeParen none | .notationNext head, .closeParen none =>
    p.goTo (.attributeDefault head)
  | .enumNext head, .bar => p.goTo (.enumValue head)
  | .notationOpen head, .openParen | .notationNext head, .bar => p.goTo (.notationValue head)
  | .notationValue head, .name _ => p.goTo (.notationNext head)
  | .attributeDefault head, .hashName word =>
    if word = "IMPLIED" ∨ word = "REQUIRED" then do
      (← p.withAttribute head t.position none).goTo (.attributeName head.element)
    else if word = "FIXED" then p.goTo (.attributeFixed head)
    else unexpected
  | .attributeDefault head, .literal value | .attributeFixed head, .literal value => do
    (← p.withAttribute head t.position (some value)).goTo (.attributeName head.element)
  | .elementName, .name _ | .elementName, .colonName _ => p.goTo .elementContent
  | .elementContent, .name word =>
    if word = "EMPTY" ∨ word = "ANY" then p.goTo .declarationEnd else unexpected
  | .elementContent, .openParen => p.goTo .elementGroup
  | .elementGroup, .hashName word => if word = "PCDATA" then p.goTo .mixedEnd else unexpected
  | .elementGroup, .openParen => p.goTo (.groupPart [none, none])
  | .elementGroup, .name _ | .elementGroup, .colonName _ | .elementGroup, .markedName =>
    p.goTo (.groupNext [none])
  | .mixedEnd, .closeParen none | .mixedEnd, .closeParen (some '*') => p.goTo .declarationEnd
  | .mixedEnd, .bar | .mixedNext, .bar => p.goTo .mixedName
  | .mixedName, .name _ | .mixedName, .colonName _ => p.goTo .mixedNext
  | .mixedNext, .closeParen (some '*') => p.goTo .declarationEnd
  | .groupPart groups, .openParen => p.goTo (.groupPart (none :: groups))
  | .groupPart groups, .name _ | .groupPart groups, .colonName _ | .groupPart groups, .markedName =>
    p.goTo (.groupNext groups)
  | .groupNext groups, .closeParen _ => p.closeGroup groups
  | .groupNext groups, .comma => p.separate t .comma groups
  | .groupNext groups, .bar => p.separate t .bar groups
  | _, _ => unexpected

/-- Whether a root element may start. -/
def admitsRoot (p : Prolog) : Bool :=
  match p.state with
  | .beforeDoctype | .afterDoctype => true
  | _ => false

end Prolog

/-- Reads the tokens before a root element: the definitions, and the input from the root on. The
place `finish` is that of the end of the document. -/
def readProlog (finish : Position) (start : Prolog)
    (tokens : List (Placed PrologToken) × PrologEnd) : Except Fault (Definitions × Input) := do
  let p ← tokens.1.foldlM Prolog.step start
  match tokens.2 with
  | .fault fault => throw fault
  | .finished => throw ⟨.noElement, finish⟩
  | .root s =>
    if p.admitsRoot then return (p.definitions, s)
    else throw ⟨.misplacedMarkup, positionOf finish s⟩

end DeclGen.Xml
