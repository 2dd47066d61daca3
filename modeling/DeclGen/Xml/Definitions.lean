import DeclGen.Xml.Scan

/-!
What a document type declaration defines: entities, and defaults and types of attributes. Also the
texts that these definitions give: entity texts and attribute values. No limit is set to the length
that the entities in a value may add up to.
-/

namespace DeclGen.Xml

inductive EntityBody where
  | text (cs : List Char)
  | external
  | unparsed
  deriving DecidableEq, Repr

/-- A declared attribute of an element. -/
structure AttributeRule where
  element : String
  name : String
  /-- Whether the value is a list of tokens, in which blanks only separate. -/
  tokens : Bool
  default : Option (List Char)
  deriving DecidableEq, Repr

structure Definitions where
  entities : List (String × EntityBody)
  attributes : List AttributeRule
  /-- Parts of the document type were not read, so references may be to entities unknown here. -/
  incomplete : Bool
  /-- The document declares that nothing outside it matters. -/
  standalone : Bool
  /-- Declarations are still taken over. -/
  active : Bool
  deriving DecidableEq, Repr

namespace Definitions

def empty (standalone : Bool) : Definitions := ⟨[], [], false, standalone, true⟩

/-- Whether each referenced entity must be declared. -/
def isStrict (d : Definitions) : Bool := !d.incomplete || d.standalone

/-- The first declaration of an entity counts, and predefined entities keep their meaning. -/
def addEntity (d : Definitions) (name : String) (body : EntityBody) : Definitions :=
  if !d.active || (predefined? name).isSome || (d.entities.lookup name).isSome then d
  else { d with entities := d.entities ++ [(name, body)] }

/-- The first declaration of an attribute counts. -/
def addAttribute (d : Definitions) (rule : AttributeRule) : Definitions :=
  if !d.active ||
      d.attributes.any fun r => r.element == rule.element && r.name == rule.name then d
  else { d with attributes := d.attributes ++ [rule] }

/-- A part of the document type that is not read. -/
def skipPart (d : Definitions) : Definitions := { d with incomplete := true }

/-- A reference to declarations that are not read ends the taking over of declarations, unless the
document is standalone. -/
def skipReference (d : Definitions) : Definitions :=
  { d with incomplete := true, active := d.standalone }

def rulesFor (d : Definitions) (element : String) : List AttributeRule :=
  d.attributes.filter (·.element == element)

end Definitions

/-- One piece of the text between the quotes of an entity declaration. -/
inductive EntityPiece where
  | chars (cs : List Char)
  | fault (fault : Fault)
  deriving DecidableEq, Repr

/-- The first piece of an entity text, and the input behind it. Numbers of characters are replaced,
references to entities stay. -/
def scanEntityPiece (p : Placed Symbol) (rest : Input) : EntityPiece × Input :=
  match p.item.char? with
  | some '\n' => (.chars ['\n'], rest)
  | some '\r' => (.chars ['\n'], if char? rest = some '\n' then rest.tail else rest)
  | some '&' =>
    match scanReference rest with
    | .ok (.entity name, left) => (.chars ('&' :: name.toList ++ [';']), left)
    | .ok (.character (some c), left) => (.chars [c], left)
    | .ok (.character none, left) => (.fault ⟨.invalidCharacterNumber, p.position⟩, left)
    | .error (.invalid position) => (.fault ⟨.invalidToken, position⟩, rest)
    | .error _ => (.fault ⟨.invalidToken, p.position⟩, rest)
  | some '%' =>
    if startsName rest then
      let (_, left) := takeName rest
      if char? left = some ';' then (.fault ⟨.parameterReference, p.position⟩, rest)
      else (.fault ⟨.invalidToken, positionOf p.position left⟩, rest)
    else (.fault ⟨.invalidToken, positionOf p.position rest⟩, rest)
  | some c => (.chars [c], rest)
  | none => (.fault ⟨.invalidToken, p.position⟩, rest)

def entityTextUpTo (limit : Nat) (s : Input) : Except Fault (List Char) :=
  match limit, s with
  | 0, _ => .ok []
  | _, [] => .ok []
  | limit + 1, p :: rest =>
    match scanEntityPiece p rest with
    | (.chars cs, left) => (entityTextUpTo limit left).map (cs ++ ·)
    | (.fault fault, _) => .error fault

/-- The text that an entity declaration gives by the literal `s`. -/
def entityText (s : Input) : Except Fault (List Char) := entityTextUpTo s.length s

/-- One piece of a written attribute value. -/
inductive ValuePiece where
  | char (c : Char)
  | number (c : Option Char)
  | entity (name : String)
  | fault (fault : Fault)
  deriving DecidableEq, Repr

/-- The first piece of a value, and the input behind it. Every blank, and every line end, is one
space. -/
def scanValuePiece (p : Placed Symbol) (rest : Input) : ValuePiece × Input :=
  match p.item.char? with
  | some '\r' => (.char ' ', if char? rest = some '\n' then rest.tail else rest)
  | some '<' => (.fault ⟨.invalidToken, p.position⟩, rest)
  | some '&' =>
    match scanReference rest with
    | .ok (.entity name, left) => (.entity name, left)
    | .ok (.character c, left) => (.number c, left)
    | .error (.invalid position) => (.fault ⟨.invalidToken, position⟩, rest)
    | .error _ => (.fault ⟨.invalidToken, p.position⟩, rest)
  | some c => (.char (if isSpaceChar c then ' ' else c), rest)
  | none => (.fault ⟨.invalidToken, p.position⟩, rest)

def valuePiecesUpTo (limit : Nat) (s : Input) : List (Placed ValuePiece) :=
  match limit, s with
  | 0, _ => []
  | _, [] => []
  | limit + 1, p :: rest =>
    let (piece, left) := scanValuePiece p rest
    ⟨piece, p.position⟩ :: valuePiecesUpTo limit left

def valuePieces (s : Input) : List (Placed ValuePiece) := valuePiecesUpTo s.length s

/-- The text of an entity that is referred to from a value, placed at `owner`. -/
def valueOfEntity (d : Definitions) (opened : List String) (owner position : Position)
    (name : String) : Except Fault Input :=
  match d.entities.lookup name with
  | none => if d.isStrict then .error ⟨.undefinedEntity, owner⟩ else .ok []
  | some body =>
    if opened.contains name then .error ⟨.recursiveEntity, owner⟩
    else
      match body with
      | .unparsed => .error ⟨.binaryEntity, position⟩
      | .external => .error ⟨.externalEntityInAttribute, position⟩
      | .text cs => .ok (placeAt owner cs)

/-- The characters of a piece, where `expand` gives those of an entity's text. -/
def pieceText (d : Definitions) (opened : List String) (owner : Position)
    (expand : List String → Input → Except Fault (List Char)) (piece : Placed ValuePiece) :
    Except Fault (List Char) :=
  match piece.item with
  | .char c => .ok [c]
  | .number (some c) => .ok [c]
  | .number none => .error ⟨.invalidCharacterNumber, piece.position⟩
  | .fault fault => .error fault
  | .entity name =>
    match predefined? name with
    | some c => .ok [c]
    | none => (valueOfEntity d opened owner piece.position name).bind (expand (name :: opened))

/-- The value that `s` stands for, where entities may be nested `depth` deep. -/
def expandValue (d : Definitions) (owner : Position) (depth : Nat) (opened : List String)
    (s : Input) : Except Fault (List Char) :=
  match depth with
  | 0 => .error ⟨.recursiveEntity, owner⟩
  | depth + 1 =>
    ((valuePieces s).mapM (pieceText d opened owner (expandValue d owner depth))).map List.flatten

/-- Single spaces between the tokens of a value, and none around them. -/
def collapseSpaces (cs : List Char) : List Char :=
  [' '].intercalate ((cs.splitOn ' ').filter (· ≠ []))

/-- The value of an attribute. Faults without a place of their own stand at its owner, the tag or
the declaration. Entities that are open around the owner may not be used again. The depth is that of
the value itself, of every declared entity once, and of one that is not declared. -/
def attributeValue (d : Definitions) (opened : List String) (owner : Position) (tokens : Bool)
    (s : Input) : Except Fault (List Char) :=
  (expandValue d owner (d.entities.length + 2) opened s).map fun cs =>
    if tokens then collapseSpaces cs else cs

end DeclGen.Xml
