import DeclGen.Xml.Encoding

/-!
The XML declaration: a version, then an encoding and a statement about being standalone, both
optional. A fault in it stands where the declaration goes wrong.
-/

namespace DeclGen.Xml

/-- A name and a quoted value, and where each of them starts. -/
structure PseudoAttribute where
  name : List Char
  namePosition : Position
  value : List Char
  valuePosition : Position
  deriving DecidableEq, Repr

/-- The characters of a name up to an equals sign or a blank. Only ASCII may stand there. -/
def takePseudoName : Input → List Char × Input
  | [] => ([], [])
  | p :: rest =>
    match p.item.char? with
    | some c =>
      if c = '=' ∨ isSpaceChar c ∨ 0x80 ≤ c.toNat then ([], p :: rest)
      else
        let (name, left) := takePseudoName rest
        (c :: name, left)
    | none => ([], p :: rest)

def isPseudoValueChar (c : Char) : Bool := c.isAlphanum || c == '.' || c == '-' || c == '_'

def takePseudoValue : Input → List Char × Input
  | [] => ([], [])
  | p :: rest =>
    match p.item.char? with
    | some c =>
      if isPseudoValueChar c then
        let (value, left) := takePseudoValue rest
        (c :: value, left)
      else ([], p :: rest)
    | none => ([], p :: rest)

/-- The next pseudo-attribute, if there is one before the end. An error is the place of the first
thing that does not fit. -/
def pseudoAttribute (finish : Position) (s : Input) :
    Except Position (Option PseudoAttribute × Input) := do
  let place := positionOf finish
  if s = [] then return (none, s)
  unless startsSpace s do throw (place s)
  let start := skipSpaces s
  if start = [] then return (none, s)
  let (name, rest) := takePseudoName start
  let equals := skipSpaces rest
  unless char? equals = some '=' do throw (place (if startsSpace rest then equals else rest))
  if name = [] then throw (place start)
  let opening := skipSpaces equals.tail
  match char? opening with
  | some quote =>
    unless quote = '"' ∨ quote = '\x27' do throw (place opening)
    let (value, rest) := takePseudoValue opening.tail
    unless char? rest = some quote do throw (place rest)
    return (some ⟨name, place start, value, place opening.tail⟩, rest.tail)
  | none => throw (place opening)

/-- What an XML declaration says. The version is not checked. -/
structure XmlDeclaration where
  encoding : Option (String × Position)
  standalone : Bool
  deriving DecidableEq, Repr

/-- The statement about being standalone, behind which nothing but blanks may stand. -/
def readStandalone (finish : Position) (encoding : Option (String × Position))
    (next : Option PseudoAttribute) (rest : Input) : Except Position XmlDeclaration := do
  match next with
  | none => return ⟨encoding, false⟩
  | some a =>
    unless a.name = "standalone".toList do throw a.namePosition
    unless a.value = "yes".toList ∨ a.value = "no".toList do throw a.valuePosition
    unless skipSpaces rest = [] do throw (positionOf finish (skipSpaces rest))
    return ⟨encoding, a.value = "yes".toList⟩

/-- Reads what stands between the target and the end of an XML declaration. -/
def readXmlDeclaration (s : Input) (finish : Position) : Except Position XmlDeclaration := do
  let (version, rest) ← pseudoAttribute finish s
  match version with
  | none => throw (positionOf finish s)
  | some version =>
    unless version.name = "version".toList do throw version.namePosition
    let (next, rest) ← pseudoAttribute finish rest
    match next with
    | none => return ⟨none, false⟩
    | some a =>
      if a.name = "encoding".toList then
        unless (a.value.head?).any Char.isAlpha do throw a.valuePosition
        let (next, rest) ← pseudoAttribute finish rest
        readStandalone finish (some (String.ofList a.value, a.valuePosition)) next rest
      else readStandalone finish none (some a) rest

end DeclGen.Xml
