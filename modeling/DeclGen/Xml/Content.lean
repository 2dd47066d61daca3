import DeclGen.Xml.Scan

/-!
Tokens of element content: tags, text and references. Comments and instructions leave no token.
`documentContent` reads a root element, `entityContent` the text of an entity.
-/

namespace DeclGen.Xml

/-- An attribute as it is written. -/
structure RawAttribute where
  name : String
  position : Position
  value : Input
  deriving DecidableEq, Repr

structure StartTag where
  name : String
  attributes : List RawAttribute
  /-- The tag also ends its element. -/
  isEmpty : Bool
  deriving DecidableEq, Repr

inductive ContentToken where
  | openTag (tag : StartTag)
  /-- An end tag, and where its name stands. -/
  | closeTag (name : String) (position : Position)
  | text (cs : List Char)
  | entity (name : String)
  | fault (fault : Fault)
  deriving DecidableEq, Repr

/-- The value of an attribute behind its opening quote, and the input behind the closing one.
References in it are complete. -/
def scanValue (quote : Char) : Input → Except Stop (Input × Input)
  | [] => .error .ended
  | p :: rest =>
    match p.item with
    | .char c _ _ =>
      if c = quote then .ok ([], rest)
      else if c = '<' then .error (.invalid p.position)
      else if c = '&' then
        match scanReference rest with
        | .ok _ => (scanValue quote rest).map fun (value, left) => (p :: value, left)
        | .error stop => .error stop
      else (scanValue quote rest).map fun (value, left) => (p :: value, left)
    | _ => .error (stopAt (p :: rest))

/-- One attribute, and the input behind its value, which begins with a blank or ends the tag. -/
def scanAttribute (s : Input) : Except Stop (RawAttribute × Input) := do
  let (name, rest) ← scanQualifiedName s
  let equals := skipSpaces rest
  unless char? equals = some '=' do
    throw (if startsSpace rest then stopStrictlyAt equals else stopAt rest)
  let opening := skipSpaces equals.tail
  match char? opening with
  | some quote =>
    unless quote = '"' ∨ quote = '\x27' do throw (stopStrictlyAt opening)
    let (value, rest) ← scanValue quote opening.tail
    unless startsSpace rest ∨ (char? rest).any ['/', '>'].contains do throw (stopStrictlyAt rest)
    return (⟨String.ofList name, positionOf ⟨0, 0⟩ s, value⟩, rest)
  | none => throw (stopStrictlyAt opening)

/-- The attributes of a start tag, at most `limit`, whether the tag is empty, and the input behind
it. -/
def scanAttributes (limit : Nat) (s : Input) : Except Stop (List RawAttribute × Bool × Input) :=
  let next := skipSpaces s
  match char? next with
  | some '>' => .ok ([], false, next.tail)
  | some '/' =>
    if char? next.tail = some '>' then .ok ([], true, next.tail.tail)
    else .error (stopStrictlyAt next.tail)
  | _ =>
    match limit with
    | 0 => .error .ended
    | limit + 1 =>
      if startsSpace s && startsName next then do
        let (first, rest) ← scanAttribute next
        let (attributes, isEmpty, rest) ← scanAttributes limit rest
        return (first :: attributes, isEmpty, rest)
      else .error (stopAt next)

/-- A start tag behind its opening bracket. -/
def scanStartTag (limit : Nat) (s : Input) : Except Stop (StartTag × Input) := do
  let (name, rest) ← scanQualifiedName s
  let (attributes, isEmpty, rest) ← scanAttributes limit rest
  return (⟨String.ofList name, attributes, isEmpty⟩, rest)

/-- The name in an end tag, where colons are free. -/
def takeClosingName : Input → List Char × Input
  | [] => ([], [])
  | p :: rest =>
    if p.item.role ≠ .none ∨ p.item.char? = some ':' then
      let (name, left) := takeClosingName rest
      (p.item.char?.toList ++ name, left)
    else ([], p :: rest)

/-- An end tag behind its slash. -/
def scanEndTag (s : Input) : Except Stop (String × Input) :=
  if startsName s then
    let (name, rest) := takeClosingName s
    let next := skipSpaces rest
    if char? next = some '>' then .ok (String.ofList name, next.tail)
    else .error (if startsSpace rest then stopStrictlyAt next else stopAt rest)
  else .error (stopAt s)

/-- The rest of a section of literal text, with line ends as line feeds. A section that does not
end is faulty where the input ends, or where its last possible end starts. -/
def scanCdata (finish : Position) : Input → Except Fault (List Char × Input)
  | [] => .error ⟨.unclosedCdata, finish⟩
  | [p] =>
    match p.item with
    | .char c _ _ => .error ⟨.unclosedCdata, if c = ']' ∨ c = '\r' then p.position else finish⟩
    | _ => .error ((stopAt [p]).fault p.position)
  | p :: q :: rest =>
    match p.item with
    | .char c _ _ =>
      if c = ']' ∧ q.item.char? = some ']' ∧ char? rest = some '>' then .ok ([], rest.tail)
      else if c = ']' ∧ q.item.char? = some ']' ∧ rest = [] then
        .error ⟨.unclosedCdata, p.position⟩
      else if c = '\r' ∧ q.item.char? = some '\n' then scanCdata finish (q :: rest)
      else
        (scanCdata finish (q :: rest)).map fun (cs, left) =>
          ((if c = '\r' then '\n' else c) :: cs, left)
    | _ => .error ((stopAt (p :: q :: rest)).fault p.position)

/-- The mark of a section of literal text behind its first bracket. -/
def scanCdataMark (s : Input) : Except Stop Input :=
  if (s.take 6).length < 6 then .error .ended
  else
    match (s.zip "CDATA[".toList).find? fun (p, c) => p.item.char? ≠ some c with
    | some (p, _) => .error (.invalid p.position)
    | none => .ok (s.drop 6)

/-- Characters that stand for themselves, up to one that needs a look. -/
def takeText : Input → List Char × Input
  | [] => ([], [])
  | p :: rest =>
    match p.item.char? with
    | some c =>
      if ['<', '&', '\r', ']'].contains c then ([], p :: rest)
      else
        let (cs, left) := takeText rest
        (c :: cs, left)
    | none => ([], p :: rest)

/-- What one scan of content yields: a token or nothing, and the input behind. -/
abbrev ContentStep := Except Fault (Option ContentToken × Input)

def ContentStep.ofScan {α : Type} (start : Position) (token : α → Option ContentToken) :
    Except Stop (α × Input) → ContentStep
  | .ok (a, rest) => .ok (token a, rest)
  | .error stop => .error (stop.fault start)

/-- Markup behind an exclamation mark. -/
def scanMarked (finish start : Position) (s : Input) : ContentStep :=
  if char? s = some '-' then
    match scanComment s.tail with
    | .ok rest => .ok (none, rest)
    | .error stop => .error (stop.fault start)
  else if char? s = some '[' then
    match scanCdataMark s.tail with
    | .ok rest => (scanCdata finish rest).map fun (cs, left) => (some (.text cs), left)
    | .error stop => .error (stop.fault start)
  else .error ((stopStrictlyAt s).fault start)

/-- Markup behind an opening bracket. -/
def scanMarkup (limit : Nat) (finish start : Position) (s : Input) : ContentStep :=
  match char? s with
  | some '!' => scanMarked finish start s.tail
  | some '?' =>
    match scanInstruction s.tail with
    | .ok (.processing, rest) => .ok (none, rest)
    | .ok (.declaration _ _, _) => .error ⟨.misplacedDeclaration, start⟩
    | .error stop => .error (stop.fault start)
  | some '/' =>
    .ofScan start (fun name => some (.closeTag name (positionOf start s.tail)))
      (scanEndTag s.tail)
  | _ => .ofScan start (fun tag => some (.openTag tag)) (scanStartTag limit s)

/-- A reference to an entity or a character, behind the ampersand. -/
def scanContentReference (start : Position) (s : Input) : ContentStep :=
  match scanReference s with
  | .ok (.entity name, rest) =>
    match predefined? name with
    | some c => .ok (some (.text [c]), rest)
    | none => .ok (some (.entity name), rest)
  | .ok (.character (some c), rest) => .ok (some (.text [c]), rest)
  | .ok (.character none, _) => .error ⟨.invalidCharacterNumber, start⟩
  | .error stop => .error (stop.fault start)

/-- One token from the input `p :: rest`. -/
def scanContent (limit : Nat) (finish : Position) (p : Placed Symbol) (rest : Input) :
    ContentStep :=
  match p.item with
  | .char c _ _ =>
    if c = '<' then scanMarkup limit finish p.position rest
    else if c = '&' then scanContentReference p.position rest
    else if c = '\r' then
      .ok (some (.text ['\n']), if char? rest = some '\n' then rest.tail else rest)
    else if c = ']' then
      match rest with
      | q :: r :: _ =>
        if q.item.char? = some ']' ∧ r.item.char? = some '>' then
          .error ⟨.invalidToken, r.position⟩
        else .ok (some (.text [c]), rest)
      | _ => .ok (some (.text [c]), rest)
    else
      let (cs, left) := takeText rest
      .ok (some (.text (c :: cs)), left)
  | _ => .error ((stopAt (p :: rest)).fault p.position)

/-- The number of open elements behind a token. -/
def ContentToken.depthAfter (depth : Nat) : ContentToken → Nat
  | .openTag tag => if tag.isEmpty then depth else depth + 1
  | .closeTag _ _ => depth - 1
  | _ => depth

/-- Whether a token ends the root element, where `depth` elements are open before it. -/
def ContentToken.endsRoot (depth : Nat) : ContentToken → Bool
  | .openTag tag => tag.isEmpty && depth == 0
  | .closeTag _ _ => depth ≤ 1
  | _ => false

/-- Whether closing brackets, of which `p` is the first, run to the end of the document. They could
be the beginning of what must not stand in text. -/
def isTrailingBracket (p : Placed Symbol) (rest : Input) : Bool :=
  p.item.char? == some ']' && (rest.isEmpty || (rest.map (·.item.char?) == [some ']']))

/-- Tokens up to the end of the root element, and the input behind it. Text that runs to the end of
the document ends before an element is closed. -/
def documentContentUpTo (limit depth : Nat) (finish : Finish) (s : Input) :
    List (Placed ContentToken) × Input :=
  match limit, s with
  | 0, _ => ([⟨.fault finish.fault, finish.position⟩], [])
  | _, [] => ([⟨.fault finish.fault, finish.position⟩], [])
  | limit + 1, p :: rest =>
    if rest = [] ∧ p.item.char? = some '\r' then
      ([⟨.fault ⟨.noElement, p.position⟩, p.position⟩], [])
    else if isTrailingBracket p rest then
      ([⟨.fault ⟨.noElement, finish.position⟩, p.position⟩], [])
    else
      match scanContent limit finish.position p rest with
      | .error fault => ([⟨.fault fault, p.position⟩], [])
      | .ok (none, left) => documentContentUpTo limit depth finish left
      | .ok (some token, left) =>
        if token.endsRoot depth then ([⟨token, p.position⟩], left)
        else
          let (tokens, left) := documentContentUpTo limit (token.depthAfter depth) finish left
          (⟨token, p.position⟩ :: tokens, left)

def documentContent (finish : Finish) (s : Input) : List (Placed ContentToken) × Input :=
  documentContentUpTo s.length 0 finish s

def entityContentUpTo (limit : Nat) (finish : Position) (s : Input) : List (Placed ContentToken) :=
  match limit, s with
  | 0, _ => []
  | _, [] => []
  | limit + 1, p :: rest =>
    match scanContent limit finish p rest with
    | .error fault => [⟨.fault fault, p.position⟩]
    | .ok (none, left) => entityContentUpTo limit finish left
    | .ok (some token, left) => ⟨token, p.position⟩ :: entityContentUpTo limit finish left

/-- All tokens of an entity's text that is used at `position`. -/
def entityContent (position : Position) (cs : List Char) : List (Placed ContentToken) :=
  entityContentUpTo cs.length position (placeAt position cs)

end DeclGen.Xml
