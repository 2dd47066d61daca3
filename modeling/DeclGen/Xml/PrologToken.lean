import DeclGen.Xml.Scan

/-!
Tokens outside the root element: markup declarations and their parts, literals, names, comments and
instructions. `prologTokens` reads them up to the root element.
-/

namespace DeclGen.Xml

inductive PrologToken where
  | space
  | comment
  | instruction
  | declaration (body : Input) (finish : Position)
  | declOpen (keyword : String)
  | declClose
  | openBracket
  | closeBracket
  | sectionOpen
  | sectionClose
  | openParen
  /-- A closing parenthesis and the repetition mark behind it. -/
  | closeParen (mark : Option Char)
  | bar
  | comma
  | percent
  | parameterReference
  | hashName (name : String)
  | literal (value : Input)
  | name (name : String)
  /-- A name with a colon in it. -/
  | colonName (name : String)
  | nameToken
  /-- A name and the repetition mark behind it. -/
  | markedName
  deriving DecidableEq, Repr

/-- The token that takes half a unit at the end of the document with it, if only what follows shows
that the token has ended. A name becomes another one so; the value of a literal goes on, torn, at
the place of the closing quote. -/
def PrologToken.withHalf? (finish : Position) : PrologToken → Option PrologToken
  | .closeBracket => some .closeBracket
  | .closeParen none => some (.closeParen none)
  | .hashName word => some (.hashName (word.push '\uFFFD'))
  | .name word => some (.name (word.push '\uFFFD'))
  | .colonName word => some (.colonName (word.push '\uFFFD'))
  | .nameToken => some .nameToken
  | .literal value => some (.literal (value ++ [⟨.cut, ⟨finish.line, finish.column - 1⟩⟩]))
  | _ => none

/-- What the scanning of one token yields. -/
inductive PrologStep where
  | token (token : PrologToken) (rest : Input)
  /-- The root element starts here. -/
  | root
  | stop (reason : Stop)
  deriving DecidableEq, Repr

def PrologStep.ofInput (token : PrologToken) (result : Except Stop Input) : PrologStep :=
  match result with
  | Except.ok rest => PrologStep.token token rest
  | Except.error reason => PrologStep.stop reason

/-- The rest of a literal: its value, and the input behind the closing quote. -/
def scanLiteral (quote : Char) : Input → Except Stop (Input × Input)
  | [] => .error .ended
  | p :: rest =>
    match p.item with
    | .char c _ _ =>
      if c = quote then
        if rest = [] ∨ startsSpace rest ∨ (char? rest).any ['>', '%', '['].contains then
          .ok ([], rest)
        else .error (stopStrictlyAt rest)
      else (scanLiteral quote rest).map fun (value, left) => (p :: value, left)
    | _ => .error (stopAt (p :: rest))

/-- The keyword of a declaration, which ends at a blank or before a parameter reference. -/
def scanKeyword : Input → Except Stop (List Char × Input)
  | [] => .error .ended
  | p :: rest =>
    match p.item with
    | .char c _ _ =>
      if p.item.isLetter then
        (scanKeyword rest).map fun (keyword, left) => (c :: keyword, left)
      else if isSpaceChar c then .ok ([], p :: rest)
      else if c = '%' then
        if rest = [] then .error .ended
        else if startsSpace rest ∨ char? rest = some '%' then .error (.invalid p.position)
        else .ok ([], p :: rest)
      else .error (.invalid p.position)
    | _ => .error (stopStrictlyAt (p :: rest))

/-- A declaration, a comment or a section behind its opening exclamation mark. -/
def scanDeclaration (s : Input) : PrologStep :=
  match char? s with
  | some '-' => .ofInput .comment (scanComment s.tail)
  | some '[' => .token .sectionOpen s.tail
  | _ =>
    if s.head?.any (·.item.isLetter) then
      match scanKeyword s with
      | .ok (keyword, rest) => .token (.declOpen (String.ofList keyword)) rest
      | .error reason => .stop reason
    else .stop (stopStrictlyAt s)

/-- A percent sign that stands alone, or a parameter reference. -/
def scanPercent (s : Input) : PrologStep :=
  if startsName s then
    let (_, rest) := takeName s
    if char? rest = some ';' then .token .parameterReference rest.tail else .stop (stopAt rest)
  else if startsSpace s ∨ char? s = some '%' then .token .percent s
  else .stop (stopAt s)

def scanHashName (s : Input) : PrologStep :=
  if startsName s then
    let (name, rest) := takeName s
    if rest = [] ∨ startsSpace rest ∨ (char? rest).any [')', '>', '%', '|'].contains then
      .token (.hashName (String.ofList name)) rest
    else .stop (stopAt rest)
  else .stop (stopAt s)

def scanCloseParen (s : Input) : PrologStep :=
  match char? s with
  | some c =>
    if ['*', '?', '+'].contains c then .token (.closeParen (some c)) s.tail
    else if isSpaceChar c || ['>', ',', '|', ')'].contains c then .token (.closeParen none) s
    else .stop (stopStrictlyAt s)
  | none => if s = [] then .token (.closeParen none) s else .stop (stopStrictlyAt s)

/-- The kinds of names outside the root element. -/
inductive NameKind where
  | plain
  | colon
  | token
  deriving DecidableEq, Repr

def NameKind.prologToken (name : List Char) : NameKind → PrologToken
  | .plain => .name (String.ofList name)
  | .colon => .colonName (String.ofList name)
  | .token => .nameToken

/-- The kind of a name behind one more colon. -/
def NameKind.afterColon (kind : NameKind) (rest : Input) : NameKind :=
  match kind with
  | .plain => if rest.head?.any fun p => p.item.role != .none then .colon else .token
  | _ => .token

/-- The rest of a name, with the reversed characters before it. -/
def scanPrologName (kind : NameKind) (before : List Char) : Input → PrologStep
  | [] => .token (kind.prologToken before.reverse) []
  | p :: rest =>
    match p.item with
    | .char c role _ =>
      if role ≠ .none then scanPrologName kind (c :: before) rest
      else if c = ':' then
        if kind = .plain ∧ (rest = [] ∨ stopAt rest = .cut) then .stop (stopAt rest)
        else scanPrologName (kind.afterColon rest) (c :: before) rest
      else if ['+', '*', '?'].contains c then
        if kind = .token then .stop (.invalid p.position) else .token .markedName rest
      else if isSpaceChar c || ['>', ')', ',', '|', '[', '%'].contains c then
        .token (kind.prologToken before.reverse) (p :: rest)
      else .stop (.invalid p.position)
    | _ => .stop (stopAt (p :: rest))

def scanAngle (s : Input) : PrologStep :=
  match char? s with
  | some '!' => scanDeclaration s.tail
  | some '?' =>
    match scanInstruction s.tail with
    | .ok (.processing, rest) => .token .instruction rest
    | .ok (.declaration body finish, rest) => .token (.declaration body finish) rest
    | .error reason => .stop reason
  | _ =>
    if s.head?.any fun p => p.item.isLetter || p.item.isWide then .root
    else .stop (stopStrictlyAt s)

/-- One token from an input that is not empty. -/
def scanPrologToken (s : Input) : PrologStep :=
  match s with
  | [] => .stop .ended
  | p :: rest =>
    match p.item with
    | .char c role _ =>
      if isSpaceChar c then .token .space (skipSpaces rest)
      else if c = '"' ∨ c = '\x27' then
        match scanLiteral c rest with
        | .ok (value, left) => .token (.literal value) left
        | .error reason => .stop reason
      else if c = '<' then scanAngle rest
      else if c = '%' then scanPercent rest
      else if c = ',' then .token .comma rest
      else if c = '[' then .token .openBracket rest
      else if c = ']' then
        if char? rest = some ']' ∧ rest.tail = [] then .stop .ended
        else if char? rest = some ']' ∧ char? rest.tail = some '>' then
          .token .sectionClose rest.tail.tail
        else .token .closeBracket rest
      else if c = '(' then .token .openParen rest
      else if c = ')' then scanCloseParen rest
      else if c = '|' then .token .bar rest
      else if c = '>' then .token .declClose rest
      else if c = '#' then scanHashName rest
      else if role = .start then scanPrologName .plain [c] rest
      else if role = .part ∨ c = ':' then scanPrologName .token [c] rest
      else .stop (.invalid p.position)
    | _ => .stop (stopAt s)

/-- What follows the tokens outside the root element. -/
inductive PrologEnd where
  | finished
  | root (s : Input)
  | fault (fault : Fault)
  deriving DecidableEq, Repr

/-- At most `limit` tokens of an input, and what follows them. Half a unit at the end is a fault
unless the last token takes it. -/
def prologTokensUpTo (finish : Finish) (limit : Nat) (s : Input) :
    List (Placed PrologToken) × PrologEnd :=
  match s, limit with
  | [], _ => ([], if finish.torn then .fault finish.fault else .finished)
  | _, 0 => ([], .finished)
  | p :: rest, limit + 1 =>
    match scanPrologToken (p :: rest) with
    | .token token left =>
      match if left = [] ∧ finish.torn then token.withHalf? finish.position else none with
      | some token => ([⟨token, p.position⟩], .finished)
      | none =>
        let (tokens, next) := prologTokensUpTo finish limit left
        (⟨token, p.position⟩ :: tokens, next)
    | .root => ([], .root (p :: rest))
    | .stop reason => ([], .fault (reason.fault p.position))

/-- All tokens of an input before a root element. Each token takes a symbol, so the number of
symbols is limit enough. -/
def prologTokens (finish : Finish) (s : Input) : List (Placed PrologToken) × PrologEnd :=
  prologTokensUpTo finish s.length s

end DeclGen.Xml
