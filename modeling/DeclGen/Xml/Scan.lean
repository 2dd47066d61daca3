import DeclGen.Xml.Symbol

/-!
Scanners for the markup that may stand in several places of a document: names with a colon,
references, comments and processing instructions. Each returns the input behind what it reads.
-/

namespace DeclGen.Xml

/-- A name with at most one colon, which needs a name on both sides. -/
def scanQualifiedName (s : Input) : Except Stop (List Char × Input) :=
  if startsName s then
    let (first, rest) := takeName s
    if char? rest = some ':' then
      if startsName rest.tail then
        let (second, rest) := takeName rest.tail
        .ok (first ++ ':' :: second, rest)
      else .error (stopAt rest.tail)
    else .ok (first, rest)
  else .error (stopAt s)

inductive Reference where
  | entity (name : String)
  /-- A character by its number, if the number is that of an allowed character. -/
  | character (c : Option Char)
  deriving DecidableEq, Repr

def hexValue? (c : Char) : Option Nat :=
  if c.isDigit then some (c.toNat - 48)
  else if 'a' ≤ c ∧ c ≤ 'f' then some (c.toNat - 87)
  else if 'A' ≤ c ∧ c ≤ 'F' then some (c.toNat - 55)
  else none

def numberDigit? (radix : Nat) (s : Input) : Option Nat :=
  ((char? s).bind hexValue?).filter (· < radix)

/-- The number that digits spell, and the input behind them. -/
def takeNumber (radix total : Nat) : Input → Nat × Input
  | [] => (total, [])
  | p :: rest =>
    match numberDigit? radix [p] with
    | some digit => takeNumber radix (total * radix + digit) rest
    | none => (total, p :: rest)

def allowedChar? (code : Nat) : Option Char :=
  if code < 0x110000 ∧ ¬ (0xD800 ≤ code ∧ code < 0xE000) then
    some (Char.ofNat code) |>.filter isAllowed
  else none

/-- A character number behind its mark, up to the semicolon. -/
def scanNumber (radix : Nat) (s : Input) : Except Stop (Reference × Input) :=
  if (numberDigit? radix s).isSome then
    let (code, rest) := takeNumber radix 0 s
    if char? rest = some ';' then .ok (.character (allowedChar? code), rest.tail)
    else .error (stopStrictlyAt rest)
  else .error (stopStrictlyAt s)

/-- A reference behind its ampersand. -/
def scanReference (s : Input) : Except Stop (Reference × Input) :=
  if char? s = some '#' then
    if char? s.tail = some 'x' then scanNumber 16 s.tail.tail else scanNumber 10 s.tail
  else if startsName s then
    let (name, rest) := takeName s
    if char? rest = some ';' then .ok (.entity (String.ofList name), rest.tail)
    else .error (stopAt rest)
  else .error (stopAt s)

/-- The characters that need no declaration to be referred to by name. -/
def predefined? (name : String) : Option Char :=
  [("lt", '<'), ("gt", '>'), ("amp", '&'), ("quot", '"'), ("apos", '\x27')].lookup name

/-- The rest of a comment. Two hyphens must be followed by its end. -/
def scanCommentBody : Input → Except Stop Input
  | [] => .error .ended
  | p :: rest =>
    match p.item with
    | .char c _ _ =>
      if c = '-' ∧ char? rest = some '-' then
        if char? rest.tail = some '>' then .ok rest.tail.tail
        else .error (stopStrictlyAt rest.tail)
      else scanCommentBody rest
    | _ => .error (stopAt (p :: rest))

/-- A comment behind its first hyphen. -/
def scanComment (s : Input) : Except Stop Input :=
  if char? s = some '-' then scanCommentBody s.tail else .error (stopStrictlyAt s)

/-- The rest of an instruction: what stands before its end, where it ends, and the input behind. -/
def scanInstructionBody : Input → Except Stop (Input × Position × Input)
  | [] => .error .ended
  | p :: rest =>
    match p.item with
    | .char c _ _ =>
      if c = '?' ∧ char? rest = some '>' then .ok ([], p.position, rest.tail)
      else (scanInstructionBody rest).map fun (body, left) => (p :: body, left)
    | _ => .error (stopAt (p :: rest))

inductive Instruction where
  | processing
  /-- An XML declaration: what stands behind its target, and where it ends. -/
  | declaration (body : Input) (finish : Position)
  deriving DecidableEq, Repr

/-- Targets spelled like that of the XML declaration, but not as it is, are reserved. -/
def isReservedTarget (target : List Char) : Bool :=
  target.map Char.toLower == ['x', 'm', 'l'] && target != ['x', 'm', 'l']

def instructionOf (target : List Char) (body : Input) (finish : Position) : Instruction :=
  if target = ['x', 'm', 'l'] then .declaration body finish else .processing

/-- An instruction behind its opening question mark. -/
def scanInstruction (s : Input) : Except Stop (Instruction × Input) :=
  if startsName s then
    let (target, rest) := takeName s
    match rest with
    | [] => .error .ended
    | p :: more =>
      if p.item.char?.any isSpaceChar && !isReservedTarget target then
        (scanInstructionBody more).map fun (body, finish, left) =>
          (instructionOf target (p :: body) finish, left)
      else if p.item.char? == some '?' && !isReservedTarget target then
        if char? more = some '>' then .ok (instructionOf target [] p.position, more.tail)
        else .error (stopStrictlyAt more)
      else .error (stopAt rest)
  else .error (stopAt s)

end DeclGen.Xml
