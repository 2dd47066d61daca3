import DeclGen.Xml.Doctype
import DeclGen.Xml.Tree
import DeclGen.Xml.XmlDeclaration

/-!
Reading whole documents: choice of the encoding, what stands before the root element, the root
element, and what stands behind it.
-/

namespace DeclGen.Xml

/-- Why a document has no tree. -/
inductive DocumentError where
  | malformed (fault : Fault)
  | unknownEncoding (name : String)
  | multiByteEncoding
  | refusingEncoding (encoding : RefusingEncoding)
  deriving DecidableEq, Repr

/-- Whether the encoding that a document declares counts. -/
inductive Declared where
  | honoured
  | ignored
  deriving DecidableEq, Repr

/-- Symbols of a document from some place on, and the place of its end. -/
structure Source where
  input : Input
  finish : Finish
  deriving DecidableEq, Repr

/-- The document in an encoding, from the symbol with number `skip` on. -/
def Source.decode (encoding : Encoding) (bytes : List UInt8) (skip : Nat) : Source :=
  let (input, position) := placeFrom .start (encoding.decode bytes)
  ⟨input.drop skip, ⟨position, encoding.isTorn bytes⟩⟩

/-- The encoding to go on with behind an XML declaration, if it is another one. -/
def nextEncoding? (declared : Declared) (current : Encoding) (d : XmlDeclaration) :
    Except DocumentError (Option Encoding) :=
  match declared, d.encoding with
  | .honoured, some (name, position) =>
    match NamedEncoding.ofName current name with
    | .native encoding =>
      if encoding.width ≠ current.width ∨ encoding.width = 2 ∧ encoding ≠ current then
        .error (.malformed ⟨.incorrectEncoding, position⟩)
      else .ok (if encoding = current then none else some encoding)
    | .page encoding => .ok (some encoding)
    | .unfit => .error (.malformed ⟨.unknownEncoding, position⟩)
    | .multiByte => .error .multiByteEncoding
    | .refusing encoding => .error (.refusingEncoding encoding)
    | .unknown => .error (.unknownEncoding name)
  | _, _ => .ok none

/-- Tokens that can stand behind the root element. -/
def isOutside : PrologToken → Bool
  | .space | .comment | .instruction => true
  | _ => false

/-- What stands behind the root element: blanks, comments and instructions. -/
def checkEpilog (finish : Finish) (s : Input) : Except Fault Unit :=
  let (tokens, next) := prologTokens finish s
  match tokens.find? fun t => !isOutside t.item with
  | some t => .error ⟨.junkAfterRoot, t.position⟩
  | none =>
    match next with
    | .finished => .ok ()
    | .root s => .error ⟨.junkAfterRoot, positionOf ⟨0, 0⟩ s⟩
    | .fault fault => .error fault

/-- Reads a document from a place at which no XML declaration may stand any more. -/
def readBody (start : Prolog) (source : Source) : Except Fault Tree := do
  let finish := source.finish
  let (definitions, root) ← readProlog finish.position start (prologTokens finish source.input)
  let (tokens, rest) := documentContent finish root
  let tree ← buildTree definitions tokens
  checkEpilog finish rest
  match tree with
  | some tree => return tree
  | none => throw ⟨.noElement, finish.position⟩

/-- Reads a document whose first bytes chose an encoding and hold a byte order mark of `mark`
bytes, which is one symbol. -/
def readEncoded (declared : Declared) (encoding : Encoding) (mark : Nat) (bytes : List UInt8) :
    Except DocumentError Tree := do
  let markSymbols := if mark = 0 then 0 else 1
  let source := Source.decode encoding bytes markSymbols
  let malformed {α : Type} : Except Fault α → Except DocumentError α :=
    Except.mapError .malformed
  match source.input with
  | p :: rest =>
    match scanPrologToken (p :: rest) with
    | .token (.declaration body finish) left =>
      match readXmlDeclaration body finish with
      | .error position => throw (.malformed ⟨.malformedDeclaration, position⟩)
      | .ok d =>
        match ← nextEncoding? declared encoding d with
        | none => malformed (readBody (.start d.standalone) ⟨left, source.finish⟩)
        | some next =>
          let taken := source.input.length - left.length
          malformed (readBody (.start d.standalone)
            (.decode next bytes (mark + encoding.width * taken)))
    | _ => malformed (readBody (.start false) source)
  | [] => malformed (readBody (.start false) source)

/-- The tree of a document. -/
def readDocument (declared : Declared) (bytes : List UInt8) : Except DocumentError Tree :=
  match detect bytes with
  | .undecided => .error (.malformed ⟨.unclosedToken, Cursor.start.position⟩)
  | .found encoding mark => readEncoded declared encoding mark bytes

/-- The tree of a document that is given as characters. -/
def readText (text : String) : Except DocumentError Tree :=
  readDocument .ignored text.toUTF8.toList

end DeclGen.Xml
