import DeclGen.Xml.Fault
import DeclGen.Xml.Name

/-!
Symbols of a document, each at its place. A symbol is a character as its encoding shows it, or marks
units that are none. Scanners take an input, a list of placed symbols, and say why they stop.
-/

namespace DeclGen.Xml

inductive Symbol where
  /-- A character, its role in names, and whether its first unit leaves that role open. -/
  | char (c : Char) (role : NameRole) (wide : Bool)
  /-- Units that encode no allowed character, and whether the first of them leaves that open. -/
  | invalid (wide : Bool)
  /-- The first units of a character in which the document ends. -/
  | cut
  deriving DecidableEq, Repr

structure Placed (α : Type) where
  item : α
  position : Position
  deriving DecidableEq, Repr

abbrev Input := List (Placed Symbol)

/-- Characters that a document may hold. -/
def isAllowed (c : Char) : Bool :=
  if c.toNat < 0x20 then c == '\t' || c == '\n' || c == '\r'
  else c.toNat != 0xFFFE && c.toNat != 0xFFFF

/-- How an encoding shows characters: their roles in names, and which roles the first unit of a
character leaves open. -/
structure Alphabet where
  role : Char → NameRole
  isWide : Char → Bool

namespace Alphabet

def utf8 : Alphabet := ⟨NameRole.of, fun c => 0x80 ≤ c.toNat⟩

def twoByte : Alphabet := ⟨NameRole.ofLatin, fun c => 0x100 ≤ c.toNat && isAllowed c⟩

def latin : Alphabet := ⟨NameRole.ofLatin, fun _ => false⟩

/-- Any other encoding in which each byte stands for a character. -/
def oneByte : Alphabet := ⟨NameRole.of, fun _ => false⟩

end Alphabet

namespace Symbol

def ofChar (a : Alphabet) (c : Char) : Symbol :=
  if isAllowed c then char c (a.role c) (a.isWide c) else invalid (a.isWide c)

def char? : Symbol → Option Char
  | char c _ _ => some c
  | _ => none

def role : Symbol → NameRole
  | char _ role _ => role
  | _ => .none

/-- The first unit leaves open what the symbol is. -/
def isWide : Symbol → Bool
  | char _ _ wide => wide
  | invalid wide => wide
  | cut => true

/-- A letter or an underscore that its first unit tells. Keywords are made of these. -/
def isLetter (s : Symbol) : Bool := s.role == .start && !s.isWide

end Symbol

/-- A place in a document, and whether a carriage return stands just before it. -/
structure Cursor where
  position : Position
  afterReturn : Bool
  deriving DecidableEq, Repr

namespace Cursor

def start : Cursor := ⟨⟨1, 0⟩, false⟩

/-- The place behind a symbol. A line feed, a carriage return, or both as a pair end a line. -/
def advance (k : Cursor) (s : Symbol) : Cursor :=
  match s.char? with
  | some '\n' =>
    if k.afterReturn then { k with afterReturn := false }
    else ⟨⟨k.position.line + 1, 0⟩, false⟩
  | some '\r' => ⟨⟨k.position.line + 1, 0⟩, true⟩
  | _ => ⟨⟨k.position.line, k.position.column + 1⟩, false⟩

end Cursor

/-- Symbols at their places, and the place behind the last one. -/
def placeFrom (k : Cursor) : List Symbol → Input × Position
  | [] => ([], k.position)
  | s :: symbols =>
    let (placed, finish) := placeFrom (k.advance s) symbols
    (⟨s, k.position⟩ :: placed, finish)

/-- A text that takes no place of its own: all of it stands at one position. -/
def placeAt (position : Position) (text : List Char) : Input :=
  text.map fun c => ⟨.char c (Alphabet.utf8.role c) (Alphabet.utf8.isWide c), position⟩

/-- The end of a document: its place, and whether half a unit is left there. -/
structure Finish where
  position : Position
  torn : Bool
  deriving DecidableEq, Repr

/-- What is wrong with a document that comes to its end too early. Half a unit begins a token. -/
def Finish.fault (finish : Finish) : Fault :=
  ⟨if finish.torn then .unclosedToken else .noElement, finish.position⟩

def char? (s : Input) : Option Char := s.head?.bind (·.item.char?)

def isSpaceChar (c : Char) : Bool := c == ' ' || c == '\t' || c == '\n' || c == '\r'

def startsSpace (s : Input) : Bool := (char? s).any isSpaceChar

def startsName (s : Input) : Bool := s.head?.any fun p => p.item.role == .start

def skipSpaces (s : Input) : Input := s.dropWhile fun p => p.item.char?.any isSpaceChar

/-- The characters of an input up to the first one that has no role in names. -/
def takeName : Input → List Char × Input
  | [] => ([], [])
  | p :: rest =>
    match p.item with
    | .char c .start _ | .char c .part _ =>
      let (name, left) := takeName rest
      (c :: name, left)
    | _ => ([], p :: rest)

/-- Where and why a scanner stops. -/
inductive Stop where
  | ended
  | cut
  | invalid (position : Position)
  deriving DecidableEq, Repr

/-- The stop at a symbol that cannot continue a token. A cut character is reported as cut. -/
def stopAt : Input → Stop
  | [] => .ended
  | p :: _ =>
    match p.item with
    | .cut => .cut
    | _ => .invalid p.position

/-- The stop at a symbol where one character is required. A cut character is invalid there. -/
def stopStrictlyAt : Input → Stop
  | [] => .ended
  | p :: _ => .invalid p.position

/-- The fault of a token that starts at `start`. -/
def Stop.fault (start : Position) : Stop → Fault
  | .ended => ⟨.unclosedToken, start⟩
  | .cut => ⟨.partialCharacter, start⟩
  | .invalid position => ⟨.invalidToken, position⟩

def positionOf (finish : Position) : Input → Position
  | [] => finish
  | p :: _ => p.position

end DeclGen.Xml
