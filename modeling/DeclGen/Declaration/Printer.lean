import DeclGen.Declaration.Scope
import DeclGen.Declaration.Wording

/-!
A printer collects the lines of declarations in a stack of open scopes. Entering a scope writes its
heading to the scope around it; leaving it moves its lines there and closes the brace.
-/

namespace DeclGen

open Text

/-- The scope that receives lines, and the scopes around it from the inside out. -/
structure Printer where
  current : Scope
  outer : List Scope
  deriving DecidableEq, Repr

/-- A request that does not fit the open scopes. -/
inductive PrinterFault where
  | leavesRoot
  | notAtRoot
  deriving DecidableEq, Repr

def PrinterFault.message : PrinterFault → String
  | .leavesRoot => "The current scope is the root scope and cannot be returned from."
  | .notAtRoot => ""

namespace Printer

def fresh : Printer := ⟨Scope.empty "", []⟩

def depth (p : Printer) : Nat := p.outer.length

def isAtRoot (p : Printer) : Bool := p.outer.isEmpty

/-- Adds a line to the current scope. -/
def add (p : Printer) (line : String) : Printer :=
  { p with current := p.current.add p.depth line }

def addAll (p : Printer) (lines : List String) : Printer := lines.foldl add p

def addComments (p : Printer) (comments : List String) : Printer :=
  comments.foldl (fun p comment => p.add (docComment comment)) p

/-- Writes a heading and continues in a new scope below it. -/
def enter (p : Printer) (name heading : String) : Printer :=
  ⟨Scope.empty name, (p.add heading).current :: p.outer⟩

/-- Closes the current scope, unless it is the root. -/
def close (p : Printer) : Printer :=
  match p.outer with
  | [] => p
  | parent :: outer => Printer.add ⟨parent.append p.current.lines, outer⟩ "\x7d"

/-- Returns to the parent scope. The root cannot be left. -/
def leave (p : Printer) : Except PrinterFault Printer :=
  if p.isAtRoot then .error .leavesRoot else .ok p.close

def printEnum (p : Printer) (e : DiscreteEnum) : Printer :=
  (((p.addComments e.leadingComments).enter e.name (enumHeading e.name)).addAll
    (memberLines e.members)).close

def printUnion (p : Printer) (u : LiteralUnion) : Printer :=
  (p.addComments u.leadingComments).add u.text

def printProperty (p : Printer) (property : Property) : Printer :=
  (p.addComments property.leadingComments).add property.text

def printRecord (p : Printer) (r : Record) : Printer :=
  (r.properties.foldl printProperty
    ((p.addComments r.leadingComments).enter r.name (recordHeading r.name))).close

mutual

/-- Adds the lines of a declaration to the current scope. -/
def print (p : Printer) : Declaration → Printer
  | .discrete e => p.printEnum e
  | .union u => p.printUnion u
  | .record r => p.printRecord r
  | .space name body comments =>
    (printList ((p.addComments comments).enter name (namespaceHeading name)) body).close

def printList (p : Printer) : List Declaration → Printer
  | [] => p
  | d :: ds => printList (p.print d) ds

end

/-- Prints declarations at the root and returns all lines so far. -/
def printAll (p : Printer) (declarations : List Declaration) :
    Except PrinterFault (Printer × List String) :=
  if p.isAtRoot then
    let printed := p.printList declarations
    .ok (printed, printed.current.lines)
  else .error .notAtRoot

end Printer

/-- The lines of declarations on a fresh printer. -/
def printedLines (declarations : List Declaration) : List String :=
  (Printer.fresh.printList declarations).current.lines

end DeclGen
