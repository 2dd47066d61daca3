import DeclGen.Text.Display

/-!
Scopes: named blocks of lines, each indented one level deeper than the scope around it.
-/

namespace DeclGen

open Text

/-- Four spaces per level in front of a line. -/
def indented (depth : Nat) (line : String) : String :=
  String.ofList (List.replicate (4 * depth) ' ') ++ line

/-- A named block of finished lines. -/
structure Scope where
  name : String
  lines : List String
  deriving DecidableEq, Repr

namespace Scope

def empty (name : String) : Scope := ⟨name, []⟩

def append (s : Scope) (lines : List String) : Scope := { s with lines := s.lines ++ lines }

/-- Adds a line at the given depth. -/
def add (s : Scope) (depth : Nat) (line : String) : Scope := s.append [indented depth line]

end Scope

/-- A scope with its place among the others: its depth, and the number of its outermost scope. -/
structure PlacedScope where
  scope : Scope
  depth : Nat
  outermost : Nat
  deriving DecidableEq, Repr

/-- A summary of a scope for diagnostics. -/
def PlacedScope.summary (p : PlacedScope) : String :=
  s!"Scope(name={display p.scope.name}, depth={p.depth}, lines={p.scope.lines.length})"

/-- Scopes numbered from zero in the order of their creation. -/
structure ScopeForest where
  scopes : List PlacedScope
  deriving DecidableEq, Repr

namespace ScopeForest

def empty : ScopeForest := ⟨[]⟩

def get? (f : ScopeForest) (i : Nat) : Option PlacedScope := f.scopes[i]?

/-- A new scope below a parent, or a new outermost scope. -/
def insert (f : ScopeForest) (name : String) (parent : Option Nat) : ScopeForest :=
  match parent.bind f.get? with
  | some p => ⟨f.scopes ++ [⟨Scope.empty name, p.depth + 1, p.outermost⟩]⟩
  | none => ⟨f.scopes ++ [⟨Scope.empty name, 0, f.scopes.length⟩]⟩

/-- Adds a line to the scope with number `i`, at the depth of that scope. -/
def addLine (f : ScopeForest) (i : Nat) (line : String) : ScopeForest :=
  ⟨f.scopes.modify i fun p => { p with scope := p.scope.add p.depth line }⟩

end ScopeForest

end DeclGen
