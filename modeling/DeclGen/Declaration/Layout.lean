import DeclGen.Declaration.Scope
import DeclGen.Declaration.Wording

/-!
The layout of a declaration by its parts: its comments, its heading, the layouts of its parts one
level deeper, and the closing brace. It is what a printer writes at the root.
-/

namespace DeclGen

open Text

/-- Lines one level deeper. -/
def deeper (lines : List String) : List String := lines.map (indented 1)

/-- A heading, the lines below it, and the closing brace. -/
def block (heading : String) (lines : List String) : List String :=
  heading :: deeper lines ++ ["\x7d"]

def Property.layout (p : Property) : List String := p.leadingComments.map docComment ++ [p.text]

def DiscreteEnum.layout (e : DiscreteEnum) : List String :=
  e.leadingComments.map docComment ++ block (enumHeading e.name) (memberLines e.members)

def LiteralUnion.layout (u : LiteralUnion) : List String :=
  u.leadingComments.map docComment ++ [u.text]

def Record.layout (r : Record) : List String :=
  r.leadingComments.map docComment ++
    block (recordHeading r.name) (r.properties.flatMap Property.layout)

mutual

/-- The lines of a declaration. -/
def Declaration.layout : Declaration → List String
  | .discrete e => e.layout
  | .union u => u.layout
  | .record r => r.layout
  | .space name body comments =>
    comments.map docComment ++ block (namespaceHeading name) (layoutAll body)

/-- The lines of declarations, one after another. -/
def layoutAll : List Declaration → List String
  | [] => []
  | d :: ds => d.layout ++ layoutAll ds

end

theorem layoutAll_append (ds ds' : List Declaration) :
    layoutAll (ds ++ ds') = layoutAll ds ++ layoutAll ds' := by
  induction ds with
  | nil => rfl
  | cons d ds ih => simp only [List.cons_append, layoutAll, ih, List.append_assoc]

end DeclGen
