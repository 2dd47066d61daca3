import DeclGen.Text.Quoted

/-!
Names of properties and enum members. A name that reads as an identifier is written as it is, any
other name as a quoted literal.
-/

namespace DeclGen.Text

def isIdentifierStart (c : Char) : Bool :=
  c.isAlpha || c == '_' || c == '$'

def isIdentifierPart (c : Char) : Bool :=
  c.isAlphanum || c == '_' || c == '$'

/-- An ASCII identifier over the whole length of a text. -/
def isIdentifier : List Char → Bool
  | [] => false
  | c :: rest => isIdentifierStart c && rest.all isIdentifierPart

/-- The text without one line feed at its end, if it has one there. -/
def dropFinalNewline (cs : List Char) : List Char :=
  if cs.getLast? = some '\n' then cs.dropLast else cs

/-- A name of a property or a member as it is written. The check that keeps a name bare looks at
the name up to one final line feed. -/
def memberName (name : String) : String :=
  if isIdentifier (dropFinalNewline name.toList) then name else quoted name

end DeclGen.Text
