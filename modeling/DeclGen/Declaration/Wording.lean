import DeclGen.Declaration.Basic
import DeclGen.Text.Comment
import DeclGen.Text.Identifier

/-!
The wording of single lines: type hints, properties, members, headings and aliases.
-/

namespace DeclGen

open Text

/-- A type as it is written: `Common.Result[]`. -/
def TypeHint.text (t : TypeHint) : String :=
  if t.array then t.name ++ "[]" else t.name

/-- A property as it is written: `name?: string;`. -/
def Property.text (p : Property) : String :=
  memberName p.name ++ (if p.optional then "?" else "") ++ ": " ++ p.typeHint.text ++ ";"

def LiteralVariant.text (v : LiteralVariant) : String := quoted v.value

/-- A text followed by comments, all separated by spaces. -/
def withTrailingComments (text : String) (comments : List String) : String :=
  " ".intercalate (text :: comments.map docComment)

/-- A member as it is written, without the comma behind it. -/
def EnumMember.text (m : EnumMember) : String :=
  let named := match m.value with
    | some value => memberName m.name ++ " = " ++ value
    | none => memberName m.name
  withTrailingComments named m.trailingComments

/-- A union of types. The empty union is `never`. -/
def joinUnion : List String → String
  | [] => "never"
  | members => " | ".intercalate members

def namespaceHeading (name : String) : String := "export namespace " ++ name ++ " \x7b"

def recordHeading (name : String) : String := "export interface " ++ name ++ " \x7b"

def enumHeading (name : String) : String := "export enum " ++ name ++ " \x7b"

def typeAlias (name type : String) : String := "export type " ++ name ++ " = " ++ type ++ ";"

/-- The line that declares a union of literals. -/
def LiteralUnion.text (u : LiteralUnion) : String :=
  typeAlias u.name (joinUnion (u.variants.map fun v =>
    withTrailingComments v.text v.trailingComments))

/-- The lines of members: each but the last ends in a comma. -/
def memberLines : List EnumMember → List String
  | [] => []
  | [m] => [m.text]
  | m :: ms => (m.text ++ ",") :: memberLines ms

end DeclGen
