/-!
Declarations of the generated source: discrete enums, unions of string literals, records and
namespaces, each with the comments that stand before it or behind its parts.
-/

namespace DeclGen

/-- The type of a property: a named type or a keyword, possibly an array of it. -/
structure TypeHint where
  name : String
  keyword : Bool
  array : Bool
  deriving DecidableEq, Repr

structure Property where
  name : String
  typeHint : TypeHint
  optional : Bool
  leadingComments : List String
  deriving DecidableEq, Repr

/-- A member of a discrete enum. Without a value the enum numbers it. -/
structure EnumMember where
  name : String
  value : Option String
  trailingComments : List String
  deriving DecidableEq, Repr

structure LiteralVariant where
  value : String
  trailingComments : List String
  deriving DecidableEq, Repr

/-- An enum whose members have backing values. -/
structure DiscreteEnum where
  name : String
  members : List EnumMember
  leadingComments : List String
  deriving DecidableEq, Repr

/-- A closed union of string literals under one name. -/
structure LiteralUnion where
  name : String
  variants : List LiteralVariant
  leadingComments : List String
  deriving DecidableEq, Repr

structure Record where
  name : String
  properties : List Property
  leadingComments : List String
  deriving DecidableEq, Repr

/-- A declaration. Only a namespace holds further declarations. -/
inductive Declaration where
  | discrete (e : DiscreteEnum)
  | union (u : LiteralUnion)
  | record (r : Record)
  | space (name : String) (body : List Declaration) (leadingComments : List String)
  deriving Repr

end DeclGen
