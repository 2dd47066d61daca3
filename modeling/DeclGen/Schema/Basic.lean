import DeclGen.Schema.MessageKind

/-!
The model of an interface description: interfaces that group enumerations, structures and functions.
Attributes are kept as the texts of the document.
-/

namespace DeclGen

structure Element where
  name : String
  value : Option String
  description : List String
  deriving DecidableEq, Repr

structure Enumeration where
  name : String
  elements : List Element
  description : List String
  deriving DecidableEq, Repr

/-- A parameter of a structure or of a function. -/
structure Param where
  name : String
  type : String
  array : Option String
  mandatory : Option String
  defvalue : Option String
  minvalue : Option String
  maxvalue : Option String
  minlength : Option String
  maxlength : Option String
  description : List String
  deriving DecidableEq, Repr

structure Struct where
  name : String
  params : List Param
  description : List String
  deriving DecidableEq, Repr

/-- A message that is exchanged over an interface. -/
structure Function where
  name : String
  kind : MessageKind
  params : List Param
  functionId : Option String
  description : List String
  deriving DecidableEq, Repr

structure Interface where
  name : String
  enums : List Enumeration
  structs : List Struct
  functions : List Function
  description : List String
  deriving DecidableEq, Repr

/-- A whole interface description. -/
structure Schema where
  interfaces : List Interface
  name : Option String
  version : Option String
  deriving DecidableEq, Repr

namespace Param

def isArray (p : Param) : Bool := p.array == some "true"

def isOptional (p : Param) : Bool := p.mandatory == some "false"

end Param

end DeclGen
