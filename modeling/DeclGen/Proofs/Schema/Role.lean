import DeclGen.Schema.Load

/-!
The roles of elements in an interface description. The role of an element decides which of its
attributes are asked for, and in which roles its children are loaded.
-/

namespace DeclGen

open Xml

/-- What an element of an interface description is loaded as. -/
inductive Role where
  | document
  | interface
  | enumeration
  | element
  | struct
  | function
  | param
  | description
  deriving DecidableEq, Repr

namespace Role

/-- The tag of the elements that are loaded in a role. -/
def tag : Role → String
  | .document => "interfaces"
  | .interface => "interface"
  | .enumeration => "enum"
  | .element => "element"
  | .struct => "struct"
  | .function => "function"
  | .param => "param"
  | .description => "description"

/-- The attributes that are asked for. -/
def attributes : Role → List String
  | .document => ["name", "version"]
  | .interface | .enumeration | .struct => ["name"]
  | .element => ["name", "value"]
  | .function => ["name", "messagetype", "functionID"]
  | .param => ["name", "type", "array", "mandatory", "defvalue", "minvalue", "maxvalue",
      "minlength", "maxlength"]
  | .description => []

/-- The roles of the children that are asked for, in the order in which they are loaded. -/
def parts : Role → List Role
  | .document => [.interface]
  | .interface => [.enumeration, .struct, .function, .description]
  | .enumeration => [.element, .description]
  | .struct | .function => [.param, .description]
  | .element | .param => [.description]
  | .description => []

theorem tag_injective {role role' : Role} (h : role.tag = role'.tag) : role = role' := by
  revert h
  cases role <;> cases role' <;> decide

end Role

end DeclGen
