import DeclGen.Declaration.Basic
import DeclGen.Schema.Basic

/-!
What the parts of a model become: parameters become properties, enumerations become discrete enums
or unions of literals, structures and functions become records.
-/

namespace DeclGen

/-- The keyword for a scalar type of the description language. -/
def scalarKeyword? (type : String) : Option String :=
  [("Boolean", "boolean"), ("Integer", "number"), ("Float", "number"), ("String", "string")].lookup
    type

/-- An optional text that counts as given only if it is not empty. -/
def given (text : Option String) : Option String := text.filter (· != "")

namespace Param

/-- Scalar types map to keywords; any other name refers to a declared type. -/
def typeHint (p : Param) : TypeHint :=
  match scalarKeyword? p.type with
  | some keyword => ⟨keyword, true, p.isArray⟩
  | none => ⟨p.type, false, p.isArray⟩

/-- The constraints that a parameter gives, in the order of the annotation. -/
def constraints (p : Param) : List (String × String) :=
  [("default value", p.defvalue), ("minimum length", p.minlength), ("maximum length", p.maxlength),
    ("minimum value", p.minvalue), ("maximum value", p.maxvalue)].filterMap
    fun (label, value) => (given value).map (label, ·)

/-- The annotation of all constraints: `default value = 1, minimum value = 0`. -/
def constraintText (p : Param) : Option String :=
  match p.constraints with
  | [] => none
  | constraints => some (", ".intercalate (constraints.map fun (label, value) =>
      label ++ " = " ++ value))

/-- A property, with the description and then the annotation as comments. -/
def property (p : Param) : Property :=
  ⟨p.name, p.typeHint, p.isOptional, p.description ++ p.constraintText.toList⟩

end Param

/-- The two ways to declare an enumeration. -/
inductive EnumShape where
  | discrete
  | literalUnion
  deriving DecidableEq, Repr

namespace Enumeration

/-- One element with a value makes the enumeration discrete. -/
def shape (e : Enumeration) : EnumShape :=
  if e.elements.any fun x => (given x.value).isSome then .discrete else .literalUnion

def discreteEnum (e : Enumeration) : DiscreteEnum :=
  ⟨e.name, e.elements.map fun x => ⟨x.name, x.value, x.description⟩, e.description⟩

def literalUnion (e : Enumeration) : LiteralUnion :=
  ⟨e.name, e.elements.map fun x => ⟨x.name, x.description⟩, e.description⟩

def declaration (e : Enumeration) : Declaration :=
  match e.shape with
  | .discrete => .discrete e.discreteEnum
  | .literalUnion => .union e.literalUnion

end Enumeration

def Struct.record (s : Struct) : Record := ⟨s.name, s.params.map Param.property, s.description⟩

namespace Function

/-- The name of the payload record: `Bar$Request` for a request `Bar`. -/
def recordName (f : Function) : String := f.name ++ f.kind.suffix

/-- The payload record of a function. -/
def record (f : Function) : Record :=
  ⟨f.recordName, f.params.map Param.property, f.description⟩

end Function

end DeclGen
