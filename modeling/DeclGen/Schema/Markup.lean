import DeclGen.Schema.Basic
import DeclGen.Xml.Tree

/-!
The tree that writes a model out: one element for every part in the order of the model, one
attribute for every field that is given, one description element for every line of a description.
-/

namespace DeclGen

namespace Markup

/-- The attributes of the fields that are given. -/
def fields (named : List (String × Option String)) : List (String × String) :=
  named.filterMap fun (name, value) => value.map (name, ·)

def descriptions (lines : List String) : List Xml.Tree :=
  lines.map fun line => .element "description" [] [.text line]

def element (e : Element) : Xml.Tree :=
  .element "element" (fields [("name", some e.name), ("value", e.value)])
    (descriptions e.description)

def enumeration (e : Enumeration) : Xml.Tree :=
  .element "enum" [("name", e.name)] (e.elements.map element ++ descriptions e.description)

def param (p : Param) : Xml.Tree :=
  .element "param"
    (fields [("name", some p.name), ("type", some p.type), ("array", p.array),
      ("mandatory", p.mandatory), ("defvalue", p.defvalue), ("minvalue", p.minvalue),
      ("maxvalue", p.maxvalue), ("minlength", p.minlength), ("maxlength", p.maxlength)])
    (descriptions p.description)

def struct (s : Struct) : Xml.Tree :=
  .element "struct" [("name", s.name)] (s.params.map param ++ descriptions s.description)

def function (f : Function) : Xml.Tree :=
  .element "function"
    (fields [("name", some f.name), ("messagetype", some f.kind.word),
      ("functionID", f.functionId)])
    (f.params.map param ++ descriptions f.description)

def interface (i : Interface) : Xml.Tree :=
  .element "interface" [("name", i.name)]
    (i.enums.map enumeration ++ i.structs.map struct ++ i.functions.map function ++
      descriptions i.description)

end Markup

/-- The tree of a model. -/
def Schema.toTree (s : Schema) : Xml.Tree :=
  .element "interfaces" (Markup.fields [("name", s.name), ("version", s.version)])
    (s.interfaces.map Markup.interface)

end DeclGen
