import DeclGen.Schema.Basic
import DeclGen.Xml.Document

/-!
Loading a model from the tree of a document. Elements and attributes that the model has no place
for are ignored; what is missing or unknown is reported in the order in which it is looked up.
-/

namespace DeclGen

open Xml

/-- Why a document is no interface description. -/
inductive SchemaError where
  | malformed (fault : Fault)
  | wrongRoot (tag : String)
  | missingAttribute (tag : String) (owner : Option String) (name : String)
  | unknownKind (function kind : String)
  deriving DecidableEq, Repr

def SchemaError.message : SchemaError → String
  | malformed fault => "Malformed interface description: " ++ fault.message
  | wrongRoot tag => "Expected a <interfaces> root element, found <" ++ tag ++ ">."
  | missingAttribute tag owner name =>
    let place := match owner with
      | some owner => "<" ++ tag ++ " name='" ++ owner ++ "'>"
      | none => "<" ++ tag ++ ">"
    place ++ " is missing the required '" ++ name ++ "' attribute."
  | unknownKind function kind =>
    "<function name='" ++ function ++ "'> has an unknown messagetype '" ++ kind ++ "'."

/-- Why a document cannot be loaded. -/
inductive LoadError where
  | schema (error : SchemaError)
  | unknownEncoding (name : String)
  | multiByteEncoding
  | refusingEncoding (encoding : RefusingEncoding)
  deriving DecidableEq, Repr

def LoadError.message : LoadError → String
  | schema error => error.message
  | unknownEncoding name =>
    if binaryNames.has (plainName name) then
      "'" ++ name ++ "' is not a text encoding; use codecs.decode() to handle arbitrary codecs"
    else "unknown encoding: " ++ name
  | multiByteEncoding => "multi-byte encodings are not supported"
  | refusingEncoding encoding => encoding.reason

def LoadError.ofDocument : DocumentError → LoadError
  | .malformed fault => schema (.malformed fault)
  | .unknownEncoding name => unknownEncoding name
  | .multiByteEncoding => multiByteEncoding
  | .refusingEncoding encoding => refusingEncoding encoding

namespace Load

/-- An attribute that is present and not empty. -/
def optional (t : Tree) (name : String) : Option String :=
  (t.attribute? name).filter (· != "")

def required (t : Tree) (name : String) : Except SchemaError String :=
  match optional t name with
  | some value => .ok value
  | none => .error (.missingAttribute (t.tag?.getD "") (optional t "name") name)

/-- The texts of all descriptions directly below a node. -/
def descriptions (t : Tree) : List String := (t.childrenWith "description").map Tree.textContent

def element (t : Tree) : Except SchemaError Element := do
  let name ← required t "name"
  return ⟨name, optional t "value", descriptions t⟩

def enumeration (t : Tree) : Except SchemaError Enumeration := do
  let name ← required t "name"
  let elements ← (t.childrenWith "element").mapM element
  return ⟨name, elements, descriptions t⟩

def param (t : Tree) : Except SchemaError Param := do
  let name ← required t "name"
  let type ← required t "type"
  return {
    name := name
    type := type
    array := optional t "array"
    mandatory := optional t "mandatory"
    defvalue := optional t "defvalue"
    minvalue := optional t "minvalue"
    maxvalue := optional t "maxvalue"
    minlength := optional t "minlength"
    maxlength := optional t "maxlength"
    description := descriptions t }

def struct (t : Tree) : Except SchemaError Struct := do
  let name ← required t "name"
  let params ← (t.childrenWith "param").mapM param
  return ⟨name, params, descriptions t⟩

def messageKind (function word : String) : Except SchemaError MessageKind :=
  match MessageKind.ofWord? word with
  | some kind => .ok kind
  | none => .error (.unknownKind function word)

def function (t : Tree) : Except SchemaError Function := do
  let name ← required t "name"
  let word ← required t "messagetype"
  let kind ← messageKind name word
  let params ← (t.childrenWith "param").mapM param
  return ⟨name, kind, params, optional t "functionID", descriptions t⟩

def interface (t : Tree) : Except SchemaError Interface := do
  let name ← required t "name"
  let enums ← (t.childrenWith "enum").mapM enumeration
  let structs ← (t.childrenWith "struct").mapM struct
  let functions ← (t.childrenWith "function").mapM function
  return ⟨name, enums, structs, functions, descriptions t⟩

end Load

namespace Schema

/-- The model that a tree describes. -/
def ofTree (t : Tree) : Except SchemaError Schema :=
  if t.tag? = some "interfaces" then do
    let interfaces ← (t.childrenWith "interface").mapM Load.interface
    return ⟨interfaces, Load.optional t "name", Load.optional t "version"⟩
  else .error (.wrongRoot (t.tag?.getD ""))

def ofDocument (read : Except DocumentError Tree) : Except LoadError Schema :=
  match read with
  | .ok tree => (ofTree tree).mapError .schema
  | .error error => .error (LoadError.ofDocument error)

/-- The model of a document in bytes, whose declared encoding counts. -/
def ofBytes (bytes : List UInt8) : Except LoadError Schema :=
  ofDocument (readDocument .honoured bytes)

/-- The model of a document in characters, whose declared encoding does not count. -/
def ofText (text : String) : Except LoadError Schema := ofDocument (readText text)

end Schema

end DeclGen
