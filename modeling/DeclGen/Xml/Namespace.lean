import DeclGen.Xml.Content
import DeclGen.Xml.Definitions

/-!
Namespaces. Attributes of a start tag bind labels to namespace names; a name with a bound label
becomes `{namespace}local`, and elements without a label take the default namespace.
-/

namespace DeclGen.Xml

/-- A label, or none for the default namespace, and the namespace name it is bound to. An empty
default namespace is no namespace. -/
abbrev Bindings := List (Option String × String)

def reservedName (path : String) : String := "http:" ++ "//www.w3.org/" ++ path

/-- The namespace that `xml` is bound to everywhere. -/
def xmlNamespace : String := reservedName "XML/1998/namespace"

/-- The namespace of namespace declarations, which nothing may be bound to. -/
def xmlnsNamespace : String := reservedName "2000/xmlns/"

def initialBindings : Bindings := [(some "xml", xmlNamespace)]

/-- The parts of a name before and behind its first colon. -/
def splitName (name : String) : Option String × String :=
  match name.toList.span (· ≠ ':') with
  | (first, _ :: second) => (some (String.ofList first), String.ofList second)
  | (_, []) => (none, name)

/-- The label that an attribute binds, if it is a namespace declaration. -/
def declaredLabel? (name : String) : Option (Option String) :=
  if name = "xmlns" then some none
  else
    match splitName name with
    | (some "xmlns", label) => some (some label)
    | _ => none

/-- Binds a label, unless the label or the namespace is reserved. -/
def bind (bindings : Bindings) (label : Option String) (name : String) :
    Except FaultCause Bindings := do
  if name = "" ∧ label.isSome then throw .undeclaredPrefix
  if label = some "xmlns" then throw .reservedXmlns
  if name.toList.contains '\x7d' then throw .misplacedMarkup
  if label = some "xml" ∧ name ≠ xmlNamespace then throw .reservedXml
  if label ≠ some "xml" ∧ name = xmlNamespace then throw .reservedNamespace
  if name = xmlnsNamespace then throw .reservedNamespace
  return (label, name) :: bindings

def expandedName (namespaceName part : String) : String :=
  "\x7b" ++ namespaceName ++ "\x7d" ++ part

/-- The name of an element with its namespace. -/
def elementName (bindings : Bindings) (name : String) : Except FaultCause String :=
  match splitName name with
  | (some label, part) =>
    match bindings.lookup (some label) with
    | some namespaceName => .ok (expandedName namespaceName part)
    | none => .error .unboundPrefix
  | (none, _) =>
    match bindings.lookup none with
    | some namespaceName =>
      .ok (if namespaceName = "" then name else expandedName namespaceName name)
    | none => .ok name

/-- Attributes with a label take their namespace. Two of one expanded name are a fault. -/
def expandAttributes (bindings : Bindings) (seen : List String) :
    List (String × String) → Except FaultCause (List (String × String))
  | [] => .ok []
  | (name, value) :: rest =>
    match splitName name with
    | (none, _) => (expandAttributes bindings seen rest).map ((name, value) :: ·)
    | (some label, part) =>
      match bindings.lookup (some label) with
      | none => .error .unboundPrefix
      | some namespaceName =>
        let expanded := expandedName namespaceName part
        if seen.contains expanded then .error .duplicateAttribute
        else (expandAttributes bindings (expanded :: seen) rest).map ((expanded, value) :: ·)

/-- What a start tag amounts to: its element's name and attributes, and the bindings inside it. -/
structure ResolvedTag where
  name : String
  attributes : List (String × String)
  bindings : Bindings
  deriving DecidableEq, Repr

/-- Attributes and bindings of a tag while they are read. -/
structure TagReading where
  names : List String
  attributes : List (String × String)
  bindings : Bindings
  deriving DecidableEq, Repr

/-- Takes one attribute with its value: a namespace declaration binds a label. -/
def TagReading.take (r : TagReading) (owner : Position) (name value : String) :
    Except Fault TagReading :=
  match declaredLabel? name with
  | some label =>
    match bind r.bindings label value with
    | .ok bindings => .ok { r with names := name :: r.names, bindings := bindings }
    | .error cause => .error ⟨cause, owner⟩
  | none =>
    .ok { r with names := name :: r.names, attributes := r.attributes ++ [(name, value)] }

def TagReading.takeRaw (r : TagReading) (d : Definitions) (opened : List String)
    (owner : Position) (rules : List AttributeRule) (a : RawAttribute) :
    Except Fault TagReading := do
  if r.names.contains a.name then throw ⟨.duplicateAttribute, a.position⟩
  let tokens := (rules.find? (·.name == a.name)).any (·.tokens)
  let value ← attributeValue d opened owner tokens a.value
  r.take owner a.name (String.ofList value)

def TagReading.takeDefault (r : TagReading) (owner : Position) (rule : AttributeRule) :
    Except Fault TagReading :=
  match rule.default with
  | some value =>
    if r.names.contains rule.name then .ok r
    else r.take owner rule.name (String.ofList value)
  | none => .ok r

/-- Resolves a start tag at `owner`: written attributes, then defaults, then namespaces. -/
def resolveTag (d : Definitions) (opened : List String) (bindings : Bindings) (owner : Position)
    (tag : StartTag) : Except Fault ResolvedTag := do
  let rules := d.rulesFor tag.name
  let written ← tag.attributes.foldlM (fun r a => r.takeRaw d opened owner rules a)
    (TagReading.mk [] [] bindings)
  let r ← rules.foldlM (fun r rule => r.takeDefault owner rule) written
  let placed {α : Type} : Except FaultCause α → Except Fault α :=
    Except.mapError fun cause => ⟨cause, owner⟩
  let attributes ← placed (expandAttributes r.bindings [] r.attributes)
  let name ← placed (elementName r.bindings tag.name)
  return ⟨name, attributes, r.bindings⟩

end DeclGen.Xml
