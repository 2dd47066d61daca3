import DeclGen.Declaration.Source
import DeclGen.Schema.Mapping
import DeclGen.Schema.Registry

/-!
A writer builds the declarations of a model. It registers every function that it writes, and the
lookup records list what is registered.
-/

namespace DeclGen

structure Writer where
  schema : Schema
  registry : Registry
  deriving DecidableEq, Repr

/-- The entry of a function of the named interface. -/
def Function.entry (f : Function) (interfaceName : String) : RegistryEntry :=
  ⟨interfaceName ++ "." ++ f.name, interfaceName ++ "." ++ f.recordName⟩

def RegistryEntry.property (e : RegistryEntry) : Property :=
  ⟨e.wireName, ⟨e.typeReference, false, false⟩, false, []⟩

/-- The lookup record of one kind, from wire names to payload types. -/
def Registry.lookupRecord (r : Registry) (kind : MessageKind) : Record :=
  ⟨kind.lookupName, (r.entries kind).map RegistryEntry.property, []⟩

/-- The lookup records of all kinds that have entries. -/
def Registry.lookupRecords (r : Registry) : List Record :=
  (MessageKind.lookupOrder.filter r.hasEntries).map r.lookupRecord

namespace Writer

def ofSchema (schema : Schema) : Writer := ⟨schema, Registry.empty⟩

/-- The payload record of a function, which is registered. -/
def writeFunction (w : Writer) (f : Function) (interfaceName : String) : Record × Writer :=
  (f.record, { w with registry := w.registry.add f.kind (f.entry interfaceName) })

def writeFunctions (w : Writer) (interfaceName : String) : List Function → List Record × Writer
  | [] => ([], w)
  | f :: fs =>
    let (record, w) := w.writeFunction f interfaceName
    let (records, w) := w.writeFunctions interfaceName fs
    (record :: records, w)

/-- The namespace of an interface: enumerations, then structures, then functions. -/
def writeInterface (w : Writer) (i : Interface) : Declaration × Writer :=
  let (records, w) := w.writeFunctions i.name i.functions
  (.space i.name (i.enums.map Enumeration.declaration ++
      i.structs.map (fun s => .record s.record) ++ records.map .record) i.description, w)

def writeInterfaces (w : Writer) : List Interface → List Declaration × Writer
  | [] => ([], w)
  | i :: is =>
    let (declaration, w) := w.writeInterface i
    let (declarations, w) := w.writeInterfaces is
    (declaration :: declarations, w)

/-- All declarations of the model, from an empty register: one namespace per interface, then the
lookup records. -/
def writeAll (w : Writer) : List Declaration × Writer :=
  let (declarations, w) := writeInterfaces { w with registry := Registry.empty } w.schema.interfaces
  (declarations ++ w.registry.lookupRecords.map .record, w)

end Writer

namespace Schema

/-- The declarations of a model, in output order. -/
def declarations (s : Schema) : List Declaration := (Writer.ofSchema s).writeAll.1

/-- The register after all declarations of a model are written. -/
def registered (s : Schema) : Registry := (Writer.ofSchema s).writeAll.2.registry

/-- The complete source of a model. -/
def compile (s : Schema) (generator : String) : String := sourceText s.declarations generator

end Schema

end DeclGen
