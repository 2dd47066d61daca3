import DeclGen.Schema.Writer

/-!
Everything that can be asked of a writer, step by step. Only functions, interfaces and the whole
model change the register.
-/

namespace DeclGen

inductive WriterStep where
  | property (param : Param)
  | enumeration (enumeration : Enumeration)
  | struct (struct : Struct)
  | function (function : Function) (interfaceName : String)
  | interface (interface : Interface)
  | lookupRecord (kind : MessageKind)
  | lookupRecords
  | all
  deriving DecidableEq, Repr

/-- What a step writes. -/
inductive Written where
  | property (property : Property)
  | declaration (declaration : Declaration)
  | declarations (declarations : List Declaration)
  deriving Repr

namespace Writer

/-- What a step writes, and the writer after it. -/
def perform (w : Writer) : WriterStep → Written × Writer
  | .property param => (.property param.property, w)
  | .enumeration enumeration => (.declaration enumeration.declaration, w)
  | .struct struct => (.declaration (.record struct.record), w)
  | .function function interfaceName =>
    let (record, w) := w.writeFunction function interfaceName
    (.declaration (.record record), w)
  | .interface interface =>
    let (declaration, w) := w.writeInterface interface
    (.declaration declaration, w)
  | .lookupRecord kind => (.declaration (.record (w.registry.lookupRecord kind)), w)
  | .lookupRecords => (.declarations (w.registry.lookupRecords.map .record), w)
  | .all =>
    let (declarations, w) := w.writeAll
    (.declarations declarations, w)

/-- The writer after steps. -/
def performAll (w : Writer) (steps : List WriterStep) : Writer :=
  steps.foldl (fun w step => (w.perform step).2) w

theorem performAll_append (w : Writer) (steps steps' : List WriterStep) :
    w.performAll (steps ++ steps') = (w.performAll steps).performAll steps' :=
  List.foldl_append

end Writer

end DeclGen
