import DeclGen.Batch.Options
import DeclGen.Batch.Session
import DeclGen.Schema.Writer

/-!
A run: with paths, one declaration file for every schema file that they ask for, in ascending order
and up to the first failure; without paths, from the standard input to the standard output.
-/

namespace DeclGen

/-- The name of the generator in the sources that a run writes. -/
def generatorName : String := "hmi-api-typegen"

def Interface.logRecord (i : Interface) : LogRecord :=
  ⟨.debug, .writing, "Namespace '" ++ i.name ++ "': " ++ toString i.enums.length ++ " enum(s), " ++
    toString i.structs.length ++ " struct(s), " ++ toString i.functions.length ++ " function(s)."⟩

/-- What is logged on the way from a model to its source. -/
def Schema.logRecords (schema : Schema) (generator : String) : List LogRecord :=
  let declarations := schema.declarations
  let lines := sourceLines declarations generator
  let loaded := "Parsed " ++ toString schema.interfaces.length ++ " interface(s)."
  let registered := "Registered messages: " ++ schema.registered.summary
  let printed := "Printed " ++ toString declarations.length ++
    " top-level declaration(s) in " ++ toString lines.length ++ " line(s)."
  ⟨.debug, .loading, loaded⟩ :: (schema.interfaces.map Interface.logRecord ++
    [⟨.debug, .writing, registered⟩, ⟨.debug, .printing, printed⟩])

namespace Session

/-- Writes a source to a file, or to the standard output if no file is named. -/
def deliver (s : Session) (source : String) : Option String → Except FileError Unit × Session
  | none => (.ok (), { s with output := s.output ++ source })
  | some path =>
    match s.workspace.write path source.toUTF8.toList with
    | .error e => (.error e, s)
    | .ok workspace =>
      (.ok (), { s with workspace := workspace }.note .info .batch
        ("Wrote declarations to '" ++ path ++ "'."))

/-- Turns one document into its source, and delivers that. Nothing is written unless the whole
source is there. -/
def generate (s : Session) (schemaPath target : Option String) (generator : String) :
    Except RunError String × Session :=
  match s.readDocument schemaPath with
  | .error e => (.error (.file e), s)
  | .ok bytes =>
    match Schema.ofBytes bytes with
    | .error e => (.error (.load e), s)
    | .ok schema =>
      let source := schema.compile generator
      match (s.noteAll (schema.logRecords generator)).deliver source target with
      | (.error e, s) => (.error (.file e), s)
      | (.ok (), s) => (.ok source, s)

/-- Generates the declaration files of schema files, up to the first failure. -/
def generateEach (s : Session) (outputFolder : String) :
    List String → Except RunError Unit × Session
  | [] => (.ok (), s)
  | path :: rest =>
    match s.generate (some path) (some (outputPath path outputFolder)) generatorName with
    | (.error e, s) => (.error e, s)
    | (.ok _, s) => s.generateEach outputFolder rest

/-- Makes the output folder, if one is named, and tells its path. -/
def prepareOutput (s : Session) (outputFolder : String) : Except FileError String × Session :=
  if outputFolder = "" then (.ok "", s)
  else
    let folder := Path.join s.workspace.homePath outputFolder
    match s.workspace.makeFolders folder with
    | (.error e, workspace) => (.error e, { s with workspace := workspace })
    | (.ok (), workspace) => (.ok folder, { s with workspace := workspace })

/-- A run on schema files that were found. -/
def runOn (s : Session) (o : Options) (schemas : List String) : Except RunError Unit × Session :=
  match s.prepareOutput o.outputFolder with
  | (.error e, s) => (.error (.file e), s)
  | (.ok folder, s) =>
    match s.generateEach folder schemas with
    | (.error e, s) => (.error e, s)
    | (.ok (), s) =>
      if o.check then
        match s.validate (schemas.map (outputPath · folder)) with
        | (.error e, s) => (.error (.check e), s)
        | (.ok (), s) => (.ok (), s)
      else (.ok (), s)

/-- A run from the standard input to the standard output, for which some options mean nothing. -/
def runStream (s : Session) (o : Options) : Except RunError Unit × Session :=
  let s := if o.outputFolder = "" then s else s.note .warning .batch
    "Ignoring --output-dir: declarations read from stdin are written to stdout."
  let s := if o.check then s.note .warning .batch
    "Ignoring --check: declarations written to stdout are not validated." else s
  match s.generate none none generatorName with
  | (.error e, s) => (.error e, s)
  | (.ok _, s) => (.ok (), s)

/-- The schema files that the options ask for. -/
def schemas (s : Session) (o : Options) : List String :=
  s.workspace.collect o.paths o.excludes o.recursive s.workspace.homePath

def run (s : Session) (o : Options) : Except RunError Unit × Session :=
  if o.paths.isEmpty then s.runStream o
  else if (s.schemas o).isEmpty then
    (.ok (), s.note .warning .batch
      ("No interface descriptions matched " ++ Text.displayList o.paths))
  else s.runOn o (s.schemas o)

end Session

end DeclGen
