import DeclGen.Batch.Log
import DeclGen.Files.Collection
import DeclGen.Schema.Load

/-!
What a run works on and what can be seen of it: the file tree, the document on the standard input,
the text on the standard output, the log, and the checks that were started.
-/

namespace DeclGen

/-- How the type checker behaves when it is started. Its report is taken to be text: a checker that
writes bytes which the encoding of the system does not decode is left out. -/
inductive Checker where
  | notInstalled
  | broken (reason : String)
  | finished (status : Int) (report : String)
  deriving DecidableEq, Repr

/-- Why generated declarations do not pass the type checker. -/
inductive CheckError where
  | notInstalled
  | broken (reason : String)
  | rejected (report : String)
  deriving DecidableEq, Repr

/-- The number of places where a text stands in another. -/
def occurrences (text : List Char) : List Char → Nat
  | [] => 0
  | c :: cs => (if text.isPrefixOf (c :: cs) then 1 else 0) + occurrences text cs

def CheckError.message : CheckError → String
  | notInstalled => "tsc command not found. Please install TypeScript."
  | broken reason => "Error running tsc: " ++ reason
  | rejected report =>
    "tsc validation failed with " ++ toString (occurrences "error TS".toList report.toList) ++
      " error(s):\n\n" ++ report

/-- Why a run fails. -/
inductive RunError where
  | load (error : LoadError)
  | file (error : FileError)
  | check (error : CheckError)
  deriving DecidableEq, Repr

def RunError.message : RunError → String
  | load error => error.message
  | file error => error.message
  | check error => error.message

/-- The model of a file. The path is tidied first, and faults show it so. -/
def Workspace.loadSchema (w : Workspace) (path : String) : Except RunError Schema :=
  match w.read (Path.tidy path) with
  | .error e => .error (.file e)
  | .ok bytes => (Schema.ofBytes bytes).mapError .load

structure Session where
  workspace : Workspace
  input : List UInt8
  checker : Checker
  verbose : Bool
  output : String
  log : List LogRecord
  checks : List (List String)
  deriving DecidableEq, Repr

namespace Session

/-- A session in which nothing has been done. -/
def start (workspace : Workspace) (input : List UInt8) (checker : Checker) : Session :=
  ⟨workspace, input, checker, false, "", [], []⟩

def note (s : Session) (level : LogLevel) (source : LogSource) (text : String) : Session :=
  { s with log := s.log ++ [⟨level, source, text⟩] }

def noteAll (s : Session) (records : List LogRecord) : Session :=
  { s with log := s.log ++ records }

/-- The log as it is shown. -/
def logText (s : Session) : String := DeclGen.logText s.verbose s.log

/-- The bytes of a document: of a file, or of the standard input if no file is named. -/
def readDocument (s : Session) : Option String → Except FileError (List UInt8)
  | some path => s.workspace.read path
  | none => .ok s.input

/-- Starts the type checker on files. -/
def validate (s : Session) (paths : List String) : Except CheckError Unit × Session :=
  if paths.isEmpty then (.ok (), s.note .warning .batch "No declaration files found to validate")
  else
    let s := s.note .info .batch
      ("Validating " ++ toString paths.length ++ " generated declaration file(s) with tsc...")
    let s := { s with checks := s.checks ++ ["tsc" :: "--noEmit" :: paths] }
    match s.checker with
    | .notInstalled =>
      (.error .notInstalled, s.note .error .batch
        "tsc not found. Please install TypeScript: npm install -g typescript")
    | .broken reason => (.error (.broken reason), s)
    | .finished status report =>
      if status = 0 then
        (.ok (), s.note .info .batch "tsc validation passed, no type errors found")
      else (.error (.rejected report), s)

end Session

end DeclGen
