import DeclGen.Batch.Run

/-!
The command: a run with the options of a command line, which ends in an exit code. Faults of
documents, files and checks are logged; a document whose encoding is not known or not supported
ends the command with the error itself.
-/

namespace DeclGen

/-- A failure that the command logs, so that it ends in an exit code. -/
def RunError.isLogged : RunError → Bool
  | load (.schema _) | file _ | check _ => true
  | load (.unknownEncoding _) | load .multiByteEncoding | load (.refusingEncoding _) => false

/-- What a command ends in besides an exit code. -/
inductive CommandError where
  | stopped (stop : CommandStop)
  | failed (error : RunError)
  deriving DecidableEq, Repr

namespace Session

/-- A run with options; the exit code is 1 if a failure is logged, and 0 without a failure. -/
def execute (s : Session) (o : Options) : Except RunError Nat × Session :=
  let s := { s with verbose := o.verbose }.note .debug .command
    ("Working from root directory: " ++ s.workspace.homePath)
  match s.run o with
  | (.ok (), s) => (.ok 0, s)
  | (.error e, s) =>
    if e.isLogged then (.ok 1, s.note .error .command e.message) else (.error e, s)

/-- A command line that asks for no run leaves everything as it is. -/
def command (s : Session) (arguments : List String) : Except CommandError Nat × Session :=
  match Options.ofArguments arguments with
  | .error stop => (.error (.stopped stop), s)
  | .ok o =>
    match s.execute o with
    | (.error e, s) => (.error (.failed e), s)
    | (.ok code, s) => (.ok code, s)

end Session

end DeclGen
