/-!
The log of a run: what was done, what was left out and what failed, one record a line.
-/

namespace DeclGen

inductive LogLevel where
  | debug
  | info
  | warning
  | error
  deriving DecidableEq, Repr

def LogLevel.word : LogLevel → String
  | debug => "DEBUG"
  | info => "INFO"
  | warning => "WARNING"
  | error => "ERROR"

/-- The stage of the work that a record comes from. -/
inductive LogSource where
  | command
  | batch
  | loading
  | writing
  | printing
  deriving DecidableEq, Repr

def LogSource.channel : LogSource → String
  | command => "hmi_api_typegen.cli"
  | batch => "hmi_api_typegen.run"
  | loading => "hmi_api_typegen.schema"
  | writing => "hmi_api_typegen.writer"
  | printing => "hmi_api_typegen.printer"

structure LogRecord where
  level : LogLevel
  source : LogSource
  text : String
  deriving DecidableEq, Repr

def LogRecord.line (r : LogRecord) : String :=
  r.level.word ++ ":" ++ r.source.channel ++ ":" ++ r.text ++ "\n"

/-- The text of a log. Records for debugging are shown on request only. -/
def logText (verbose : Bool) (records : List LogRecord) : String :=
  String.join ((records.filter fun r => verbose || r.level != .debug).map LogRecord.line)

end DeclGen
