/-!
Log records.

The library reports its progress as a list of records in order. A record is kept with its severity
and its message; when it was written and who prints it is none of the library's business.
-/

namespace CodeBehind

/-- How grave a record is. -/
inductive Severity where
  | debug | info | warning | error | critical
deriving DecidableEq, Repr

namespace Severity

def label : Severity → String
  | .debug => "DEBUG"
  | .info => "INFO"
  | .warning => "WARNING"
  | .error => "ERROR"
  | .critical => "CRITICAL"

/-- The rank of a severity; a level admits the records of its rank and above. -/
def rank : Severity → Int
  | .debug => 10
  | .info => 20
  | .warning => 30
  | .error => 40
  | .critical => 50

end Severity

/-- One entry of the log. -/
structure LogRecord where
  severity : Severity
  message : String
deriving DecidableEq, Repr

namespace LogRecord

def debug (message : String) : LogRecord := ⟨.debug, message⟩

def warning (message : String) : LogRecord := ⟨.warning, message⟩

def error (message : String) : LogRecord := ⟨.error, message⟩

/-- The records that a level admits. -/
def admitted (level : Int) (records : List LogRecord) : List LogRecord :=
  records.filter (level ≤ ·.severity.rank)

end LogRecord

end CodeBehind
