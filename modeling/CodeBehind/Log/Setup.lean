import CodeBehind.Fault
import CodeBehind.Value

/-!
Loggers and their setup.

Every logger lies below the logger of the package. Setting up logging attaches one handler to the
package logger, once and for all; later setups only change the level. A level is a number or the
exact name of one, and a setup with any other level leaves everything as it was.
-/

namespace CodeBehind.Log

def packageLogger : String := "featuregen"

def loggerName (name : String) : String :=
  if name = packageLogger ∨ (packageLogger ++ ".").toList <+: name.toList then name
  else packageLogger ++ "." ++ name

/-- The handlers that a setup may attach: one for the console and one for a plain stream. -/
inductive Handler where
  | styled
  | stream
deriving DecidableEq, Repr

def Handler.label : Handler → String
  | .styled => "RichHandler"
  | .stream => "StreamHandler"

/-- The package logger's level and its handler, if one has been attached. -/
structure Setup where
  level : Int := 0
  handler? : Option Handler := none
deriving DecidableEq, Repr

/-- Why a level is refused. -/
inductive LevelError where
  | unknownName (name : String)
  | wrongKind (given : Value)

def LevelError.fault : LevelError → Fault
  | .unknownName name => .builtin "ValueError" ("Unknown level: " ++ Text.quoted name)
  | .wrongKind given =>
    .builtin "TypeError" ("Level not an integer or a valid string: " ++ given.literal)

def levelNamed? : String → Option Int
  | "CRITICAL" | "FATAL" => some 50
  | "ERROR" => some 40
  | "WARN" | "WARNING" => some 30
  | "INFO" => some 20
  | "DEBUG" => some 10
  | "NOTSET" => some 0
  | _ => none

def levelOf : Value → Except LevelError Int
  | .int n => .ok n
  | .bool b => .ok (if b then 1 else 0)
  | .text name =>
    match levelNamed? name with
    | some n => .ok n
    | none => .error (.unknownName name)
  | given => .error (.wrongKind given)

def defaultLevel : Value := .int 30

/-- Sets the level and attaches a handler if there is none yet. -/
def Setup.apply (s : Setup) (level : Value) (styled : Bool) : Except LevelError Setup := do
  let level ← levelOf level
  return { level, handler? := some (s.handler?.getD (if styled then .styled else .stream)) }

end CodeBehind.Log
