import CodeBehind.Config
import CodeBehind.Json.Printer
import CodeBehind.Json.Reader
import CodeBehind.Text.Lowercase
import CodeBehind.TextFile

/-!
Configuration files.

A configuration file holds one JSON object and its name ends in `.json` in any case. It is strict
UTF-8. Octets that are not, numbers of too many digits and brackets that nest too deeply raise
faults of their own, as does a path that cannot be asked about; all other trouble with the file is a
configuration fault. How deeply brackets may nest is a parameter, as it is for the reader of JSON.
-/

namespace CodeBehind.Config

def fileExtension : String := ".json"

/-- The deepest nesting of brackets where nothing else is said. -/
def usualNesting : Nat := 980

def parse (nesting : Nat) (path : String) (octets : List UInt8) : Except Fault (Assoc Value) := do
  let text ← (Text.Utf8.decode octets).mapError fun e => .builtin "UnicodeDecodeError" e.message
  match Json.read nesting (Text.unifyBreaks text) with
  | .ok (.object settings) => return settings
  | .ok _ => throw (.config ("Configuration file must contain a JSON object: " ++ path))
  | .error ⟨.tooManyDigits count, _⟩ => throw (.builtin "ValueError" (Text.tooManyDigits count))
  | .error ⟨.tooDeep container, _⟩ => throw (.tooDeep (Json.Cause.tooDeep container).message)
  | .error e =>
    throw (.config ("Invalid JSON in configuration file " ++ path ++ ": " ++ e.message))

/-- The fault of an access that failed: what the operating system refuses is a configuration
fault. -/
def refused (task path : String) (e : AccessError) : Fault :=
  let f := e.fault path
  if e.isSystem then .config (task ++ " " ++ path ++ ": " ++ f.description?.getD "") else f

def readSettings (nesting : Nat) (disk : Disk) (path : String) : Except Fault (Assoc Value) := do
  let path := Path.tidy path
  if !(← (disk.exists? path).mapError (·.fault path)) then
    throw (.config ("Configuration file not found: " ++ path))
  if Text.lowercase (Path.extension path) ≠ fileExtension then
    throw (.config ("Configuration file must be JSON: " ++ path))
  let octets ← (disk.read path).mapError (refused "Failed to load configuration file" path)
  parse nesting path octets

/-- Loads a configuration from the file at a path, if one is given, and from overrides. -/
def load (nesting : Nat) (disk : Disk) (file? : Option String) (overrides : Assoc Value) :
    Except Fault Config := do
  match file? with
  | none | some "" => layered [] overrides
  | some path => layered (← readSettings nesting disk path) overrides

/-- Saves a configuration in the file at a path. One whose values nest too deeply is not even
copied for it, and an integer of too many digits is met when the file has been opened. -/
def save (nesting : Nat) (disk : Disk) (c : Config) (path : String) : Except Fault Disk := do
  if nesting < (Value.object c.settings).nesting then
    throw (.tooDeep " while calling a Python object")
  let path := Path.tidy path
  let v ← c.flattened
  let saved ← (disk.write path (Text.Utf8.encode (Json.print v).toList)).mapError
    (refused "Failed to save configuration to" path)
  if v.isWritable then return saved else throw Value.tooLong

end CodeBehind.Config
