import CodeBehind.Disk
import CodeBehind.Log
import CodeBehind.Text.Lines
import CodeBehind.Text.Utf8

/-!
Text files.

These are the reader and the writer of a generation that works on a disk. Both take UTF-8. The
reader passes over a byte order mark and unifies line ends, the writer writes the text as it is.
-/

namespace CodeBehind

/-- What a call comes back with: the records it logged and its result or fault. -/
structure Reply (α : Type) where
  logs : List LogRecord := []
  outcome : Except Fault α

namespace TextFile

def accessFault (text : String) : Fault :=
  ⟨.fileAccess, some text⟩

/-- The fault of an access that failed: what the operating system refuses is told with the task it
was in the way of. -/
def refused (task path : String) (e : AccessError) : Fault :=
  let f := e.fault path
  if e.isSystem then accessFault (task ++ " file " ++ path ++ ": " ++ f.description?.getD "") else f

/-- The text that octets stand for: without byte order mark and with unified line ends. -/
def decode (octets : List UInt8) : Except Text.Utf8.DecodeError String := do
  return String.ofList (Text.unifyBreaks (← Text.Utf8.decodeMarked octets))

def contents (disk : Disk) (path : String) : Except Fault String := do
  let octets ← (disk.read path).mapError (refused "Error reading" path)
  (decode octets).mapError fun e =>
    accessFault ("File " ++ path ++ " is not valid UTF-8: " ++ e.message)

def read (disk : Disk) (path : String) : Reply String :=
  let path := Path.tidy path
  let asked := [LogRecord.debug ("Reading input file: " ++ path)]
  let missing := "File not found: " ++ path
  match disk.exists? path with
  | .error e => ⟨asked, .error (e.fault path)⟩
  | .ok false =>
    ⟨asked ++ [.error missing], .error (.builtin "FileNotFoundError" missing)⟩
  | .ok true => ⟨asked, contents disk path⟩

def write (disk : Disk) (path content : String) : Reply Disk :=
  let path := Path.tidy path
  { logs := [.debug ("Writing output file: " ++ path ++ " (" ++ Nat.repr content.length ++
      " chars)")]
    outcome := (disk.write path (Text.Utf8.encode content.toList)).mapError
      (refused "Error writing" path) }

end TextFile

end CodeBehind
