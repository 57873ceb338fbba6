import CodeBehind.Fault.Text

/-!
Faults of the operating system.

A system fault shows an error number, a text and the files concerned. The error number also decides
which kind of system fault a general one is.
-/

namespace CodeBehind.Fault

def systemNames : List String :=
  ["OSError", "BlockingIOError", "BrokenPipeError", "ChildProcessError", "ConnectionAbortedError",
    "ConnectionError", "ConnectionRefusedError", "ConnectionResetError", "FileExistsError",
    "FileNotFoundError", "InterruptedError", "IsADirectoryError", "NotADirectoryError",
    "PermissionError", "ProcessLookupError", "TimeoutError"]

/-- The kind of system fault that an error number stands for, where there is one of its own. -/
def systemNameOf? : Int → Option String
  | 1 | 13 => some "PermissionError"
  | 2 => some "FileNotFoundError"
  | 3 => some "ProcessLookupError"
  | 4 => some "InterruptedError"
  | 10 => some "ChildProcessError"
  | 11 | 114 | 115 => some "BlockingIOError"
  | 17 => some "FileExistsError"
  | 20 => some "NotADirectoryError"
  | 21 => some "IsADirectoryError"
  | 32 | 108 => some "BrokenPipeError"
  | 103 => some "ConnectionAbortedError"
  | 104 => some "ConnectionResetError"
  | 110 => some "TimeoutError"
  | 111 => some "ConnectionRefusedError"
  | _ => none

/-- The error number of a system fault. Truth values count as numbers. -/
def errorNumber? : Value → Option Int
  | .int n => some n
  | .bool b => some (if b then 1 else 0)
  | _ => none

/-- The name of the kind that is raised for a name of a system fault and its arguments: a general
one with an error number becomes the particular one. -/
def systemName (name : String) (args : List Value) : String :=
  match name, args with
  | "OSError", number :: _ :: rest =>
    if rest.length ≤ 3 then ((errorNumber? number).bind systemNameOf?).getD name else name
  | name, _ => name

/-- A value in the place of the file is a count of what got through before blocking, if it is a
number. -/
def isCount : Value → Bool
  | .int _ | .bool _ | .float _ => true
  | _ => false

def countTooLarge : Fault :=
  .builtin "ValueError" "cannot fit 'int' into an index-sized integer"

/-- The files that a system fault shows, of the arguments after the error number and the text. -/
def systemFiles (name : String) (rest : List Value) : Except Fault (List Value) :=
  match rest with
  | [] | .null :: _ => .ok []
  | file :: more =>
    if name = "BlockingIOError" ∧ isCount file then do
      let _ ← index countTooLarge file
      return []
    else
      match more with
      | [_, .null] | [_] | [] => .ok [file]
      | _ :: other :: _ => .ok [file, other]

def systemText (name : String) (args : List Value) : Except Fault String :=
  match args with
  | number :: text :: rest =>
    if rest.length ≤ 3 then do
      let head := "[Errno " ++ number.display ++ "] " ++ text.display
      let files ← systemFiles name rest
      return if files.isEmpty then head
        else head ++ ": " ++ " -> ".intercalate (Value.literals files)
    else .ok (plainText args)
  | args => .ok (plainText args)

end CodeBehind.Fault
