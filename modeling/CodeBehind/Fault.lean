/-!
Faults.

Whatever a collaborator raises is data here: its kind, which says what it is called, where it is at
home and which known kinds it is a case of, and its description. Asking a fault to describe itself
may fail in its turn, so the description is optional. Interrupting faults ask the whole program to
stop; nothing in this library contains them.
-/

namespace CodeBehind

/-- The kind of a fault: its short name, the module it is at home in, its name inside that module,
and whether it interrupts the program. Its lineage names the kinds of this package and the built-in
ones that it is a case of, itself among them if it is one of these: a name alone tells nothing,
since anybody may use it again. -/
structure FaultKind where
  name : String
  home : String
  qualname : String
  interrupting : Bool
  lineage : List String := []
deriving DecidableEq, Repr

namespace FaultKind

/-- A kind at home among the built-in ones. -/
def builtin (name : String) : FaultKind :=
  { name, home := "builtins", qualname := name, interrupting := false, lineage := [name] }

/-- A kind of this package, at home in the module with the given path below the package. -/
def packaged (name path : String) : FaultKind where
  name
  home := "featuregen." ++ path
  qualname := name
  interrupting := false
  lineage := [name]

def config : FaultKind := packaged "ConfigError" "codegen.core.config"

def generator : FaultKind := packaged "GeneratorError" "codegen.core.generator"

def template : FaultKind := packaged "TemplateError" "codegen.core.templates"

def registry : FaultKind := packaged "RegistryError" "codegen.registry"

def fileAccess : FaultKind := packaged "FileIOError" "utils"

def commandLine : FaultKind := packaged "CLIError" "cli"

/-- The line that names a kind in full. -/
def source (k : FaultKind) : String :=
  k.home ++ "." ++ k.qualname

end FaultKind

/-- A raised fault. The description is missing when asking for it fails. -/
structure Fault where
  kind : FaultKind
  description? : Option String
deriving DecidableEq, Repr

namespace Fault

/-- A fault of a built-in kind with its description. -/
def builtin (name text : String) : Fault :=
  ⟨.builtin name, some text⟩

def isOrdinary (f : Fault) : Bool :=
  !f.kind.interrupting

/-- The fault is a case of the known kind with this name. -/
def isA (f : Fault) (name : String) : Bool :=
  f.kind.lineage.contains name

/-- The fault of asking a fault for its description where that fails. Which one it is nobody looks
at. -/
def indescribable : Fault :=
  .builtin "RuntimeError" ""

/-- The fault of going deeper than the interpreter allows, with what it was about. -/
def tooDeep (task : String) : Fault :=
  .builtin "RecursionError" ("maximum recursion depth exceeded" ++ task)

/-- A fault as it leaves values that are made one by one. There the end of the values must not be
signalled from inside, so the fault that signals it becomes another one. -/
def leavingIteration (f : Fault) : Fault :=
  if f.isA "StopIteration" then .builtin "RuntimeError" "generator raised StopIteration" else f

/-- What a report says of a fault: its description, or the name of its kind where the description is
empty or missing. -/
def summary (f : Fault) : String :=
  match f.description? with
  | some text => if text.isEmpty then f.kind.name else text
  | none => f.kind.name

end Fault

end CodeBehind
