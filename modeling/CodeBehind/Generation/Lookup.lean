import CodeBehind.Generation.Services
import CodeBehind.Thing.Call

/-!
Finding services by their path.

Services are named by a module and an attribute path with a colon between them. The attribute path
leads from the module through the members of what it finds, and at its end there must be something
that can be called. Whether the call provides services is seen when a generation makes it.

Importing a module runs its code, and so may asking for a member, so both can raise any fault. A
fault of importing and a missing attribute are told as faults of the command line; every other fault
passes as it is.
-/

namespace CodeBehind

/-- What a module holds: something that provides services, something with members of its own, or any
other thing. A member comes with what asking for it comes to. -/
inductive Member where
  | provider (services : Except Fault Services)
  | group (members : List (String × Except Fault Member))
  | thing (t : Thing)

/-! ### Members -/

/-- The parts of a provider that are no methods. -/
def providerParts : Assoc Value := [
  ("__annotations__", .object []),
  ("__builtins__", .object []),
  ("__closure__", .null),
  ("__code__", .null),
  ("__defaults__", .null),
  ("__dict__", .object []),
  ("__doc__", .null),
  ("__globals__", .object []),
  ("__kwdefaults__", .null),
  ("__module__", .text ""),
  ("__name__", .text ""),
  ("__qualname__", .text "")]

/-- The parts of a group that are no methods, besides its members. -/
def groupParts : Assoc Value := [
  ("__dict__", .object []),
  ("__doc__", .null),
  ("__loader__", .null),
  ("__name__", .text ""),
  ("__package__", .text ""),
  ("__spec__", .null)]

/-- A part among `parts` or else a member of a thing of a kind. -/
def Member.partOf? (parts : Assoc Value) (kind name : String) : Option Member :=
  match parts.get? name with
  | some v => some (.thing (.value v))
  | none => ((Thing.other kind "").member? name).map .thing

namespace Member

/-- The kind of the fault of asking for a member that is not there. -/
def missing : String := "AttributeError"

/-- A member by its name, if the thing says anything of this name. Calling the call of a provider is
calling the provider. -/
def get? (m : Member) (name : String) : Option (Except Fault Member) :=
  match m with
  | .provider _ =>
    if name = "__call__" then some (.ok m) else (partOf? providerParts "function" name).map .ok
  | .group members =>
    (Assoc.get? members name).orElse fun _ => (partOf? groupParts "module" name).map .ok
  | .thing t => (t.member? name).map fun part => .ok (.thing part)

/-- What a path of names leads to. -/
def follow (m : Member) : List String → Except Fault Member
  | [] => .ok m
  | name :: rest => do
    let next ← (m.get? name).getD (.error (.builtin missing name))
    next.follow rest

end Member

/-! ### Modules -/

/-- A module that has been imported: its members, each with what asking for it comes to, and whether
other modules may lie below it. -/
structure LoadedModule where
  members : List (String × Except Fault Member)
  isPackage : Bool := false

/-- The modules that there are, by their names in full, each with what importing it comes to where
the one above it has been imported. Importing goes through the parts of a dotted name one inside
the other, and the interpreter allows only so many of them. -/
structure Modules where
  outcomes : Assoc (Except Fault LoadedModule)
  depth : Nat := 240

def Fault.commandLine (text : String) : Fault :=
  ⟨.commandLine, some text⟩

/-- What the handler of a fault makes of the fault's description. Asking for a missing one fails. -/
def Fault.toldAs (f : Fault) (told : String → Fault) : Fault :=
  f.description?.elim .indescribable told

namespace Modules

def notFound (text : String) : Fault :=
  ⟨Fault.kindNamed "ModuleNotFoundError", some ("No module named " ++ text)⟩

def relative (name : String) : Fault :=
  .builtin "TypeError" ("the 'package' argument is required to perform a relative import for " ++
    Text.quoted name)

/-- Imports the modules with the given parts of a name below the module with a name. -/
def importBelow (modules : Modules) (name : String) (m : LoadedModule) :
    List String → Except Fault LoadedModule
  | [] => .ok m
  | part :: rest => do
    let below := name ++ "." ++ part
    match modules.outcomes.get? below with
    | some outcome => modules.importBelow below (← outcome) rest
    | none =>
      throw (notFound (Text.quoted below ++
        if m.isPackage then "" else "; " ++ Text.quoted name ++ " is not a package"))

/-- Imports a module. Of a dotted name the modules above are imported first. -/
def find (modules : Modules) (name : String) : Except Fault LoadedModule := do
  match (Text.splitOn '.' name.toList).map String.ofList with
  | "" :: _ :: _ => throw (relative name)
  | first :: rest =>
    if modules.depth < rest.length then throw (.tooDeep "")
    match modules.outcomes.get? first with
    | some outcome => modules.importBelow first (← outcome) rest
    | none => throw (notFound (Text.quoted first))
  | [] => throw (notFound (Text.quoted name))

def parts? (path : String) : Option (String × String) :=
  let (name, rest) := path.toList.span (· != ':')
  match rest with
  | _ :: attributes =>
    if name.isEmpty || attributes.isEmpty then none
    else some (String.ofList name, String.ofList attributes)
  | [] => none

/-- Something to call for services. -/
inductive Factory where
  | provider (services : Except Fault Services)
  | thing (t : Thing)

def notServices (t : Thing) : Fault :=
  .builtin "AttributeError"
    ((match t with
      | .kind path => "type object '" ++ Thing.lastPart path ++ "'"
      | t => "'" ++ t.kindName ++ "' object") ++ " has no attribute 'get_project_settings'")

def Factory.services : Factory → Except Fault Services
  | .provider services => services
  | .thing t => do throw (notServices (← t.call {}))

/-- A fault of importing the module with a name, as it is told. -/
def toldOfModule (name : String) (f : Fault) : Fault :=
  if f.isA Fault.importing then
    f.toldAs fun text => .commandLine ("Cannot import services module '" ++ name ++ "': " ++ text)
  else f

/-- A fault of asking for the members on an attribute path, as it is told. -/
def toldOfMember (name attributes : String) (f : Fault) : Fault :=
  if f.isA Member.missing then
    .commandLine ("'" ++ name ++ "' has no attribute '" ++ attributes ++ "'")
  else f

def namesOf (attributes : String) : List String :=
  (Text.splitOn '.' attributes.toList).map String.ofList

/-- What a path leads to, which must be something to call. -/
def callable (path : String) : Member → Except Fault Factory
  | .provider services => .ok (.provider services)
  | .thing t =>
    if t.isCallable then .ok (.thing t)
    else .error (.commandLine ("'" ++ path ++ "' is not callable"))
  | .group _ => .error (.commandLine ("'" ++ path ++ "' is not callable"))

/-- What a path names. It can be called. -/
def factory (modules : Modules) (path : String) : Except Fault Factory := do
  let some (name, attributes) := parts? path
    | throw (.commandLine
        ("Services must be given as MODULE:FACTORY, got '" ++ path ++ "'"))
  let m ← (modules.find name).mapError (toldOfModule name)
  let target ← ((Member.group m.members).follow (namesOf attributes)).mapError
    (toldOfMember name attributes)
  callable path target

end Modules

end CodeBehind
