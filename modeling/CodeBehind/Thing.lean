import CodeBehind.Version

/-!
Things.

A name in a template or a path of the command line leads to a thing: a value, a version, a row of
things, a kind of things, a method of one, or something that is only known by its kind and its text.
Things have members (`Thing.Member`), and some of them can be called (`Thing.Call`).
-/

namespace CodeBehind

/-- What names and paths lead to. A kind is given by its full path. Nothing is known of other things
but the path of their kind and their text. -/
inductive Thing where
  | value (v : Value)
  | version (v : Version)
  | row (parts : List Thing)
  | kind (path : String)
  | method (owner : Thing) (name : String)
  | other (kind text : String)

def Version.literal (v : Version) : String :=
  "Version(major=" ++ Value.intText v.major ++ ", minor=" ++ Value.intText v.minor ++ ", patch=" ++
    Value.intText v.patch ++ ")"

/-- The path of the kind of versions. -/
def Version.kindPath : String :=
  "featuregen.codegen.core.models.Version"

namespace Thing

/-- Methods of versions that are at home with their kind, not with a single version. -/
def kindMethods : List String :=
  ["parse"]

/-- Methods that are operations of their kind and carry names of a form of their own. -/
def operations : List String := [
  "__abs__", "__add__", "__and__", "__bool__", "__contains__", "__delattr__", "__divmod__",
  "__eq__", "__float__", "__floordiv__", "__ge__", "__getattribute__", "__getitem__", "__gt__",
  "__index__", "__init__", "__int__", "__invert__", "__le__", "__len__", "__lshift__", "__lt__",
  "__mod__", "__mul__", "__ne__", "__neg__", "__or__", "__pos__", "__pow__", "__radd__",
  "__rand__", "__rdivmod__", "__repr__", "__rfloordiv__", "__rlshift__", "__rmod__", "__rmul__",
  "__ror__", "__rpow__", "__rrshift__", "__rshift__", "__rsub__", "__rtruediv__", "__rxor__",
  "__setattr__", "__str__", "__sub__", "__truediv__", "__xor__"]

/-- The path of the kind that a thing is of. -/
def kindPath : Thing → String
  | .value v => v.kindName
  | .version _ => Version.kindPath
  | .row _ => "tuple"
  | .kind _ => "type"
  | .method (.version _) _ => "method"
  | .method _ name =>
    if operations.contains name then "method-wrapper" else "builtin_function_or_method"
  | .other k _ => k

def lastPart (path : String) : String :=
  String.ofList ((path.toList.reverse.takeWhile (· != '.')).reverse)

def kindName (t : Thing) : String :=
  lastPart t.kindPath

/-- A thing as a message about its members names it. -/
def owner : Thing → String
  | .value .null => Value.null.literal
  | t => t.kindPath ++ " object"

mutual

def literal : Thing → String
  | .value v => v.literal
  | .version v => v.literal
  | .row parts =>
    "(" ++ ", ".intercalate (literals parts) ++ (if parts.length = 1 then ",)" else ")")
  | .kind path => "<class '" ++ path ++ "'>"
  | .method (.version v) name =>
    "<bound method Version." ++ name ++ " of " ++
      (if kindMethods.contains name then "<class '" ++ Version.kindPath ++ "'>" else v.literal) ++
      ">"
  | .method owner name =>
    (if operations.contains name then "<method-wrapper '" ++ name ++ "'"
      else "<built-in method " ++ name) ++ " of " ++ owner.kindName ++ " object>"
  | .other _ text => text

def literals : List Thing → List String
  | [] => []
  | t :: rest => literal t :: literals rest

end

def display : Thing → String
  | .value v => v.display
  | .version v => v.digits 3
  | t => t.literal

mutual

/-- A thing can be written: no integer in it has too many digits. -/
def isWritable : Thing → Bool
  | .value v => v.isWritable
  | .version v => v.isWritable 3
  | .row parts => areWritable parts
  | .method (.version v) name => kindMethods.contains name || v.isWritable 3
  | .kind _ | .method _ _ | .other _ _ => true

/-- `isWritable` for the parts of a row. -/
def areWritable : List Thing → Bool
  | [] => true
  | t :: rest => isWritable t && areWritable rest

end

/-- The text of a thing, if the thing can be written. -/
def ifWritable (t : Thing) (text : String) : Except Fault String :=
  if t.isWritable then .ok text else .error Value.tooLong

/-- A thing as it is printed, unless it cannot be written. -/
def shown (t : Thing) : Except Fault String :=
  t.ifWritable t.display

/-- Things that stand for nothing given. -/
def isVoid : Thing → Bool
  | .value v => v.isVoid
  | .row parts => parts.isEmpty
  | _ => false

end Thing

end CodeBehind
