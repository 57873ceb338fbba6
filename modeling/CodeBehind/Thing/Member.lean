import CodeBehind.Thing
import CodeBehind.Value.Entries

/-!
Members of things.

A member is a part that has a name, such as a component of a version, or a method. Every thing has
the members of `common`, and a kind of values has its methods besides. A method says what it is
called and, if it cannot be called without arguments, how it refuses that.
-/

namespace CodeBehind.Thing

/-- A method of a kind, with its refusal to be called without arguments. -/
structure Method where
  name : String
  refusal? : Option String := none

namespace Method

def plain (names : List String) : List Method :=
  names.map fun name => { name }

def operations (names : List String) : List Method :=
  names.map fun name => { name, refusal? := some "expected 1 argument, got 0" }

def ofOne (kind : String) (names : List String) : List Method :=
  names.map fun name =>
    { name, refusal? := some (kind ++ "." ++ name ++ "() takes exactly one argument (0 given)") }

def ofMore (names : List String) : List Method :=
  names.map fun name =>
    { name, refusal? := some (name ++ " expected at least 1 argument, got 0") }

/-- Methods that look for one argument and take more. -/
def ofSearch (names : List String) : List Method :=
  names.map fun name =>
    { name, refusal? := some (name ++ "() takes at least 1 argument (0 given)") }

def common (kind : String) : List Method :=
  plain ["__getstate__", "__init__", "__init_subclass__", "__repr__", "__str__",
    "__subclasshook__"] ++
  operations ["__delattr__", "__eq__", "__ge__", "__getattribute__", "__gt__", "__le__", "__lt__",
    "__ne__"] ++
  ofOne kind ["__format__", "__reduce_ex__"] ++
  [⟨"__new__", some (kind ++ ".__new__(): not enough arguments")⟩,
    ⟨"__reduce__", some ("cannot pickle '" ++ kind ++ "' object")⟩,
    ⟨"__setattr__", some " expected 2 arguments, got 0"⟩]

def ofText : List Method :=
  plain ["__len__", "capitalize", "casefold", "encode", "expandtabs", "format", "isalnum",
    "isalpha", "isascii", "isdecimal", "isdigit", "isidentifier", "islower", "isnumeric",
    "isprintable", "isspace", "istitle", "isupper", "lower", "lstrip", "rsplit", "rstrip", "split",
    "splitlines", "strip", "swapcase", "title", "upper"] ++
  operations ["__add__", "__contains__", "__getitem__", "__mod__", "__rmod__"] ++
  ofOne "str" ["format_map", "join", "partition", "removeprefix", "removesuffix", "rpartition",
    "translate", "zfill"] ++
  ofMore ["center", "ljust", "maketrans", "rjust"] ++
  ofSearch ["count", "endswith", "find", "index", "rfind", "rindex", "startswith"] ++
  [⟨"__mul__", some " expected 1 argument, got 0"⟩,
    ⟨"__rmul__", some " expected 1 argument, got 0"⟩,
    ⟨"replace", some "replace expected at least 2 arguments, got 0"⟩]

def ofNumber : List Method :=
  plain ["__abs__", "__bool__", "__ceil__", "__float__", "__floor__", "__hash__", "__int__",
    "__neg__", "__pos__", "__round__", "__trunc__", "as_integer_ratio", "conjugate"] ++
  operations ["__add__", "__divmod__", "__floordiv__", "__mod__", "__mul__", "__radd__",
    "__rdivmod__", "__rfloordiv__", "__rmod__", "__rmul__", "__rsub__", "__rtruediv__", "__sub__",
    "__truediv__"] ++
  [⟨"__pow__", some " expected at least 1 argument, got 0"⟩,
    ⟨"__rpow__", some " expected at least 1 argument, got 0"⟩]

def ofInt : List Method :=
  plain ["__index__", "__invert__", "bit_count", "bit_length", "to_bytes"] ++
  operations ["__and__", "__lshift__", "__or__", "__rand__", "__rlshift__", "__ror__",
    "__rrshift__", "__rshift__", "__rxor__", "__xor__"] ++
  [⟨"from_bytes", some "from_bytes() missing required argument 'bytes' (pos 1)"⟩]

def ofFloat : List Method :=
  plain ["is_integer"] ++ ofOne "float" ["fromhex"]

def ofList : List Method :=
  plain ["__len__", "clear", "copy", "pop", "reverse", "sort"] ++
  operations ["__add__", "__contains__", "__delitem__", "__iadd__"] ++
  ofOne "list" ["__getitem__", "append", "count", "extend", "remove"] ++
  [⟨"__imul__", some " expected 1 argument, got 0"⟩,
    ⟨"__mul__", some " expected 1 argument, got 0"⟩,
    ⟨"__rmul__", some " expected 1 argument, got 0"⟩,
    ⟨"__setitem__", some " expected 2 arguments, got 0"⟩,
    ⟨"index", some "index expected at least 1 argument, got 0"⟩,
    ⟨"insert", some "insert expected 2 arguments, got 0"⟩]

def ofDictionary : List Method :=
  plain ["__len__", "clear", "copy", "items", "keys", "popitem", "update", "values"] ++
  operations ["__delitem__", "__ior__", "__or__", "__ror__"] ++
  ofOne "dict" ["__contains__", "__getitem__"] ++
  ofMore ["fromkeys", "get", "pop", "setdefault"] ++
  [⟨"__setitem__", some " expected 2 arguments, got 0"⟩]

/-- A refusal of a method of versions that misses the argument called `name`. -/
def ofVersionMissing (method name : String) : Method :=
  ⟨method, some ("Version." ++ method ++ "() missing 1 required positional argument: '" ++ name ++
    "'")⟩

def ofVersion : List Method :=
  plain ["__hash__", "__repr__", "__str__", "to_string"] ++
  ["__eq__", "__ge__", "__gt__", "__le__", "__lt__"].map (ofVersionMissing · "other") ++
  [ofVersionMissing "__delattr__" "name", ofVersionMissing "__init__" "major",
    ofVersionMissing "parse" "text",
    ⟨"__setattr__",
      some "Version.__setattr__() missing 2 required positional arguments: 'name' and 'value'"⟩]

/-- The methods of a thing. Those that its own kind defines come first. -/
def ofThing (t : Thing) : List Method :=
  (match t with
    | .value (.text _) => ofText
    | .value (.int _) | .value (.bool _) => ofInt ++ ofNumber
    | .value (.float _) => ofFloat ++ ofNumber
    | .value (.list _) => ofList
    | .value (.object _) | .value (.mapping _) => ofDictionary
    | .value .null => plain ["__bool__"]
    | .row _ => plain ["__len__"]
    | .version _ => ofVersion
    | .method _ _ => plain ["__call__"]
    | _ => []) ++
  common t.kindName

end Method

def method? (t : Thing) (name : String) : Option Method :=
  (Method.ofThing t).find? (·.name == name)

/-- The part of a kind's path before its name, or the home of the built-in kinds. -/
def kindHome (path : String) : String :=
  match (path.toList.reverse.dropWhile (· != '.')).drop 1 with
  | [] => "builtins"
  | home => String.ofList home.reverse

def versionPart? (v : Version) : String → Option Thing
  | "major" => some (.value (.int v.major))
  | "minor" => some (.value (.int v.minor))
  | "patch" => some (.value (.int v.patch))
  | "__dict__" =>
    some (.value (.object [
      ("major", .int v.major), ("minor", .int v.minor), ("patch", .int v.patch)]))
  | "__doc__" =>
    some (.value (.text "A ``major.minor.patch`` version of the test framework or generator."))
  | "__match_args__" =>
    some (.row [.value (.text "major"), .value (.text "minor"), .value (.text "patch")])
  | "__module__" => some (.value (.text (kindHome Version.kindPath)))
  | _ => none

def intPart? (n : Int) : String → Option Thing
  | "real" | "numerator" => some (.value (.int n))
  | "imag" => some (.value (.int 0))
  | "denominator" => some (.value (.int 1))
  | _ => none

def floatPart? (x : Number.Binary64) : String → Option Thing
  | "real" => some (.value (.float x))
  | "imag" => some (.value (.float (.zero false)))
  | _ => none

/-- The kinds that a kind is one of, from itself to the kind of everything. -/
def ancestors (path : String) : List Thing :=
  (if path = "object" then []
    else if path = "bool" then [.kind path, .kind "int"]
    else [.kind path]) ++ [.kind "object"]

def kindPart? (path : String) : String → Option Thing
  | "__name__" | "__qualname__" => some (.value (.text (lastPart path)))
  | "__module__" => some (.value (.text (kindHome path)))
  | "__mro__" => some (.row (ancestors path))
  | "__bases__" => some (.row (((ancestors path).drop 1).take 1))
  | "__base__" => some (((ancestors path).drop 1).headD (.value .null))
  | _ => none

/-- A part of a thing that is no method. A truth value has the parts of zero or one. -/
def part? (t : Thing) (name : String) : Option Thing :=
  if name = "__class__" then some (.kind t.kindPath)
  else
    match t with
    | .value (.bool b) => intPart? (if b then 1 else 0) name
    | .value (.int n) => intPart? n name
    | .value (.float x) => floatPart? x name
    | .version v => versionPart? v name
    | .value .null => if name = "__doc__" then some t else none
    | .kind path => kindPart? path name
    | .method owner own =>
      match name with
      | "__name__" => some (.value (.text own))
      | "__qualname__" => some (.value (.text (owner.kindName ++ "." ++ own)))
      | "__self__" => some owner
      | _ => none
    | _ => none

def member? (t : Thing) (name : String) : Option Thing :=
  match t.part? name with
  | some part => some part
  | none => (t.method? name).map fun m => .method t m.name

/-! ### Elements -/

/-- Where an index leads in a row of `count` elements. Negative ones count from the end. -/
def position? (count : Nat) (index : Int) : Option Nat :=
  let place := if index < 0 then index + count else index
  if 0 ≤ place ∧ place < count then some place.toNat else none

/-- The number that a value stands for as an index. -/
def index? : Value → Option Int
  | .int n => some n
  | .bool b => some (if b then 1 else 0)
  | _ => none

/-- An element of a thing: a character of a text, an element of a list, the value under a key of a
dictionary. -/
def element? (t : Thing) (key : Value) : Option Thing :=
  match t with
  | .value (.text s) => do
    let i ← position? s.length (← index? key)
    return .value (.text (String.ofList ((s.toList.drop i).take 1)))
  | .value (.list xs) => do return .value (← xs[(← position? xs.length (← index? key))]?)
  | .row parts => do return (← parts[(← position? parts.length (← index? key))]?)
  | .value (.object fields) =>
    ((Entries.ofFields fields).find? (·.1.isSameKey key)).map fun e => .value e.2
  | .value (.mapping entries) => (entries.find? (·.1.isSameKey key)).map fun e => .value e.2
  | .kind path =>
    if path = "dict" ∨ path = "list" then
      some (.other "types.GenericAlias" (path ++ "[" ++ key.literal ++ "]"))
    else none
  | _ => none

end CodeBehind.Thing
