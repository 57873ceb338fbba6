import CodeBehind.Fault
import CodeBehind.Value

/-!
Values as dictionaries.

Anything whose parts are pairs can be made into a dictionary. Keys may be any values but lists and
dictionaries, and numbers that are equal are one key, whatever their kind. A key keeps its place and
the form in which it came first when its value is replaced.
-/

namespace CodeBehind

namespace Value

/-- A number as a quotient of an integer and a positive natural. Truth values count as numbers. -/
def ratio? : Value → Option (Int × Nat)
  | .bool b => some (if b then 1 else 0, 1)
  | .int n => some (n, 1)
  | .float x => x.ratio?
  | _ => none

def isSameKey (a b : Value) : Bool :=
  match a, b with
  | .null, .null => true
  | .text s, .text t => s == t
  | .float (.infinite s), .float (.infinite t) => s == t
  | a, b =>
    match a.ratio?, b.ratio? with
    | some (m, d), some (n, e) => m * e == n * d
    | _, _ => false

end Value

abbrev Entries := List (Value × Value)

namespace Entries

def put (d : Entries) (key value : Value) : Entries :=
  match d with
  | [] => [(key, value)]
  | (k, v) :: rest =>
    if k.isSameKey key then (k, value) :: rest else (k, v) :: put rest key value

def merge (d e : Entries) : Entries :=
  e.foldl (fun d kv => d.put kv.1 kv.2) d

def ofFields (fields : List (String × Value)) : Entries :=
  fields.map fun f => (.text f.1, f.2)

/-- The fields of a dictionary all of whose keys are texts. -/
def fields? (d : Entries) : Option (List (String × Value)) :=
  d.mapM fun
    | (.text k, v) => some (k, v)
    | _ => none

def toValue (d : Entries) : Value :=
  match d.fields? with
  | some fields => .object fields
  | none => .mapping d

/-! ### Dictionaries of values -/

def checkKey (v : Value) : Except Fault Unit :=
  match v with
  | .list _ | .object _ | .mapping _ =>
    .error (.builtin "TypeError" ("unhashable type: '" ++ v.kindName ++ "'"))
  | _ => .ok ()

/-- The parts of a value that has parts: the elements of a list, the characters of a text, the keys
of a dictionary. -/
def parts? : Value → Option (List Value)
  | .list xs => some xs
  | .text s => some (s.toList.map fun c => .text c.toString)
  | .object fields => some (fields.map fun f => .text f.1)
  | .mapping entries => some (entries.map (·.1))
  | _ => none

/-- The entry that a value with two parts makes, as element number `i` of its list. -/
def pair (i : Nat) (v : Value) : Except Fault (Value × Value) :=
  match parts? v with
  | some [k, x] => do
    checkKey k
    return (k, x)
  | some parts =>
    .error (.builtin "ValueError"
      ("dictionary update sequence element #" ++ Nat.repr i ++ " has length " ++
        Nat.repr parts.length ++ "; 2 is required"))
  | none =>
    .error (.builtin "TypeError"
      ("cannot convert dictionary update sequence element #" ++ Nat.repr i ++ " to a sequence"))

/-- The entries that values make, the first of them being element number `i`. -/
def pairs (i : Nat) : List Value → Except Fault Entries
  | [] => .ok []
  | v :: rest => do return (← pair i v) :: (← pairs (i + 1) rest)

/-- A value as a dictionary: anything with parts that is none must have pairs for parts. -/
def ofValue (v : Value) : Except Fault Entries :=
  match v with
  | .object fields => .ok (ofFields fields)
  | .mapping entries => .ok entries
  | v =>
    match parts? v with
    | some parts => do return merge [] (← pairs 0 parts)
    | none =>
      .error (.builtin "TypeError" ("'" ++ v.kindName ++ "' object is not iterable"))

end Entries

end CodeBehind
