/-!
Dictionaries in order of insertion.

An `Assoc` is a list of keys with their values. A new key goes to the end and a key that is there
already keeps its place when its value is replaced, so the order of the keys is the order in which
they came. Looking up reads the first entry of a key.
-/

namespace CodeBehind

/-- A dictionary with texts for keys, in order of insertion. -/
abbrev Assoc (α : Type) := List (String × α)

namespace Assoc

variable {α : Type}

def get? (d : Assoc α) (key : String) : Option α :=
  match d with
  | [] => none
  | (k, v) :: rest => if k = key then some v else get? rest key

def has (d : Assoc α) (key : String) : Bool :=
  (get? d key).isSome

/-- Puts a value under a key, in the key's place if it has one and else at the end. -/
def put (d : Assoc α) (key : String) (value : α) : Assoc α :=
  match d with
  | [] => [(key, value)]
  | (k, v) :: rest => if k = key then (k, value) :: rest else (k, v) :: put rest key value

def erase (d : Assoc α) (key : String) : Assoc α :=
  d.filter (·.1 ≠ key)

/-- Puts the entries of `e` into `d`, one after the other. -/
def merge (d e : Assoc α) : Assoc α :=
  e.foldl (fun d kv => d.put kv.1 kv.2) d

def keys (d : Assoc α) : List String :=
  d.map (·.1)

end Assoc

end CodeBehind
