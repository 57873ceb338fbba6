import CodeBehind.Assoc
import CodeBehind.Fault
import CodeBehind.Number.Shortest
import CodeBehind.Text.Digits
import CodeBehind.Text.Quoted

/-!
Configuration values.

A configuration file holds values of seven kinds, nested at will, and the same values serve as the
arguments of a fault and the variables of a template. Values of an eighth kind, dictionaries with
keys that are no texts, come up when lists of pairs are made into dictionaries. `literal` writes a
value so that its kind can be seen, `display` is the same except that a text stands for itself. A
value with an integer of too many digits in it cannot be written (`isWritable`).
-/

namespace CodeBehind

open Number (Binary64)

/-- A value of a configuration file. Objects keep their fields in order, and so do mappings, which
have some key that is no text. -/
inductive Value where
  | null
  | bool (b : Bool)
  | int (n : Int)
  | float (x : Binary64)
  | text (s : String)
  | list (xs : List Value)
  | object (fields : List (String × Value))
  | mapping (entries : List (Value × Value))
deriving Repr, BEq, Inhabited

namespace Value

def kindName : Value → String
  | .null => "NoneType"
  | .bool _ => "bool"
  | .int _ => "int"
  | .float _ => "float"
  | .text _ => "str"
  | .list _ => "list"
  | .object _ | .mapping _ => "dict"

/-- Values that stand for nothing given: null, false, zero and whatever is empty. -/
def isVoid : Value → Bool
  | .null => true
  | .bool b => !b
  | .int n => n == 0
  | .float x => x.isZero
  | .text s => s.isEmpty
  | .list xs => xs.isEmpty
  | .object fields => fields.isEmpty
  | .mapping entries => entries.isEmpty

def intText (n : Int) : String :=
  (if n < 0 then "-" else "") ++ Nat.repr n.natAbs

def boolText (b : Bool) : String :=
  if b then "True" else "False"

mutual

/-- A value written so that its kind can be seen: texts are quoted. -/
def literal : Value → String
  | .null => "None"
  | .bool b => boolText b
  | .int n => intText n
  | .float x => String.ofList x.text
  | .text s => Text.quoted s
  | .list xs => "[" ++ ", ".intercalate (literals xs) ++ "]"
  | .object fields => "\x7b" ++ ", ".intercalate (fieldLiterals fields) ++ "\x7d"
  | .mapping entries => "\x7b" ++ ", ".intercalate (entryLiterals entries) ++ "\x7d"

def literals : List Value → List String
  | [] => []
  | x :: xs => literal x :: literals xs

def fieldLiterals : List (String × Value) → List String
  | [] => []
  | (k, v) :: rest => (Text.quoted k ++ ": " ++ literal v) :: fieldLiterals rest

def entryLiterals : List (Value × Value) → List String
  | [] => []
  | (k, v) :: rest => (literal k ++ ": " ++ literal v) :: entryLiterals rest

end

/-- A value as it is printed: a text stands for itself. -/
def display : Value → String
  | .text s => s
  | v => v.literal

/-! ### What can be written -/

def tooLong : Fault :=
  .builtin "ValueError" Text.tooLong

/-- An integer has no more digits than are written. -/
def isWritableInt (n : Int) : Bool :=
  (Nat.repr n.natAbs).length ≤ Text.maxDigits

mutual

/-- Every integer in a value can be written. -/
def isWritable : Value → Bool
  | .int n => isWritableInt n
  | .list xs => areWritable xs
  | .object fields => fieldsAreWritable fields
  | .mapping entries => entriesAreWritable entries
  | .null | .bool _ | .float _ | .text _ => true

def areWritable : List Value → Bool
  | [] => true
  | x :: xs => isWritable x && areWritable xs

def fieldsAreWritable : List (String × Value) → Bool
  | [] => true
  | (_, v) :: rest => isWritable v && fieldsAreWritable rest

def entriesAreWritable : List (Value × Value) → Bool
  | [] => true
  | (k, v) :: rest => isWritable k && isWritable v && entriesAreWritable rest

end

mutual

/-- How deeply the brackets of a value nest. -/
def nesting : Value → Nat
  | .list xs => nestingOfElements xs + 1
  | .object fields => nestingOfFields fields + 1
  | .mapping entries => nestingOfEntries entries + 1
  | .null | .bool _ | .int _ | .float _ | .text _ => 0

def nestingOfElements : List Value → Nat
  | [] => 0
  | x :: xs => max (nesting x) (nestingOfElements xs)

def nestingOfFields : List (String × Value) → Nat
  | [] => 0
  | (_, v) :: rest => max (nesting v) (nestingOfFields rest)

def nestingOfEntries : List (Value × Value) → Nat
  | [] => 0
  | (k, v) :: rest => max (max (nesting k) (nesting v)) (nestingOfEntries rest)

end

end Value

end CodeBehind
