import CodeBehind.Fault
import CodeBehind.Value

/-!
Arguments of faults as text.

The description of most faults follows from their arguments alone: nothing for no argument, the
argument itself for one, the whole list in parentheses for several. Some kinds ask for arguments of
certain kinds and cannot be made of others.
-/

namespace CodeBehind.Fault

/-- The description of any fault without a rule of its own. -/
def plainText : List Value → String
  | [] => ""
  | [arg] => arg.display
  | args => "(" ++ ", ".intercalate (Value.literals args) ++ ")"

def typeError (text : String) : Fault :=
  .builtin "TypeError" text

def notIterable (v : Value) : Fault :=
  typeError ("'" ++ v.kindName ++ "' object is not iterable")

def argumentKind : Value → String
  | .null => Value.null.literal
  | v => v.kindName

/-- The argument at a position, counted from one, which must be a text. -/
def textArgument (position : Nat) : Value → Except Fault String
  | .text s => .ok s
  | v =>
    .error (typeError
      ("argument " ++ Nat.repr position ++ " must be str, not " ++ argumentKind v))

def indexBound : Int := 9223372036854775808

/-- A value that can count. An integer that is too large leads to the given fault. -/
def index (tooLarge : Fault) (v : Value) : Except Fault Int :=
  let within (n : Int) : Except Fault Int :=
    if -indexBound ≤ n ∧ n < indexBound then .ok n else .error tooLarge
  match v with
  | .int n => within n
  | .bool b => .ok (if b then 1 else 0)
  | v =>
    .error (typeError ("'" ++ v.kindName ++ "' object cannot be interpreted as an integer"))

end CodeBehind.Fault
