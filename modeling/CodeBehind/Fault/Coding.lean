import CodeBehind.Fault.Text

/-!
Faults of coding.

A fault of encoding or translating names the characters that could not be coded by their positions,
and a single one by its number. A fault of decoding would name octets, and no value holds octets, so
it cannot be made of values at all.
-/

namespace CodeBehind.Fault

def codingNames : List String :=
  ["UnicodeEncodeError", "UnicodeDecodeError", "UnicodeTranslateError"]

def wrongCount (needed : Nat) (args : List Value) : Fault :=
  typeError ("function takes exactly " ++ Nat.repr needed ++ " arguments (" ++
    Nat.repr args.length ++ " given)")

def positionTooLarge : Fault :=
  .builtin "OverflowError" "Python int too large to convert to C ssize_t"

def escapedNumber (c : Char) : String :=
  let n := c.toNat
  let (mark, width) :=
    if n ≤ 0xFF then ("\\x", 2) else if n ≤ 0xFFFF then ("\\u", 4) else ("\\U", 8)
  let digits := Nat.toDigits 16 n
  mark ++ String.ofList (List.replicate (width - digits.length) '0' ++ digits)

/-- The characters from one position up to another one, and where they are. -/
def charactersText (text : String) (start stop : Int) : String :=
  let single? : Option Char :=
    if 0 ≤ start ∧ stop = start + 1 then text.toList[start.toNat]? else none
  match single? with
  | some c => "character '" ++ escapedNumber c ++ "' in position " ++ Value.intText start
  | none =>
    "characters in position " ++ Value.intText start ++ "-" ++ Value.intText (stop - 1)

def codingText (name : String) (args : List Value) : Except Fault String :=
  match name, args with
  | "UnicodeTranslateError", [text, start, stop, reason] => do
    let text ← textArgument 1 text
    let start ← index positionTooLarge start
    let stop ← index positionTooLarge stop
    let reason ← textArgument 4 reason
    return "can't translate " ++ charactersText text start stop ++ ": " ++ reason
  | "UnicodeTranslateError", args => .error (wrongCount 4 args)
  | "UnicodeEncodeError", [coding, text, start, stop, reason] => do
    let coding ← textArgument 1 coding
    let text ← textArgument 2 text
    let start ← index positionTooLarge start
    let stop ← index positionTooLarge stop
    let reason ← textArgument 5 reason
    return "'" ++ coding ++ "' codec can't encode " ++ charactersText text start stop ++ ": " ++
      reason
  | _, [coding, octets, start, stop, reason] => do
    let _ ← textArgument 1 coding
    let _ ← index positionTooLarge start
    let _ ← index positionTooLarge stop
    let _ ← textArgument 5 reason
    throw (typeError ("a bytes-like object is required, not '" ++ octets.kindName ++ "'"))
  | _, args => .error (wrongCount 5 args)

end CodeBehind.Fault
