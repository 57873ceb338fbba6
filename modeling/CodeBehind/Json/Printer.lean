import CodeBehind.Value

/-!
Writing JSON.

A value is laid out over several lines, with two spaces for each level of nesting and one line for
each element. Only what JSON requires is escaped. Numbers with a fraction have the fewest digits
that read back as the same number.
-/

namespace CodeBehind.Json

open Number (Binary64)

def escape (c : Char) : List Char :=
  match c with
  | '"' => ['\\', '"']
  | '\\' => ['\\', '\\']
  | '\n' => ['\\', 'n']
  | '\r' => ['\\', 'r']
  | '\t' => ['\\', 't']
  | '\x08' => ['\\', 'b']
  | '\x0c' => ['\\', 'f']
  | c =>
    if c.toNat < 0x20 then
      ['\\', 'u', '0', '0', Nat.digitChar (c.toNat / 16), Nat.digitChar (c.toNat % 16)]
    else [c]

def quoted (s : String) : String :=
  String.ofList ('"' :: s.toList.flatMap escape ++ ['"'])

/-- A number with a fraction, or one that is not finite. -/
def floatText : Binary64 → String
  | .nan => "NaN"
  | .infinite negative => if negative then "-Infinity" else "Infinity"
  | x => String.ofList x.text

/-- The text of a key. A key that is no text is written as a value would be. -/
def keyText : Value → String
  | .text s => s
  | .null => "null"
  | .bool b => if b then "true" else "false"
  | .int n => Value.intText n
  | .float x => floatText x
  | v => v.literal

def newLine (level : Nat) : String :=
  "\n" ++ "".pushn ' ' (2 * level)

/-- Lays out elements that have been written, one on a line, between two marks. -/
def layOut (opening closing : String) (level : Nat) (items : List String) : String :=
  if items.isEmpty then opening ++ closing
  else
    opening ++ newLine (level + 1) ++ ("," ++ newLine (level + 1)).intercalate items ++
      newLine level ++ closing

mutual

/-- Writes a value at a level of nesting. -/
def printAt (level : Nat) : Value → String
  | .null => "null"
  | .bool b => if b then "true" else "false"
  | .int n => Value.intText n
  | .float x => floatText x
  | .text s => quoted s
  | .list xs => layOut "[" "]" level (printElements (level + 1) xs)
  | .object fields => layOut "\x7b" "\x7d" level (printMembers (level + 1) fields)
  | .mapping entries => layOut "\x7b" "\x7d" level (printEntries (level + 1) entries)

def printElements (level : Nat) : List Value → List String
  | [] => []
  | x :: xs => printAt level x :: printElements level xs

def printMembers (level : Nat) : List (String × Value) → List String
  | [] => []
  | (k, v) :: rest => (quoted k ++ ": " ++ printAt level v) :: printMembers level rest

def printEntries (level : Nat) : List (Value × Value) → List String
  | [] => []
  | (k, v) :: rest => (quoted (keyText k) ++ ": " ++ printAt level v) :: printEntries level rest

end

def print (v : Value) : String :=
  printAt 0 v

end CodeBehind.Json
