import CodeBehind.Fault.Text
import CodeBehind.Value.Entries

/-!
Faults in a source text.

A fault in a source text has a message and, if it is known, the place: a file, a line, a column and
the text of the line, perhaps followed by the line and the column where the trouble ends.
-/

namespace CodeBehind.Fault

def sourceNames : List String :=
  ["SyntaxError", "IndentationError", "TabError"]

def placeParts (place : Value) : Except Fault (List Value) :=
  match Entries.parts? place with
  | none => .error (notIterable place)
  | some parts =>
    let count := Nat.repr parts.length
    if parts.length < 4 then
      .error (typeError ("function takes at least 4 arguments (" ++ count ++ " given)"))
    else if 6 < parts.length then
      .error (typeError ("function takes at most 6 arguments (" ++ count ++ " given)"))
    else if parts.length = 5 then
      .error (typeError "end_offset must be provided when end_lineno is provided")
    else .ok parts

def lastName (path : String) : String :=
  String.ofList (path.toList.reverse.takeWhile (· != '/')).reverse

/-- The text of a line number, which is one less than zero where the number is too large. -/
def lineText (n : Int) : String :=
  Value.intText (if -indexBound ≤ n ∧ n < indexBound then n else -1)

def placeText (file line : Value) : String :=
  match file, line with
  | .text path, .int n => " (" ++ lastName path ++ ", line " ++ lineText n ++ ")"
  | .text path, _ => " (" ++ lastName path ++ ")"
  | _, .int n => " (line " ++ lineText n ++ ")"
  | _, _ => ""

def sourceText (args : List Value) : Except Fault String :=
  match args with
  | [] => .ok Value.null.display
  | [message, place] => do
    match ← placeParts place with
    | file :: line :: _ => return message.display ++ placeText file line
    | _ => return message.display
  | message :: _ => .ok message.display

end CodeBehind.Fault
