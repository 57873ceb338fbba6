import CodeBehind.Assoc
import CodeBehind.Console.Colour
import CodeBehind.Text.Blank

/-!
Styles of the console.

A style is written as words: attributes, each of which may be denied, a colour, a background and a
link, in any order and with short forms for some attributes. `Style.canonical` writes every style in
one way, so two tags mean the same style exactly when their canonical forms agree. What is no style
stands for itself in lower case.
-/

namespace CodeBehind.Console

/-- A style: what is said of its attributes, and its colour, background and link. -/
structure Style where
  attributes : Assoc Bool := []
  colour? : Option String := none
  background? : Option String := none
  link? : Option String := none
deriving DecidableEq, Repr

namespace Style

/-- The attributes, in the order in which they are written. -/
def attributeNames : List String := [
  "bold", "dim", "italic", "underline", "blink", "blink2", "reverse", "conceal", "strike",
  "underline2", "frame", "encircle", "overline"]

def shortNames : Assoc String := [
  ("b", "bold"), ("d", "dim"), ("i", "italic"), ("u", "underline"), ("r", "reverse"),
  ("c", "conceal"), ("s", "strike"), ("uu", "underline2"), ("o", "overline")]

def attribute? (name : String) : Option String :=
  if attributeNames.contains name then some name else shortNames.get? name

def addWord (s : Style) (word : String) : Except ColourError (Option Style) := do
  let word := Text.lowercase word
  match attribute? word with
  | some a => return some { s with attributes := s.attributes.put a true }
  | none => return if ← isColour word then some { s with colour? := some word } else none

/-- Adds what words say. Some words need another one after them. -/
def addWords (s : Style) : List String → Except ColourError (Option Style)
  | [] => .ok (some s)
  | [word] => s.addWord word
  | word :: next :: rest => do
    match Text.lowercase word with
    | "on" =>
      let colour := Text.lowercase next
      if ← isColour colour then addWords { s with background? := some colour } rest
      else return none
    | "not" =>
      match attribute? next with
      | some a => addWords { s with attributes := s.attributes.put a false } rest
      | none => return none
    | "link" => addWords { s with link? := some next } rest
    | _ =>
      match ← s.addWord word with
      | some s => addWords s (next :: rest)
      | none => return none

/-- The style that a text describes, if it describes one. -/
def read (cs : List Char) : Except ColourError (Option Style) :=
  if String.ofList (Text.trim cs) = "none" then .ok (some {})
  else addWords {} ((Text.words cs).map String.ofList)

def words (s : Style) : List String :=
  attributeNames.filterMap (fun a =>
    (s.attributes.get? a).map fun holds => if holds then a else "not " ++ a) ++
    s.colour?.toList ++ s.background?.toList.map ("on " ++ ·) ++ s.link?.toList.map ("link " ++ ·)

def text (s : Style) : String :=
  if s.words.isEmpty then "none" else " ".intercalate s.words

def canonical (cs : List Char) : Except ColourError String := do
  match ← read cs with
  | some s => return s.text
  | none => return Text.lowercase (String.ofList (Text.trim cs))

end Style

end CodeBehind.Console
