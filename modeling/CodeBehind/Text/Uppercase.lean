import CodeBehind.Text.Lowercase
import CodeBehind.Text.Uppercase.Table

/-!
Upper-casing and the forms made with it.

Every character is replaced by its capital, which may be several characters. In a title only the
first letter of every word is a capital, and of several characters only the first stays one.
-/

namespace CodeBehind.Text

def upperChar (c : Char) : List Char :=
  if c.toNat < 0x80 then [c.toUpper]
  else
    match upperSequences.find? (·.1 == c.toNat) with
    | some (_, codes) => codes.map Char.ofNat
    | none => [(partner? upperRuns c).getD c]

def upper (cs : List Char) : List Char :=
  cs.flatMap upperChar

/-- The form of a text in which spellings that differ in case only are the same. -/
def foldCase (cs : List Char) : List Char :=
  (upper cs).flatMap lowerChar

def titleChar (c : Char) : List Char :=
  match upperChar c with
  | first :: rest => first :: lower rest
  | [] => []

def capitalize : List Char → List Char
  | [] => []
  | c :: rest => titleChar c ++ lowerFrom [c] rest

/-- A text with a capital at the beginning of every word, reading on after `before`, nearest
first. -/
def titleFrom (before : List Char) : List Char → List Char
  | [] => []
  | c :: rest =>
    (if before.head?.any isCased then (lowerFrom before (c :: rest)).take (lowerChar c).length
      else titleChar c) ++ titleFrom (c :: before) rest

def title (cs : List Char) : List Char :=
  titleFrom [] cs

def isCapital (c : Char) : Bool :=
  isCased c && lowerChar c != [c]

def isSmall (c : Char) : Bool :=
  isCased c && !isCapital c

/-- Swaps capitals and small letters, reading on after `before`, nearest first. -/
def swapCaseFrom (before : List Char) : List Char → List Char
  | [] => []
  | c :: rest =>
    (if isCapital c then (lowerFrom before (c :: rest)).take (lowerChar c).length
      else upperChar c) ++ swapCaseFrom (c :: before) rest

def swapCase (cs : List Char) : List Char :=
  swapCaseFrom [] cs

/-- Every word begins with a capital and goes on in small letters, and there is a word. -/
def isTitle (cs : List Char) : Bool :=
  cs.any isCased &&
    (cs.zip (none :: cs.map some)).all fun (c, before) =>
      !isCased c || isCapital c == !before.any isCased

end CodeBehind.Text
