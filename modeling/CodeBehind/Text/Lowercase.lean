import CodeBehind.Text.Lowercase.Table
import CodeBehind.Text.Printable

/-!
Lower-casing.

Names of languages are compared after lower-casing. Every character is replaced by its lower-case
partner, with two particulars: the capital I with a dot becomes two characters, and a capital sigma
at the end of a word becomes the final sigma.
-/

namespace CodeBehind.Text

def isCased (c : Char) : Bool :=
  if c.toNat < 0x80 then c.isAlpha else inRanges casedRanges c

/-- Characters that may stand between a letter and the end of its word. -/
def isCaseIgnorable (c : Char) : Bool :=
  inRanges ignorableRanges c

def lowerChar (c : Char) : List Char :=
  if c.toNat < 0x80 then [c.toLower]
  else if c = '\u0130' then ['i', '\u0307']
  else [(partner? lowerRuns c).getD c]

/-- The first character that is not looked past has a case. -/
def meetsCased (cs : List Char) : Bool :=
  match cs.dropWhile isCaseIgnorable with
  | [] => false
  | c :: _ => isCased c

/-- Lower-cases the text after `before`, which holds the characters already passed, nearest
first. A capital sigma is final when a letter precedes it and none follows. -/
def lowerFrom (before : List Char) : List Char → List Char
  | [] => []
  | c :: rest =>
    (if c = '\u03A3' then
      [if meetsCased before && !meetsCased rest then '\u03C2' else '\u03C3']
    else lowerChar c) ++ lowerFrom (c :: before) rest

def lower (cs : List Char) : List Char :=
  lowerFrom [] cs

def lowercase (s : String) : String :=
  String.ofList (lower s.toList)

end CodeBehind.Text
