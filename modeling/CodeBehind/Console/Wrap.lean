import CodeBehind.Text.Blank
import CodeBehind.Text.Lines
import CodeBehind.Text.Width

/-!
Wrapping.

A line that is too wide is broken before the words that no longer fit, and a word that fits on no
line is broken anywhere. Blanks stay with the word before them and may hang over the edge, where
they are cut off.
-/

namespace CodeBehind.Console

def tabStop : Nat := 8

/-- Parts of a line, between which tabs stood, with spaces up to the next tab stop after each but
the last. The first of them begins at a column. -/
def fillTabs (column : Nat) : List (List Char) → List Char
  | [] => []
  | [part] => part
  | part :: rest =>
    let column := column + Text.width (part ++ [' '])
    let gap := (tabStop - column % tabStop) % tabStop
    part ++ List.replicate (gap + 1) ' ' ++ fillTabs (column + gap) rest

def expandTabs (cs : List Char) : List Char :=
  fillTabs 0 (Text.splitOn '\t' cs)

/-- The words of a text with the blanks after them; the first also has those in front. `current` has
been read, and `closed` says that it holds a word and a blank after it. -/
def wordsFrom (current : List Char) (closed : Bool) : List Char → List (List Char)
  | [] => if current.all Text.isBlank then [] else [current]
  | c :: rest =>
    if Text.isBlank c then
      wordsFrom (current ++ [c]) (!current.all Text.isBlank) rest
    else if closed then current :: wordsFrom [c] false rest
    else wordsFrom (current ++ [c]) false rest

def words (cs : List Char) : List (List Char) :=
  wordsFrom [] false cs

/-- Where wrapping has got to: the lines that are complete, the last one first, and the line being
filled. -/
structure Filling where
  done : List (List Char) := []
  line : List Char := []

namespace Filling

/-- Begins a new line, unless the line being filled is still empty. -/
def breakLine (f : Filling) : Filling :=
  if f.line.isEmpty then f else { done := f.line :: f.done, line := [] }

/-- Adds characters to the line being filled. -/
def add (f : Filling) (cs : List Char) : Filling :=
  { f with line := f.line ++ cs }

def addWord (columns : Nat) (f : Filling) (word : List Char) : Filling :=
  let needed := Text.width (Text.trimRight word)
  if Text.width f.line + needed ≤ columns then f.add word
  else if columns < needed then
    (Text.chop columns word).foldl (fun f piece => f.breakLine.add piece) f
  else f.breakLine.add word

def lines (f : Filling) : List (List Char) :=
  (f.line :: f.done).reverse

end Filling

/-- Cuts off the blanks at the end of a line as far as it is too long. -/
def trimOverhang (columns : Nat) (line : List Char) : List Char :=
  let blanks := (line.reverse.takeWhile Text.isBlank).length
  line.take (line.length - min blanks (line.length - columns))

/-- A line that fits, cut where it has to be. -/
def cutOff (columns : Nat) (line : List Char) : List Char :=
  if columns < Text.width line then Text.resize columns line else line

/-- Breaks one line into lines that fit. A line of blanks only has no word to break before. -/
def wrapLine (columns : Nat) (line : List Char) : List (List Char) :=
  let pieces := words line
  let broken := if pieces.isEmpty then [line] else
    (pieces.foldl (Filling.addWord columns) {}).lines
  broken.map fun line => cutOff columns (trimOverhang columns line)

/-- The lines of a text, each of them fitting into a number of columns. -/
def wrap (columns : Nat) (text : List Char) : List (List Char) :=
  (Text.splitOn '\n' text).flatMap fun line => wrapLine columns (expandTabs line)

end CodeBehind.Console
