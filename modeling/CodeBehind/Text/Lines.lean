import CodeBehind.Text.Blank

/-!
Texts in pieces.

`cut` divides a text at every line break that a compiler may recognise, `splitLines` keeps the
pieces that hold something visible. `unifyBreaks` is the other convention of this library, the one
of text files: it only knows the carriage return and the line feed, and replaces rather than cuts.
`splitOn` cuts at a character of one's choice and keeps empty pieces, so joining the pieces with the
character gives the text back.
-/

namespace CodeBehind.Text

/-- The characters that end a line: carriage return, line feed, next line, and the two Unicode
separators. -/
def isLineBreak (c : Char) : Bool :=
  c == '\r' || c == '\n' || c == '\u0085' || c == '\u2028' || c == '\u2029'

/-- Divides a text at its line breaks. A carriage return and the line feed after it are one break,
so a text with `n` breaks has `n + 1` pieces. -/
def cut : List Char → List (List Char)
  | [] => [[]]
  | '\r' :: '\n' :: rest => [] :: cut rest
  | c :: rest =>
    if isLineBreak c then [] :: cut rest
    else
      match cut rest with
      | [] => [[c]]
      | line :: lines => (c :: line) :: lines

def isVisible (line : List Char) : Bool :=
  line.any (!isBlank ·)

def splitLines (text : List Char) : List (List Char) :=
  (cut text).filter isVisible

/-- The control characters that no compiler accepts inside a directive. The tab and the two ASCII
line breaks are not among them. -/
def isControl (c : Char) : Bool :=
  let n := c.toNat
  n ≤ 0x08 || n == 0x0B || n == 0x0C || (0x0E ≤ n && n ≤ 0x1F) || n == 0x7F

/-- Removes the control characters and keeps all else. -/
def stripControl (text : List Char) : List Char :=
  text.filter (!isControl ·)

/-- The pieces of a text between the occurrences of a separator. There is always at least one. -/
def splitOn (sep : Char) : List Char → List (List Char)
  | [] => [[]]
  | c :: cs =>
    if c = sep then [] :: splitOn sep cs
    else
      match splitOn sep cs with
      | [] => [[c]]
      | piece :: pieces => (c :: piece) :: pieces

/-- Writes every line end of a text file as a line feed. -/
def unifyBreaks : List Char → List Char
  | [] => []
  | '\r' :: '\n' :: rest => '\n' :: unifyBreaks rest
  | c :: rest => (if c = '\r' then '\n' else c) :: unifyBreaks rest

end CodeBehind.Text
