import CodeBehind.Console.Markup
import CodeBehind.Console.Wrap

/-!
What the console shows.

The console is a plain one: a fixed number of columns and no colours. It shows lines of markup,
panels, which are texts in a frame with a title, and tables.
-/

namespace CodeBehind.Console

def columns : Nat := 200

def printed (lines : List (List Char)) : String :=
  String.ofList (lines.flatMap fun line => line ++ ['\n'])

def line (markup : String) : Except MarkupError String := do
  let marked ← Marked.read markup
  let lines := wrap columns marked.text
  marked.checkStyles lines.length
  return printed lines

/-! ### Frames -/

/-- A stretch of a frame's edge. -/
def edge (n : Nat) : List Char :=
  List.replicate n '─'

/-- A text in the middle of a number of columns, between fillings of the given character. What
cannot be divided evenly goes to the right. -/
def centred (n : Nat) (filling : Char) (cs : List Char) : List Char :=
  let cs := if n < Text.width cs then Text.resize n cs else cs
  let excess := n - Text.width cs
  List.replicate (excess / 2) filling ++ cs ++ List.replicate (excess - excess / 2) filling

/-- A panel as wide as the console: the lines of a text under a title, both given as markup. -/
def panel (title content : String) : Except MarkupError String := do
  let marked ← Marked.read content
  let heading ← Marked.read title
  let name := expandTabs (heading.text.map fun c => if c = '\n' then ' ' else c)
  let inner := columns - 4
  let top := "╭─".toList ++ centred inner '─' (' ' :: name ++ [' ']) ++ "─╮".toList
  let rows := (wrap inner marked.text).map fun row =>
    "│ ".toList ++ Text.resize inner row ++ " │".toList
  marked.checkStyles rows.length
  heading.checkStyles 1
  let bottom := '╰' :: edge (columns - 2) ++ ['╯']
  return printed (top :: rows ++ [bottom])

def columnWidths (rows : List (List (List Char))) : List Nat :=
  match rows with
  | [] => []
  | header :: _ =>
    (List.range header.length).map fun i =>
      (rows.map fun row => Text.width (row[i]?.getD [])).foldl max 0

def rule (left middle right : Char) (widths : List Nat) : List Char :=
  left :: [middle].intercalate (widths.map fun w => edge (w + 2)) ++ [right]

def row (widths : List Nat) (cells : List (List Char)) : List Char :=
  '│' :: ['│'].intercalate
    ((widths.zip cells).map fun (w, cell) => ' ' :: Text.resize w cell ++ [' ']) ++ ['│']

/-- A table with a title above it and a header. -/
def table (title : String) (header : List String) (rows : List (List String)) : String :=
  let header := header.map String.toList
  let rows := rows.map (·.map String.toList)
  let widths := columnWidths (header :: rows)
  let total := widths.foldl (· + ·) 0 + 3 * widths.length + 1
  printed (
    centred total ' ' title.toList ::
      rule '╭' '┬' '╮' widths ::
      row widths header ::
      rule '├' '┼' '┤' widths ::
      rows.map (row widths) ++
      [rule '╰' '┴' '╯' widths])

end CodeBehind.Console
