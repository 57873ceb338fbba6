/-!
Blank characters and trimming.

`isBlank` is the one notion of white space in this library: it decides which lines of a message
count as empty, what surrounds a name or a version without belonging to it, and where words end on
the console. `trim` drops the blank characters at both ends and nothing else.
-/

namespace CodeBehind.Text

/-- The blank characters: tab to carriage return, the four information separators, the space, the
next-line control and the spaces and separators beyond ASCII. -/
def isBlank (c : Char) : Bool :=
  let n := c.toNat
  (0x09 ≤ n && n ≤ 0x0D) || (0x1C ≤ n && n ≤ 0x20) || n == 0x85 || n == 0xA0 || n == 0x1680 ||
    (0x2000 ≤ n && n ≤ 0x200A) || n == 0x2028 || n == 0x2029 || n == 0x202F || n == 0x205F ||
    n == 0x3000

def trimLeft (cs : List Char) : List Char :=
  cs.dropWhile isBlank

def trimRight (cs : List Char) : List Char :=
  (cs.reverse.dropWhile isBlank).reverse

def trim (cs : List Char) : List Char :=
  trimRight (trimLeft cs)

def words : List Char → List (List Char)
  | [] => []
  | c :: rest =>
    if isBlank c then words rest
    else if rest.head?.all isBlank then [c] :: words rest
    else
      match words rest with
      | word :: more => (c :: word) :: more
      | [] => [[c]]

def strip (s : String) : String :=
  String.ofList (trim s.toList)

end CodeBehind.Text
