import CodeBehind.Console.Emoji
import CodeBehind.Console.Literal
import CodeBehind.Console.Style
import CodeBehind.Fault
import CodeBehind.Text.Blank
import CodeBehind.Text.Quoted

/-!
Console markup.

Texts for the console may hold tags in brackets that set a style and end it again. Without colours
only their bookkeeping is left: tags are dropped, a closing tag must have something to close, and
what a tag says of numbers must be readable. A backslash in front of a tag makes it text, and
`escape` puts one there. Pictures are put in place of their names whatever escapes them.

A tag may name a handler instead of a style, and what follows its equals sign is then the name of an
action, perhaps with arguments in parentheses, or arguments alone. The arguments are a literal.
-/

namespace CodeBehind.Console

/-! ### Tags in a text -/

/-- A stretch of a text: characters without a tag, or a tag in brackets at a position with so many
backslashes directly in front of it. -/
inductive Stretch where
  | plain (text : List Char)
  | tag (backslashes position : Nat) (body : List Char)
deriving DecidableEq, Repr

def opensTag (c : Char) : Bool :=
  c.isLower || c == '#' || c == '/' || c == '@'

/-- The body of the tag whose opening bracket stands directly before a text. -/
def tagBody? (cs : List Char) : Option (List Char) :=
  match cs with
  | [] => none
  | c :: rest =>
    if opensTag c then
      let (body, after) := rest.span fun c => c != '[' && c != ']'
      if after.head? = some ']' then some (c :: body) else none
    else none

/-- The stretches of a text from a position on. `read` holds the characters since the last tag, the
last one first, and the next `skip` characters belong to a tag already. -/
def stretchesFrom (position skip : Nat) (read : List Char) : List Char → List Stretch
  | [] => [.plain read.reverse]
  | c :: rest =>
    match skip with
    | skip + 1 => stretchesFrom (position + 1) skip read rest
    | 0 =>
      match if c = '[' then tagBody? rest else none with
      | none => stretchesFrom (position + 1) 0 (c :: read) rest
      | some body =>
        let backslashes := (read.takeWhile (· == '\\')).length
        .plain (read.drop backslashes).reverse :: .tag backslashes position body ::
          stretchesFrom (position + 1) (body.length + 1) [] rest

def stretches (cs : List Char) : List Stretch :=
  stretchesFrom 0 0 [] cs

def bracketed (body : List Char) : List Char :=
  '[' :: body ++ [']']

/-! ### Escaping -/

def Stretch.escape : Stretch → List Char
  | .plain text => text
  | .tag backslashes _ body => List.replicate (2 * backslashes + 1) '\\' ++ bracketed body

/-- A text ends in exactly one backslash, or in three or more after something else. -/
def endsInBackslash (cs : List Char) : Bool :=
  match cs.reverse with
  | '\\' :: '\\' :: _ => false
  | '\\' :: _ => true
  | _ => false

/-- Escapes the tags of a text. A single backslash at the end is doubled, so that it does not
escape what follows. -/
def escape (s : String) : String :=
  let escaped := (stretches s.toList).flatMap Stretch.escape
  String.ofList (if endsInBackslash escaped then escaped ++ ['\\'] else escaped)

/-! ### Reading -/

/-- A piece of a text that has been read: characters to show, or a tag at a position. -/
inductive Piece where
  | text (cs : List Char)
  | tag (position : Nat) (body : List Char)
deriving DecidableEq, Repr

/-- Drops the backslash in front of every opening bracket. -/
def unescape : List Char → List Char
  | '\\' :: '[' :: rest => '[' :: unescape rest
  | c :: rest => c :: unescape rest
  | [] => []

/-- The pieces of a stretch. Two backslashes in front of a tag stand for one, and one that is left
makes the tag text. -/
def Stretch.pieces : Stretch → List Piece
  | .plain text => [.text (unescape text)]
  | .tag backslashes position body =>
    .text (List.replicate (backslashes / 2) '\\') ::
      [if backslashes % 2 = 1 then .text (bracketed body) else .tag position body]

/-- What is wrong with a markup. The arguments of a handler may be no literal, and the style of a
tag may hold a number that cannot be read. -/
inductive MarkupError where
  | unopened (tag : String) (position : Nat)
  | nothingOpen (position : Nat)
  | badArguments (literal parameters complaint : String)
  | colour (e : ColourError)
deriving DecidableEq, Repr

def MarkupError.message : MarkupError → String
  | .unopened tag position =>
    "closing tag '" ++ tag ++ "' at position " ++ Nat.repr position ++
      " doesn't match any open tag"
  | .nothingOpen position =>
    "closing tag '[/]' at position " ++ Nat.repr position ++ " has nothing to close"
  | .badArguments literal parameters complaint =>
    "error parsing " ++ Text.quoted literal ++ " in " ++ Text.quoted parameters ++ "; " ++ complaint
  | .colour e => e.message

/-- The fault for an error. A number that cannot be read is not a matter of the markup. -/
def MarkupError.fault : MarkupError → Fault
  | .colour e => .builtin "ValueError" e.message
  | e =>
    { kind := {
        name := "MarkupError"
        home := "rich.errors"
        qualname := "MarkupError"
        interrupting := false }
      description? := some e.message }

/-- The arguments in the parameters of a handler. -/
def handlerArguments (parameters : List Char) : List Char :=
  let cs := Text.trim parameters
  match cs.dropWhile fun c => Text.isWordChar c || c == '.' with
  | [] => ['(', ')']
  | '(' :: rest => if rest.getLast? = some ')' && !rest.contains '\n' then '(' :: rest else cs
  | _ => cs

/-- Checks the parameters of a handler. An error comes with the arguments that it is about. -/
def checkHandler (parameters : String) : Except MarkupError Unit :=
  if parameters.isEmpty then .ok ()
  else
    let arguments := handlerArguments parameters.toList
    (Literal.check arguments).mapError fun e =>
      .badArguments (String.ofList arguments) parameters e.message

/-- A tag that has been opened: where its stretch begins, the style that it names, and what follows
an equals sign. -/
structure OpenTag where
  start : Nat
  style : String
  parameters? : Option String
deriving DecidableEq, Repr

/-- The tag names a handler and no style. -/
def OpenTag.isHandler (t : OpenTag) : Bool :=
  t.style.startsWith "@"

/-- All that a tag says of its style. -/
def OpenTag.description (t : OpenTag) : List Char :=
  t.style.toList ++ t.parameters?.elim [] (' ' :: ·.toList)

def splitTag (body : List Char) : List Char × Option String :=
  match body.span (· != '=') with
  | (name, _ :: parameters) => (name, some (String.ofList parameters))
  | (name, []) => (name, none)

/-- A stretch of a shown text and what is said of its style. -/
structure StyledRange where
  start : Nat
  stop : Nat
  description : List Char
deriving DecidableEq, Repr

/-- A markup that has been read: the text to show and the ranges with a style. -/
structure Marked where
  text : List Char := []
  ranges : List StyledRange := []
deriving DecidableEq, Repr

namespace Marked

/-- Controls that never reach the console: bell, backspace, vertical tab, form feed and carriage
return. -/
def isSilenced (c : Char) : Bool :=
  let n := c.toNat
  n == 7 || n == 8 || n == 11 || n == 12 || n == 13

def add (m : Marked) (cs : List Char) : Marked :=
  { m with text := m.text ++ (Emoji.replace cs).filter (!isSilenced ·) }

/-- Ends the stretch of a tag. The arguments of a handler are looked at, the style is not. -/
def close (m : Marked) (t : OpenTag) : Except MarkupError Marked :=
  if t.isHandler then do
    checkHandler (t.parameters?.getD "")
    return m
  else .ok { m with ranges := m.ranges ++ [⟨t.start, m.text.length, t.description⟩] }

/-- Ends the stretches of tags that nothing closes. -/
def closeAll (m : Marked) (tags : List OpenTag) : Marked :=
  { m with ranges := m.ranges ++ tags.map fun t => ⟨t.start, m.text.length, t.description⟩ }

def addPieces (m : Marked) (tags : List OpenTag) : List Piece → Except MarkupError Marked
  | [] => .ok (m.closeAll tags)
  | .text cs :: rest => (m.add cs).addPieces tags rest
  | .tag position body :: rest =>
    match splitTag body with
    | ('/' :: name, _) =>
      if (Text.trim name).isEmpty then
        match tags with
        | [] => .error (.nothingOpen position)
        | t :: tags => do (← m.close t).addPieces tags rest
      else do
        let style ← (Style.canonical name).mapError .colour
        match tags.find? (·.style = style) with
        | some t => (← m.close t).addPieces (tags.erase t) rest
        | none => throw (.unopened (String.ofList (bracketed body)) position)
    | (name, parameters?) => do
      let style ← (Style.canonical name).mapError .colour
      m.addPieces ({ start := m.text.length, style, parameters? } :: tags) rest

def read (markup : String) : Except MarkupError Marked :=
  ({ : Marked }).addPieces [] ((stretches markup.toList).flatMap Stretch.pieces)

def charactersOf (m : Marked) (r : StyledRange) : List Char :=
  (m.text.drop r.start).take (r.stop - r.start)

/-- The styles can be looked up, as they are when a text is shown. Where the text is divided, at
line ends or tabs or because it does not fit on one line, ranges that hold nothing but line ends are
dropped before that. -/
def checkStyles (m : Marked) (lines : Nat) : Except MarkupError Unit :=
  let divided := 1 < lines || m.text.contains '\t'
  (m.ranges.filter fun r => !divided || (m.charactersOf r).any (· != '\n')).forM fun r => do
    let _ ← (Style.read r.description).mapError .colour

end Marked

end CodeBehind.Console
