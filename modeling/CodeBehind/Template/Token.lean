import CodeBehind.Template

/-!
Tokens of a template.

The source of a template is cut into text, the marks that open and close placeholders and
statements, and the words, numbers, texts and marks between them. Comments leave nothing. A dash
next to a mark that opens or closes takes the blanks on its other side away.

Whoever reads tokens gets to know of an error in the source only when he comes to it, so the tokens
before it are there and the error stands where the next one would be.
-/

namespace CodeBehind.Template

/-- What a template is written with. -/
inductive Token where
  | text (s : String)
  | opening
  | closing
  | statementOpening
  | statementClosing
  | word (s : String)
  | integer (n : Nat)
  | float (x : Number.Binary64)
  | quoted (s : String)
  | mark (s : String)

/-- The tokens of a source up to its end or to an error in it. -/
inductive Tokens where
  | done
  | broken (e : TemplateError)
  | next (t : Token) (rest : Tokens)

/-- The end of a source as messages name it. -/
def endName : String :=
  "end of template"

/-- The mark that closes a placeholder as messages name it. -/
def closingName : String :=
  "end of print statement"

def Token.describe : Token → String
  | .text _ => "template data / text"
  | .opening => "begin of print statement"
  | .closing => closingName
  | .statementOpening => "begin of statement block"
  | .statementClosing => "end of statement block"
  | .word s => s
  | .integer _ => "integer"
  | .float _ => "float"
  | .quoted _ => "string"
  | .mark s => s

/-! ### Numbers -/

/-- The digits in front of a text, which begins with one, and the rest. Single underscores may stand
between digits. -/
def digits : List Char → List Char × List Char
  | [] => ([], [])
  | c :: rest =>
    if Text.isDecimalDigit c then
      let (ds, rest) := digits rest
      (c :: ds, rest)
    else if c = '_' ∧ rest.head?.any Text.isDecimalDigit then digits rest
    else ([], c :: rest)

def fraction? : List Char → Option (List Char × List Char)
  | '.' :: c :: rest => if Text.isDecimalDigit c then some (digits (c :: rest)) else none
  | _ => none

def exponent? : List Char → Option (Int × List Char)
  | e :: rest =>
    if e = 'e' ∨ e = 'E' then
      let (negative, unsigned) : Bool × List Char :=
        match rest with
        | '-' :: rest => (true, rest)
        | '+' :: rest => (false, rest)
        | rest => (false, rest)
      if unsigned.head?.any Text.isDecimalDigit then
        let (ds, rest) := digits unsigned
        let n : Int := Text.ofDigits ds
        some (if negative then -n else n, rest)
      else none
    else none
  | [] => none

/-- The floating-point number in front of a text that begins with a digit, and the rest. It has a
fraction or an exponent. -/
def float? (cs : List Char) : Option (Token × List Char) :=
  let (whole, rest) := digits cs
  let (part, rest, hasPart) : List Char × List Char × Bool :=
    match fraction? rest with
    | some (part, rest) => (part, rest, true)
    | none => ([], rest, false)
  let number (e : Int) : Token :=
    .float (.ofDecimal false (Text.ofDigits (whole ++ part)) (e - part.length))
  match exponent? rest with
  | some (e, rest) => some (number e, rest)
  | none => if hasPart then some (number 0, rest) else none

def baseDigit? (base : Nat) (c : Char) : Option Nat :=
  (Text.hexValue? c).filter (· < base)

/-- The number that goes on from `n` in a base, and the rest. -/
def baseNumber (base n : Nat) : List Char → Nat × List Char
  | [] => (n, [])
  | c :: rest =>
    match baseDigit? base c with
    | some d => baseNumber base (n * base + d) rest
    | none =>
      if c = '_' ∧ (rest.head?.bind (baseDigit? base)).isSome then baseNumber base n rest
      else (n, c :: rest)

def base? (c : Char) : Option Nat :=
  match c.toLower with
  | 'b' => some 2
  | 'o' => some 8
  | 'x' => some 16
  | _ => none

/-- Drops the zeros after a zero. -/
def dropZeros : List Char → List Char
  | '0' :: rest => dropZeros rest
  | '_' :: '0' :: rest => dropZeros rest
  | cs => cs

/-- The number after a zero in front of a text, and the rest. -/
def afterZero (cs : List Char) : Nat × List Char :=
  match cs with
  | c :: rest =>
    match base? c with
    | some base =>
      let first := if rest.head? = some '_' then rest.drop 1 else rest
      if (first.head?.bind (baseDigit? base)).isSome then baseNumber base 0 first else (0, cs)
    | none => (0, dropZeros cs)
  | [] => (0, [])

def integer? (cs : List Char) : Option (Token × List Char) :=
  match cs with
  | '0' :: rest =>
    let (n, rest) := afterZero rest
    some (.integer n, rest)
  | c :: _ =>
    if c.isDigit then
      let (ds, rest) := digits cs
      some (.integer (Text.ofDigits ds), rest)
    else none
  | [] => none

/-! ### Words, texts and marks -/

def escaped? : Char → Option Char
  | 'n' => some '\n'
  | 't' => some '\t'
  | 'r' => some '\r'
  | '\\' => some '\\'
  | '\'' => some '\''
  | '"' => some '"'
  | _ => none

/-- The text up to the quote `mark` and what follows it. A backslash that makes nothing of the
character after it is part of the text. -/
def quotedText? (mark : Char) : List Char → Option (List Char × List Char)
  | [] => none
  | [c] => if c = mark then some ([], []) else none
  | c :: d :: rest =>
    if c = mark then some ([], d :: rest)
    else if c = '\\' then do
      let (text, rest) ← quotedText? mark rest
      return ((escaped? d).elim [c, d] ([·]) ++ text, rest)
    else do
      let (text, rest) ← quotedText? mark (d :: rest)
      return (c :: text, rest)

def doubleMarks : List String :=
  ["//", "**", "==", "!=", ">=", "<="]

def singleMarks : List Char :=
  ['+', '-', '/', '*', '%', '~', '[', ']', '(', ')', '\x7b', '\x7d', '>', '<', '=', '.', ':', '|',
    ',', ';']

def mark? (cs : List Char) : Option (String × List Char) :=
  match doubleMarks.find? (·.toList.isPrefixOf cs) with
  | some m => some (m, cs.drop 2)
  | none =>
    match cs with
    | c :: rest => if singleMarks.contains c then some (c.toString, rest) else none
    | [] => none

def closer? : String → Option Char
  | "(" => some ')'
  | "[" => some ']'
  | "\x7b" => some '\x7d'
  | _ => none

/-- The closing brackets that are due after a mark. -/
def dueAfter (due : List Char) (mark : String) : Except TemplateError (List Char) :=
  match closer? mark, mark.toList with
  | some c, _ => .ok (c :: due)
  | none, [c] =>
    if c = ')' ∨ c = ']' ∨ c = '\x7d' then
      match due with
      | [] => .error (.unopened c)
      | d :: due => if c = d then .ok due else .error (.mismatched c d)
    else .ok due
  | none, _ => .ok due

/-! ### Sources -/

def plainText : List Char → List Char × List Char
  | [] => ([], [])
  | [c] => ([c], [])
  | c :: d :: rest =>
    if c = '\x7b' ∧ (d = '\x7b' ∨ d = '%' ∨ d = '#') then ([], c :: d :: rest)
    else
      let (text, rest) := plainText (d :: rest)
      (c :: text, rest)

/-- What follows a comment, if the comment ends. -/
def afterComment? : List Char → Option (List Char)
  | '-' :: '#' :: '\x7d' :: rest => some (Text.trimLeft rest)
  | '#' :: '\x7d' :: rest => some rest
  | _ :: rest => afterComment? rest
  | [] => none

/-- What follows the mark that closes a placeholder, if the text begins with it. -/
def afterClosing? : List Char → Option (List Char)
  | '-' :: '\x7d' :: '\x7d' :: rest => some (Text.trimLeft rest)
  | '\x7d' :: '\x7d' :: rest => some rest
  | _ => none

/-- What follows the mark that closes a statement, if the text begins with it. -/
def afterStatement? : List Char → Option (List Char)
  | '-' :: '%' :: '\x7d' :: rest => some (Text.trimLeft rest)
  | '+' :: '%' :: '\x7d' :: rest => some rest
  | '%' :: '\x7d' :: rest => some rest
  | _ => none

/-- Where a source is being read: in text, or in a placeholder or a statement with closing brackets
that are due. -/
inductive Mode where
  | text
  | code (inStatement : Bool) (due : List Char) (afterPoint : Bool)

/-- A text in front of tokens, unless it is empty. -/
def Tokens.ofText (text : List Char) (rest : Tokens) : Tokens :=
  if text.isEmpty then rest else .next (.text (String.ofList text)) rest

/-- The tokens of a source of `size` characters, of which `cs` has not been read. Every step reads a
character at least, so there are no more of them than characters. -/
def scan (size : Nat) : Nat → Mode → List Char → Tokens
  | 0, _, _ => .done
  | steps + 1, .text, cs =>
    let (text, rest) := plainText cs
    let dashed := (rest.drop 2).head? = some '-'
    let text := if dashed then Text.trimRight text else text
    let inside := if dashed ∨ (rest.drop 2).head? = some '+' then rest.drop 3 else rest.drop 2
    Tokens.ofText text <|
      match rest with
      | _ :: '#' :: _ =>
        if inside.isEmpty then .done
        else
          match afterComment? inside with
          | some rest => scan size steps .text rest
          | none => .broken .unclosedComment
      | _ :: '%' :: _ => .next .statementOpening (scan size steps (.code true [] false) inside)
      | _ :: _ :: _ => .next .opening (scan size steps (.code false [] false) inside)
      | _ => .done
  | steps + 1, .code inStatement due afterPoint, cs =>
    let after? :=
      if !due.isEmpty then none
      else if inStatement then afterStatement? cs
      else afterClosing? cs
    match after?, cs with
    | some rest, _ =>
      .next (if inStatement then .statementClosing else .closing) (scan size steps .text rest)
    | none, [] => .done
    | none, c :: rest =>
      let goOn (t : Token) (rest : List Char) : Tokens :=
        .next t (scan size steps (.code inStatement due false) rest)
      if Text.isBlank c then scan size steps (.code inStatement due false) rest
      else
        let number? :=
          if Text.isDecimalDigit c then
            (if afterPoint then none else float? cs).orElse fun _ => integer? cs
          else none
        match number? with
        | some (t, rest) => goOn t rest
        | none =>
          if Text.isWordChar c then
            let (word, rest) := cs.span Text.isWordChar
            if Text.isIdentifier word then goOn (.word (String.ofList word)) rest
            else .broken .badName
          else
            match if c = '"' ∨ c = '\'' then quotedText? c rest else none with
            | some (text, rest) => goOn (.quoted (String.ofList text)) rest
            | none =>
              match mark? cs with
              | some (m, rest) =>
                match dueAfter due m with
                | .ok due =>
                  .next (.mark m) (scan size steps (.code inStatement due (m == ".")) rest)
                | .error e => .broken e
              | none => .broken (.badCharacter c (size - cs.length))

/-- Drops one line end at the very end. -/
def dropFinalBreak (source : List Char) : List Char :=
  match source.reverse with
  | '\n' :: before => before.reverse
  | _ => source

/-- The tokens of a source. Line ends are unified first and one line end at the very end is
dropped. -/
def tokens (source : List Char) : Tokens :=
  let cs := dropFinalBreak (Text.unifyBreaks source)
  scan cs.length (cs.length + 1) .text cs

end CodeBehind.Template
