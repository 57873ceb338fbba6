import CodeBehind.Console.Literal.Error
import CodeBehind.Text.Word

/-!
Tokens of a literal.

A literal is written with words, numbers, texts in quotes and marks. Brackets are matched while the
tokens are told apart; a bracket that is still open at the end leaves a token of its own there, so
that whoever reads up to it finds out.
-/

namespace CodeBehind.Console.Literal

/-- What a literal is written with. -/
inductive Token where
  | word (s : String)
  | number
  | text (ofBytes : Bool)
  | mark (s : String)
  | unclosed (bracket : Char)
deriving DecidableEq, Repr

/-! ### Numbers -/

/-- Characters that may go on a name. Which of those beyond ASCII are allowed is seen later. -/
def continuesName (c : Char) : Bool :=
  c.isAlphanum || c == '_' || 0x80 ≤ c.toNat

/-- Words that may follow a number directly. -/
def wordsAfterNumbers : List (List Char) :=
  ["and", "else", "for", "or", "not"].map String.toList

/-- Beginnings of words that may follow a number directly. -/
def startsAfterNumbers : List (List Char) :=
  ["if", "in", "is"].map String.toList

/-- What follows a number, which must not go on like a name. -/
def numberEnd (kind : String) (cs : List Char) : Except Error (List Char) :=
  let word := cs.takeWhile continuesName
  if cs.head?.all (0x80 ≤ ·.toNat) || word.isEmpty || wordsAfterNumbers.contains word ||
      startsAfterNumbers.contains (word.take 2) then .ok cs
  else .error (.badNumber kind)

/-- What follows digits, between which single underscores may stand. -/
def afterDigits : List Char → Except Error (List Char)
  | [] => .ok []
  | c :: rest =>
    if c.isDigit then afterDigits rest
    else if c = '_' then
      if rest.head?.any Char.isDigit then afterDigits rest else .error (.badNumber "decimal")
    else .ok (c :: rest)

/-- A base other than ten. -/
structure Base where
  kind : String
  isDigit : Char → Bool

/-- What follows the digits of a number in a base. A digit is needed after the letter of the base
and after every underscore. -/
def Base.after (b : Base) (needed : Bool) : List Char → Except Error (List Char)
  | [] => if needed then .error (.badNumber b.kind) else .ok []
  | c :: rest =>
    if b.isDigit c then b.after false rest
    else if c = '_' && !needed then b.after true rest
    else if c.isDigit then .error (.badDigit c b.kind)
    else if needed then .error (.badNumber b.kind)
    else numberEnd b.kind (c :: rest)

def base? (c : Char) : Option Base :=
  match c.toLower with
  | 'x' => some ⟨"hexadecimal", fun c => c.isDigit || ('a' ≤ c.toLower && c.toLower ≤ 'f')⟩
  | 'o' => some ⟨"octal", fun c => '0' ≤ c && c ≤ '7'⟩
  | 'b' => some ⟨"binary", fun c => c == '0' || c == '1'⟩
  | _ => none

def imaginaryEnd (cs : List Char) : Except Error (List Char) :=
  match cs with
  | 'j' :: rest | 'J' :: rest => numberEnd "imaginary" rest
  | cs => numberEnd "decimal" cs

def exponentEnd (cs : List Char) : Except Error (List Char) :=
  match cs with
  | c :: rest =>
    if c = 'e' ∨ c = 'E' then
      match rest with
      | sign :: digits =>
        if sign.isDigit then do imaginaryEnd (← afterDigits rest)
        else if sign = '+' ∨ sign = '-' then
          if digits.head?.any Char.isDigit then do imaginaryEnd (← afterDigits digits)
          else .error (.badNumber "decimal")
        else numberEnd "decimal" cs
      | [] => numberEnd "decimal" cs
    else imaginaryEnd cs
  | [] => .ok []

def fractionEnd (cs : List Char) : Except Error (List Char) := do
  exponentEnd (← if cs.head?.any Char.isDigit then afterDigits cs else .ok cs)

def wholeEnd (leadingZero : Bool) (cs : List Char) : Except Error (List Char) :=
  match cs with
  | '.' :: rest => fractionEnd rest
  | c :: _ =>
    if leadingZero && !"eEjJ".toList.contains c then .error .leadingZeros else exponentEnd cs
  | [] => if leadingZero then .error .leadingZeros else .ok []

def numberRest (cs : List Char) : Except Error (List Char) := do
  match cs with
  | '0' :: c :: rest =>
    match base? c with
    | some b => b.after true (if rest.head? = some '_' then rest.drop 1 else rest)
    | none =>
      let after ← afterDigits cs
      wholeEnd ((cs.take (cs.length - after.length)).any fun c => c != '0' && c != '_') after
  | cs => wholeEnd false (← afterDigits cs)

/-! ### Texts -/

/-- What follows a text that three quotes end. -/
def longTextRest (quote : Char) : List Char → Except Error (List Char)
  | [] => .error (.unendedText true)
  | '\\' :: _ :: rest => longTextRest quote rest
  | c :: rest =>
    if c = quote ∧ rest.take 2 = [quote, quote] then .ok (rest.drop 2) else longTextRest quote rest

/-- What follows a text that one quote on the same line ends. -/
def shortTextRest (quote : Char) : List Char → Except Error (List Char)
  | [] => .error (.unendedText false)
  | '\\' :: _ :: rest => shortTextRest quote rest
  | c :: rest =>
    if c = quote then .ok rest
    else if c = '\n' then .error (.unendedText false)
    else shortTextRest quote rest

/-- What follows a text that begins with a quote. -/
def textRest (quote : Char) (cs : List Char) : Except Error (List Char) :=
  if cs.take 2 = [quote, quote] then longTextRest quote (cs.drop 2) else shortTextRest quote cs

/-- The letters that may stand in front of a text. -/
def textPrefixes : List String := ["r", "b", "u", "f", "br", "rb", "fr", "rf"]

def textToken (letters : String) (quote : Char) (cs : List Char) :
    Except Error (Token × List Char) := do
  let rest ← textRest quote cs
  let ofBytes := letters.toList.contains 'b'
  if ofBytes && (cs.take (cs.length - rest.length)).any (0x80 ≤ ·.toNat) then
    throw .nonAsciiBytes
  return (.text ofBytes, rest)

/-! ### Marks and words -/

/-- Marks of several characters, longer ones first. -/
def longMarks : List String := [
  "**=", "//=", "<<=", ">>=", "...", "**", "//", "<<", ">>", "<=", ">=", "==", "!=", "<>", "->",
  ":=", "+=", "-=", "*=", "/=", "%=", "&=", "|=", "^=", "@="]

/-- The mark at the beginning of a text that begins with `c`. -/
def markAt (c : Char) (cs : List Char) : String :=
  (longMarks.find? (·.toList.isPrefixOf cs)).getD c.toString

def closer? : Char → Option Char
  | '(' => some ')'
  | '[' => some ']'
  | '\x7b' => some '\x7d'
  | _ => none

/-- The brackets that are open after a mark of one character. -/
def brackets (opened : List Char) (c : Char) : Except Error (List Char) :=
  if (closer? c).isSome then .ok (c :: opened)
  else if c = ')' ∨ c = ']' ∨ c = '\x7d' then
    match opened with
    | [] => .error (.unmatched c)
    | o :: opened => if closer? o = some c then .ok opened else .error (.mismatched c o)
  else .ok opened

/-- A word, all of whose characters must be allowed in one. -/
def wordToken (cs : List Char) : Except Error Token :=
  match cs.find? (!Text.isWordChar ·) with
  | some c => .error (.badCharacter c)
  | none => .ok (.word (String.ofList cs))

def token (cs : List Char) : Except Error (Token × List Char) :=
  match cs with
  | [] => .error .invalid
  | c :: rest =>
    if c.isDigit || (c == '.' && rest.head?.any Char.isDigit) then do
      return (.number, ← if c = '.' then fractionEnd rest else numberRest cs)
    else if continuesName c then
      let (word, after) := cs.span continuesName
      let letters := String.ofList (word.map Char.toLower)
      match after with
      | q :: after =>
        if (q = '\'' ∨ q = '"') ∧ textPrefixes.contains letters then textToken letters q after
        else do return (← wordToken word, q :: after)
      | [] => do return (← wordToken word, [])
    else if c = '\'' ∨ c = '"' then textToken "" c rest
    else if c = '\\' then .error (if rest.isEmpty then .endsInBackslash else .strayBackslash)
    else if c.toNat < 0x20 ∨ c.toNat = 0x7F then .error (.badCharacter c)
    else
      let mark := markAt c cs
      .ok (.mark mark, cs.drop mark.length)

/-- Characters between tokens. Ends of lines count only outside of brackets. -/
def isGap (opened : List Char) (c : Char) : Bool :=
  c == ' ' || c == '\t' || c == '\x0c' || (c == '\n' && !opened.isEmpty)

/-- The tokens of a text while brackets are open. Every token has a character at least, so there are
no more of them than characters. -/
def tokensFrom (opened : List Char) : Nat → List Char → Except Error (List Token)
  | 0, _ => .ok []
  | count + 1, cs =>
    match cs.dropWhile (isGap opened) with
    | [] => .ok (opened.head?.toList.map .unclosed)
    | '\n' :: rest => do return .mark "\n" :: (← tokensFrom opened count rest)
    | '#' :: rest => tokensFrom opened count (rest.dropWhile (· != '\n'))
    | c :: cs => do
      let (t, rest) ← token (c :: cs)
      let opened ← if t = .mark c.toString then brackets opened c else pure opened
      return t :: (← tokensFrom opened count rest)

def tokens (cs : List Char) : Except Error (List Token) :=
  tokensFrom [] (cs.length + 1) cs

end CodeBehind.Console.Literal
