import CodeBehind.Text.Printable

/-!
Quoted literals.

`quote` writes a text as a string literal on one line: between single quotes, or double ones where
the text holds single quotes only, with escapes for the backslash, the quote in use, tab, line feed
and carriage return, and for every unprintable character. `unquote?` is the reader of such
literals, stated by the rules of the literal and not through the writer.
-/

namespace CodeBehind.Text

/-- The lower-case hexadecimal digits of a number, exactly `width` of them. -/
def hexDigits : Nat → Nat → List Char
  | 0, _ => []
  | width + 1, n => hexDigits width (n / 16) ++ [Nat.digitChar (n % 16)]

def quoteMark (text : List Char) : Char :=
  if '\'' ∈ text ∧ '"' ∉ text then '"' else '\''

def quoteChar (printable : Char → Bool) (mark c : Char) : List Char :=
  if c = mark ∨ c = '\\' then ['\\', c]
  else if c = '\t' then ['\\', 't']
  else if c = '\n' then ['\\', 'n']
  else if c = '\r' then ['\\', 'r']
  else if printable c then [c]
  else if c.toNat < 0x100 then '\\' :: 'x' :: hexDigits 2 c.toNat
  else if c.toNat < 0x10000 then '\\' :: 'u' :: hexDigits 4 c.toNat
  else '\\' :: 'U' :: hexDigits 8 c.toNat

/-- The literal of a text, for any notion of printable characters. -/
def quoteWith (printable : Char → Bool) (text : List Char) : List Char :=
  let mark := quoteMark text
  mark :: text.flatMap (quoteChar printable mark) ++ [mark]

def quote (text : List Char) : List Char :=
  quoteWith isPrintable text

def quoted (s : String) : String :=
  String.ofList (quote s.toList)

/-! ### Reading a literal -/

def hexValue? (c : Char) : Option Nat :=
  if '0' ≤ c ∧ c ≤ '9' then some (c.toNat - '0'.toNat)
  else if 'a' ≤ c ∧ c ≤ 'f' then some (c.toNat - 'a'.toNat + 10)
  else if 'A' ≤ c ∧ c ≤ 'F' then some (c.toNat - 'A'.toNat + 10)
  else none

/-- Reads exactly `width` hexadecimal digits and returns their value and the rest. -/
def readHex? (acc : Nat) : Nat → List Char → Option (Nat × List Char)
  | 0, cs => some (acc, cs)
  | _ + 1, [] => none
  | width + 1, c :: cs =>
    match hexValue? c with
    | some v => readHex? (16 * acc + v) width cs
    | none => none

def charOfCode? (n : Nat) : Option Char :=
  if n.isValidChar then some (Char.ofNat n) else none

/-- What one step of a literal's body yields: a character and the text after it. -/
def unquoteStep? (mark : Char) : List Char → Option (Char × List Char)
  | [] => none
  | '\\' :: 'x' :: rest => do
    let (n, rest) ← readHex? 0 2 rest
    return (← charOfCode? n, rest)
  | '\\' :: 'u' :: rest => do
    let (n, rest) ← readHex? 0 4 rest
    return (← charOfCode? n, rest)
  | '\\' :: 'U' :: rest => do
    let (n, rest) ← readHex? 0 8 rest
    return (← charOfCode? n, rest)
  | '\\' :: 't' :: rest => some ('\t', rest)
  | '\\' :: 'n' :: rest => some ('\n', rest)
  | '\\' :: 'r' :: rest => some ('\r', rest)
  | '\\' :: c :: rest => if c = '\\' ∨ c = '\'' ∨ c = '"' then some (c, rest) else none
  | c :: rest =>
    if c = mark ∨ c = '\\' ∨ c = '\n' ∨ c = '\r' then none else some (c, rest)

/-- Reads a literal's body up to the closing quote, which must be the last character. The fuel is
the length of the body, as each step consumes a character. -/
def unquoteBody? (mark : Char) : Nat → List Char → Option (List Char)
  | 0, _ => none
  | fuel + 1, cs =>
    if cs = [mark] then some []
    else
      match unquoteStep? mark cs with
      | some (c, rest) => (unquoteBody? mark fuel rest).map (c :: ·)
      | none => none

/-- The text that a literal denotes, if the characters are one literal from end to end. -/
def unquote? : List Char → Option (List Char)
  | [] => none
  | mark :: body =>
    if mark = '\'' ∨ mark = '"' then unquoteBody? mark body.length body else none

end CodeBehind.Text
