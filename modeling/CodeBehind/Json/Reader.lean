import CodeBehind.Text.Digits
import CodeBehind.Value

/-!
Reading JSON.

`read` turns a JSON text into a value. Next to the standard it admits the three numbers that are not
finite, and of a key given twice the last value counts, in the first one's place. A refusal says
what was expected and keeps the text before the spot, from which its line and column are counted.

The brackets of a text may nest only as deeply as the interpreter that reads it allows. That depends
on its limit and on what it is doing already, so the bound is a parameter of the reader.
-/

namespace CodeBehind.Json

open Number (Binary64)

/-! ### Refusals -/

/-- Why a text is no JSON. -/
inductive Cause where
  | expectingValue
  | expectingName
  | expectingColon
  | expectingComma
  | extraData
  | unterminatedText
  | controlCharacter
  | invalidEscape
  | invalidUnicodeEscape
  | byteOrderMark
  | tooManyDigits (count : Nat)
  | tooDeep (container : String)
deriving DecidableEq, Repr

/-- A refusal inside the reader: `left` characters remain from the spot on. -/
structure Refusal where
  cause : Cause
  left : Nat
deriving DecidableEq, Repr

/-- A refusal of a whole text, with the text before the spot. -/
structure ReadError where
  cause : Cause
  before : List Char
deriving DecidableEq, Repr

namespace Cause

def message : Cause → String
  | expectingValue => "Expecting value"
  | expectingName => "Expecting property name enclosed in double quotes"
  | expectingColon => "Expecting ':' delimiter"
  | expectingComma => "Expecting ',' delimiter"
  | extraData => "Extra data"
  | unterminatedText => "Unterminated string starting at"
  | controlCharacter => "Invalid control character at"
  | invalidEscape => "Invalid \\escape"
  | invalidUnicodeEscape => "Invalid \\uXXXX escape"
  | byteOrderMark => "Unexpected UTF-8 BOM (decode using utf-8-sig)"
  | tooManyDigits count => Text.tooManyDigits count
  | tooDeep container => " while decoding a JSON " ++ container ++ " from a unicode string"

end Cause

namespace ReadError

def line (e : ReadError) : Nat :=
  e.before.countP (· == '\n') + 1

def column (e : ReadError) : Nat :=
  (e.before.reverse.takeWhile (· != '\n')).length + 1

def message (e : ReadError) : String :=
  e.cause.message ++ ": line " ++ Nat.repr e.line ++ " column " ++ Nat.repr e.column ++
    " (char " ++ Nat.repr e.before.length ++ ")"

end ReadError

/-- What a reader makes of a text: a result with the rest, or a refusal. -/
abbrev Reader (α : Type) := List Char → Except Refusal (α × List Char)

def refuse {α : Type} (cause : Cause) (rest : List Char) : Except Refusal α :=
  .error ⟨cause, rest.length⟩

def isSpace (c : Char) : Bool :=
  c == ' ' || c == '\t' || c == '\n' || c == '\r'

def skipSpace (cs : List Char) : List Char :=
  cs.dropWhile isSpace

/-! ### Texts -/

def hexValue? (c : Char) : Option Nat :=
  if c.isDigit then some (c.toNat - '0'.toNat)
  else if 'a' ≤ c ∧ c ≤ 'f' then some (c.toNat - 'a'.toNat + 10)
  else if 'A' ≤ c ∧ c ≤ 'F' then some (c.toNat - 'A'.toNat + 10)
  else none

/-- The number that four hexadecimal digits denote. -/
def fourHex? (a b c d : Char) : Option Nat := do
  return (((← hexValue? a) * 16 + (← hexValue? b)) * 16 + (← hexValue? c)) * 16 + (← hexValue? d)

def escaped? : Char → Option Char
  | '"' => some '"'
  | '\\' => some '\\'
  | '/' => some '/'
  | 'b' => some '\x08'
  | 'f' => some '\x0c'
  | 'n' => some '\n'
  | 'r' => some '\r'
  | 't' => some '\t'
  | _ => none

/-- The code units of a text up to its closing quote. `start` is the length of what remains from the
opening quote on. A text that ends right after four hexadecimal digits has no closing quote, which
counts against the escape. -/
def textUnits (start : Nat) : Reader (List Nat)
  | [] => .error ⟨.unterminatedText, start⟩
  | '"' :: rest => .ok ([], rest)
  | '\\' :: [] => .error ⟨.unterminatedText, start⟩
  | '\\' :: 'u' :: rest =>
    match rest with
    | a :: b :: c :: d :: e :: more =>
      match fourHex? a b c d with
      | some n => (textUnits start (e :: more)).map fun (ns, rest) => (n :: ns, rest)
      | none => refuse .invalidUnicodeEscape ('u' :: rest)
    | _ => refuse .invalidUnicodeEscape ('u' :: rest)
  | '\\' :: c :: rest =>
    match escaped? c with
    | some c => (textUnits start rest).map fun (ns, rest) => (c.toNat :: ns, rest)
    | none => refuse .invalidEscape ('\\' :: c :: rest)
  | c :: rest =>
    if c.toNat < 0x20 then refuse .controlCharacter (c :: rest)
    else (textUnits start rest).map fun (ns, rest) => (c.toNat :: ns, rest)

/-- The first half of a character beyond the first plane. -/
def isHighSurrogate (n : Nat) : Bool :=
  0xD800 ≤ n && n ≤ 0xDBFF

/-- The second half of a character beyond the first plane. -/
def isLowSurrogate (n : Nat) : Bool :=
  0xDC00 ≤ n && n ≤ 0xDFFF

/-- The character of a code unit that stands alone. A half without its other half becomes the
replacement character. -/
def unitChar (n : Nat) : Char :=
  if isHighSurrogate n || isLowSurrogate n then '\ufffd' else Char.ofNat n

/-- The characters of code units: two halves in a row make one character. -/
def joinUnits : List Nat → List Char
  | [] => []
  | [n] => [unitChar n]
  | n :: m :: rest =>
    if isHighSurrogate n && isLowSurrogate m then
      Char.ofNat (0x10000 + (n - 0xD800) * 0x400 + (m - 0xDC00)) :: joinUnits rest
    else unitChar n :: joinUnits (m :: rest)

def text : Reader String := fun rest =>
  (textUnits (rest.length + 1) rest).map fun (ns, rest) => (String.ofList (joinUnits ns), rest)

/-! ### Numbers and words -/

def digits (cs : List Char) : List Char × List Char :=
  cs.span Char.isDigit

/-- The whole part of a number: a zero, or digits that do not start with one. -/
def wholePart? (cs : List Char) : Option (List Char × List Char) :=
  match cs with
  | '0' :: rest => some (['0'], rest)
  | c :: _ => if c.isDigit then some (digits cs) else none
  | [] => none

/-- The digits after a point, if there are any. -/
def fractionPart (cs : List Char) : List Char × List Char :=
  match cs with
  | '.' :: rest =>
    let (ds, rest) := digits rest
    if ds.isEmpty then ([], cs) else (ds, rest)
  | _ => ([], cs)

/-- The exponent of a number, if there is one. -/
def exponentPart (cs : List Char) : Option Int × List Char :=
  match cs with
  | e :: rest =>
    if e == 'e' || e == 'E' then
      let (negative, rest) : Bool × List Char :=
        match rest with
        | '-' :: rest => (true, rest)
        | '+' :: rest => (false, rest)
        | rest => (false, rest)
      let (ds, rest) := digits rest
      let n : Int := Text.ofDigits ds
      if ds.isEmpty then (none, cs) else (some (if negative then -n else n), rest)
    else (none, cs)
  | [] => (none, cs)

/-- Reads a number. Without fraction and exponent it is an integer. -/
def number : Reader Value := fun cs => do
  let (negative, unsigned) : Bool × List Char :=
    match cs with
    | '-' :: rest => (true, rest)
    | _ => (false, cs)
  match wholePart? unsigned with
  | none => refuse .expectingValue cs
  | some (whole, rest) =>
    let (fraction, rest) := fractionPart rest
    let (exponent?, rest) := exponentPart rest
    if fraction.isEmpty && exponent?.isNone then
      if Text.maxDigits < whole.length then refuse (.tooManyDigits whole.length) cs
      else
        let n : Int := Text.ofDigits whole
        return (.int (if negative then -n else n), rest)
    else
      let exponent := exponent?.getD 0 - fraction.length
      return (.float (.ofDecimal negative (Text.ofDigits (whole ++ fraction)) exponent), rest)

def words : List (String × Value) := [
  ("null", .null),
  ("true", .bool true),
  ("false", .bool false),
  ("NaN", .float .nan),
  ("Infinity", .float (.infinite false)),
  ("-Infinity", .float (.infinite true))]

/-- The value of a word in front of a text, and the rest. -/
def word? (cs : List Char) : Option (Value × List Char) :=
  words.findSome? fun (w, v) => (w.toList.isPrefixOf? cs).map (v, ·)

/-- Reads a value that holds no others and is no text. -/
def scalar : Reader Value := fun cs =>
  match word? cs with
  | some found => .ok found
  | none => number cs

/-! ### Values -/

mutual

/-- Reads a value whose brackets nest at most so deeply. Every step of the readers of this block
takes one unit of fuel, which comes first. -/
def value : Nat → Nat → Reader Value
  | 0, _, cs => refuse .expectingValue cs
  | fuel + 1, nesting, cs =>
    match cs, nesting with
    | '"' :: rest, _ => (text rest).map fun (s, rest) => (.text s, rest)
    | '[' :: rest, 0 => refuse (.tooDeep "array") ('[' :: rest)
    | '[' :: rest, nesting + 1 =>
      match skipSpace rest with
      | ']' :: rest => .ok (.list [], rest)
      | rest => elements fuel nesting [] rest
    | '\x7b' :: rest, 0 => refuse (.tooDeep "object") ('\x7b' :: rest)
    | '\x7b' :: rest, nesting + 1 =>
      match skipSpace rest with
      | '\x7d' :: rest => .ok (.object [], rest)
      | rest => members fuel nesting [] rest
    | cs, _ => scalar cs

/-- Reads the elements of a list up to its end, after those read before, the last of which is
first. -/
def elements : Nat → Nat → List Value → Reader Value
  | 0, _, _, cs => refuse .expectingValue cs
  | fuel + 1, nesting, before, cs => do
    let (x, rest) ← value fuel nesting cs
    match skipSpace rest with
    | ']' :: rest => return (.list (x :: before).reverse, rest)
    | ',' :: rest => elements fuel nesting (x :: before) (skipSpace rest)
    | rest => refuse .expectingComma rest

/-- Reads the members of an object up to its end, after those read before. -/
def members : Nat → Nat → Assoc Value → Reader Value
  | 0, _, _, cs => refuse .expectingName cs
  | fuel + 1, nesting, before, cs =>
    match cs with
    | '"' :: rest => do
      let (key, rest) ← text rest
      match skipSpace rest with
      | ':' :: rest =>
        let (x, rest) ← value fuel nesting (skipSpace rest)
        match skipSpace rest with
        | '\x7d' :: rest => return (.object (before.put key x), rest)
        | ',' :: rest => members fuel nesting (before.put key x) (skipSpace rest)
        | rest => refuse .expectingComma rest
      | rest => refuse .expectingColon rest
    | cs => refuse .expectingName cs

end

/-- Reads a text that is one value with space around it. Every character accounts for at most two
steps. -/
def whole (nesting : Nat) (cs : List Char) : Except Refusal Value := do
  let (x, rest) ← value (2 * cs.length + 1) nesting (skipSpace cs)
  match skipSpace rest with
  | [] => return x
  | rest => refuse .extraData rest

def read (nesting : Nat) (cs : List Char) : Except ReadError Value :=
  if cs.head? = some '\ufeff' then .error ⟨.byteOrderMark, []⟩
  else (whole nesting cs).mapError fun r => ⟨r.cause, cs.take (cs.length - r.left)⟩

end CodeBehind.Json
