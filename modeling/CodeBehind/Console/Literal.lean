import CodeBehind.Console.Literal.Token

/-!
Reading literals.

`Literal.check` says whether a text could be a literal and, if not, what is wrong with it. It reads
the text as an expression, of which literals are a part, and knows the mistakes that are made often.
What is wrong with the characters counts before what is wrong with their order.
-/

namespace CodeBehind.Console.Literal

/-- What an expression looks like, for the message about a value given to it. -/
inductive Shape where
  | name (s : String)
  | constant (word : String)
  | literal
  | attribute
  | call
  | group
  | other (kind : String)
deriving DecidableEq, Repr

/-- The next token, unless the end comes while a bracket is open. -/
def peek (ts : List Token) : Except Error (Option Token) :=
  match ts with
  | .unclosed bracket :: _ => .error (.unclosed bracket)
  | t :: _ => .ok (some t)
  | [] => .ok none

def isNext (mark : String) (ts : List Token) : Except Error Bool := do
  return (← peek ts) = some (.mark mark)

/-- The tokens after a mark that must come next. -/
def expect (mark : String) (ts : List Token) : Except Error (List Token) := do
  if ← isNext mark ts then return ts.drop 1 else throw .invalid

def reservedWords : List String := [
  "and", "as", "assert", "async", "await", "break", "class", "continue", "def", "del", "elif",
  "else", "except", "finally", "for", "from", "global", "if", "import", "in", "is", "lambda",
  "nonlocal", "not", "or", "pass", "raise", "return", "try", "while", "with", "yield"]

def constants : List String := ["True", "False", "None"]

def wordShape (s : String) : Except Error Shape :=
  if constants.contains s then .ok (.constant s)
  else if reservedWords.contains s then .error .invalid
  else .ok (.name s)

def comparisons : List Token :=
  ["==", "!=", "<", ">", "<=", ">="].map .mark ++ [.word "in", .word "is"]

/-- All other operators between two operands. -/
def operators : List Token :=
  ["+", "-", "*", "/", "//", "%", "@", "**", "<<", ">>", "&", "|", "^"].map .mark ++
    [.word "and", .word "or"]

/-- The operator in front of some tokens, whether it compares, and what follows it. -/
def operator? (ts : List Token) : Option (Bool × List Token) :=
  match ts with
  | .word "not" :: .word "in" :: rest | .word "is" :: .word "not" :: rest => some (true, rest)
  | t :: rest =>
    if comparisons.contains t then some (true, rest)
    else if operators.contains t then some (false, rest)
    else none
  | [] => none

/-- Operators in front of an operand. -/
def isSign (t : Token) : Bool :=
  [Token.mark "+", .mark "-", .mark "~", .word "not", .word "await"].contains t

/-- The tokens after texts that stand side by side, which are all of one kind. -/
def afterTexts (ofBytes : Bool) : List Token → Except Error (List Token)
  | .text b :: rest => if b = ofBytes then afterTexts ofBytes rest else .error .mixedTexts
  | ts => .ok ts

/-- The error of giving a value to an expression where that means nothing. -/
def givenValue : Shape → Error
  | .name _ => .nameGivenValue
  | .literal => .givenValue "literal"
  | .attribute => .givenValue "attribute"
  | .call => .givenValue "function call"
  | .other kind => .givenValue kind
  | .group | .constant _ => .invalid

/-- What comes of reading an expression of a shape from `ts`, with `rest` left of them, when
`following` is what comes of reading another one from there. Two expressions side by side lack a
comma inside of brackets. -/
def beside (depth : Nat) (ts rest : List Token) (shape : Shape)
    (following : Except Error (Shape × List Token)) : Except Error (Shape × List Token) :=
  match following with
  | .error (.unclosed bracket) => .error (.unclosed bracket)
  | .error _ => .ok (shape, rest)
  | .ok _ =>
    match ts with
    | [.word s] => .ok (.name s, rest)
    | .word s :: next :: _ =>
      if rest.length + 1 = ts.length ∧ ["print", "exec"].contains s ∧ next ≠ .mark "(" then
        .error (.missingParentheses s)
      else if depth = 0 ∨ next matches .text _ then .ok (shape, rest)
      else .error .missingComma
    | _ => if depth = 0 then .ok (shape, rest) else .error .missingComma

/-- What kinds of arguments a call has had so far. -/
structure ArgumentsSeen where
  named : Bool := false
  unpacked : Bool := false

mutual

/-- Reads an expression at a depth of brackets. Every step takes a token, so `steps` need not exceed
their number. -/
def expression (depth : Nat) : Nat → List Token → Except Error (Shape × List Token)
  | 0, _ => .error .invalid
  | steps + 1, ts => do
    if ts.head? = some (.word "lambda") then
      let names := (ts.drop 1).takeWhile fun t => t matches .word _ || t = .mark ","
      let (_, rest) ← expression depth steps (← expect ":" (ts.drop (1 + names.length)))
      return (.other "lambda", rest)
    let (shape, rest) ← operation depth steps ts
    match ← peek rest with
    | some (.word "if") =>
      let (_, rest) ← operation depth steps (rest.drop 1)
      match ← peek rest with
      | some (.word "else") =>
        let (_, rest) ← expression depth steps (rest.drop 1)
        return (.other "conditional expression", rest)
      | some (.mark ":") => throw .invalid
      | _ => throw .missingElse
    | none => return (shape, rest)
    | some _ => beside depth ts rest shape (operation depth steps rest)
termination_by structural steps => steps

/-- Reads operands with operators between them. -/
def operation (depth : Nat) : Nat → List Token → Except Error (Shape × List Token)
  | 0, _ => .error .invalid
  | steps + 1, ts => do
    let (shape, rest) ← operand depth steps ts
    let _ ← peek rest
    match operator? rest with
    | some (compares, rest) =>
      let (right, rest) ← operation depth steps rest
      return (if compares || right = .other "comparison" then .other "comparison"
        else .other "expression", rest)
    | none => return (shape, rest)
termination_by structural steps => steps

/-- Reads an operand with the signs in front of it and all that is appended to it. -/
def operand (depth : Nat) : Nat → List Token → Except Error (Shape × List Token)
  | 0, _ => .error .invalid
  | steps + 1, ts => do
    match ← peek ts with
    | none | some (.unclosed _) => throw .invalid
    | some .number => appended depth steps .literal (ts.drop 1)
    | some (.text ofBytes) => appended depth steps .literal (← afterTexts ofBytes ts)
    | some (.mark "(") =>
      let (shape, rest) ← group (depth + 1) steps (ts.drop 1)
      appended depth steps shape rest
    | some (.mark "\x7b") =>
      let (shape, rest) ← braces (depth + 1) steps (ts.drop 1)
      appended depth steps shape rest
    | some (.mark "...") => appended depth steps (.other "ellipsis") (ts.drop 1)
    | some t =>
      if isSign t then
        let (_, rest) ← operand depth steps (ts.drop 1)
        return (.other "expression", rest)
      else
        match t with
        | .word s => appended depth steps (← wordShape s) (ts.drop 1)
        | _ => throw .invalid
termination_by structural steps => steps

def appended (depth : Nat) : Nat → Shape → List Token → Except Error (Shape × List Token)
  | 0, _, _ => .error .invalid
  | steps + 1, shape, ts => do
    match ← peek ts with
    | some (.mark ".") =>
      match ← peek (ts.drop 1) with
      | some (.word s) =>
        if reservedWords.contains s || constants.contains s then throw .invalid
        else appended depth steps .attribute (ts.drop 2)
      | _ => throw .invalid
    | some (.mark "(") =>
      let rest ← arguments (depth + 1) steps {} (ts.drop 1)
      appended depth steps .call rest
    | _ => return (shape, ts)
termination_by structural steps => steps

/-- Reads what is inside parentheses, up to the closing one. -/
def group (depth : Nat) : Nat → List Token → Except Error (Shape × List Token)
  | 0, _ => .error .invalid
  | steps + 1, ts => do
    if ← isNext ")" ts then return (.group, ts.drop 1)
    match ts with
    | .word "yield" :: rest =>
      if ← isNext ")" rest then return (.group, rest.drop 1)
      let (_, rest) ← expression depth steps rest
      return (.group, ← expect ")" rest)
    | .mark "**" :: rest =>
      let _ ← expression depth steps rest
      throw .doublyStarred
    | .mark "*" :: rest =>
      if (← isNext ")" rest) || (← isNext "," rest) then throw .starAlone
      let (_, rest) ← operation depth steps rest
      if ← isNext ")" rest then throw .starred
      return (.group, ← elements ")" depth steps (← expect "," rest))
    | _ =>
      let (shape, rest) ← element depth steps ts
      match ← peek rest with
      | some (.word "for") => return (.group, ← expect ")" (← comprehension depth steps rest))
      | some (.mark ",") => return (.group, ← elements ")" depth steps (rest.drop 1))
      | _ => return (shape, ← expect ")" rest)
termination_by structural steps => steps

/-- Reads one element, which must not be given a value. -/
def element (depth : Nat) : Nat → List Token → Except Error (Shape × List Token)
  | 0, _ => .error .invalid
  | steps + 1, ts => do
    match ts with
    | .mark "*" :: rest =>
      let (_, rest) ← operation depth steps rest
      return (.group, rest)
    | _ =>
    let (shape, rest) ← expression depth steps ts
    match ← peek rest, shape with
    | some (.mark ":="), .name _ =>
      let (_, rest) ← expression depth steps (rest.drop 1)
      return (.other "named expression", rest)
    | some (.mark "="), shape =>
      let (_, rest) ← operation depth steps (rest.drop 1)
      match ← peek rest with
      | some (.mark "=") | some (.mark ":=") => throw .invalid
      | _ => throw (givenValue shape)
    | _, _ => return (shape, rest)
termination_by structural steps => steps

/-- Reads elements with commas between them, up to a closing bracket. -/
def elements (closing : String) (depth : Nat) : Nat → List Token → Except Error (List Token)
  | 0, _ => .error .invalid
  | steps + 1, ts => do
    if ← isNext closing ts then return ts.drop 1
    let (_, rest) ← element depth steps ts
    if ← isNext closing rest then return rest.drop 1
    elements closing depth steps (← expect "," rest)
termination_by structural steps => steps

/-- Reads where the elements of a comprehension come from. -/
def comprehension (depth : Nat) : Nat → List Token → Except Error (List Token)
  | 0, _ => .error .invalid
  | steps + 1, ts => do
    match ← peek ts with
    | some (.word "for") =>
      let rest := (ts.drop 1).dropWhile fun t =>
        t = .mark "," || (t matches .word _ && t ≠ .word "in")
      match ← peek rest with
      | some (.word "in") =>
        let (_, rest) ← operation depth steps (rest.drop 1)
        comprehension depth steps rest
      | _ => throw .invalid
    | some (.word "if") =>
      let (_, rest) ← operation depth steps (ts.drop 1)
      comprehension depth steps rest
    | _ => return ts
termination_by structural steps => steps

def arguments (depth : Nat) : Nat → ArgumentsSeen → List Token → Except Error (List Token)
  | 0, _, _ => .error .invalid
  | steps + 1, seen, ts => do
    if ← isNext ")" ts then return ts.drop 1
    let (seen, rest) ← argument depth steps seen ts
    if ← isNext ")" rest then return rest.drop 1
    arguments depth steps seen (← expect "," rest)
termination_by structural steps => steps

def argument (depth : Nat) :
    Nat → ArgumentsSeen → List Token → Except Error (ArgumentsSeen × List Token)
  | 0, _, _ => .error .invalid
  | steps + 1, seen, ts => do
    match ts with
    | .mark "**" :: rest =>
      let (_, rest) ← expression depth steps rest
      return ({ seen with unpacked := true }, rest)
    | .mark "*" :: rest =>
      let (_, rest) ← expression depth steps rest
      return (seen, rest)
    | .word s :: .mark "=" :: rest =>
      if constants.contains s then throw (.wordGivenValue s)
      let _ ← wordShape s
      let (_, rest) ← expression depth steps rest
      return ({ seen with named := true }, rest)
    | _ =>
      let (_, rest) ← expression depth steps ts
      match ← peek rest with
      | some (.mark "=") => throw .argumentGivenValue
      | some (.word "for") => return (seen, ← comprehension depth steps rest)
      | some (.mark ":=") =>
        let (_, rest) ← expression depth steps (rest.drop 1)
        return (seen, rest)
      | _ =>
        if seen.unpacked then throw (.positionalAfterNamed true)
        if seen.named then throw (.positionalAfterNamed false)
        return (seen, rest)
termination_by structural steps => steps

/-- Reads what is inside braces, up to the closing one. -/
def braces (depth : Nat) : Nat → List Token → Except Error (Shape × List Token)
  | 0, _ => .error .invalid
  | steps + 1, ts => do
    if ← isNext "\x7d" ts then return (.other "dict literal", ts.drop 1)
    match ts with
    | .mark "**" :: _ => return (.other "dict literal", ← entries depth steps ts)
    | _ =>
      let (_, rest) ← element depth steps ts
      match ← peek rest with
      | some (.mark ":") => return (.other "dict literal", ← entries depth steps ts)
      | some (.mark "\x7d") => return (.other "set display", rest.drop 1)
      | some (.word "for") =>
        return (.other "set comprehension", ← expect "\x7d" (← comprehension depth steps rest))
      | _ => return (.other "set display", ← elements "\x7d" depth steps (← expect "," rest))
termination_by structural steps => steps

def entries (depth : Nat) : Nat → List Token → Except Error (List Token)
  | 0, _ => .error .invalid
  | steps + 1, ts => do
    if ← isNext "\x7d" ts then return ts.drop 1
    let rest ← entry depth steps ts
    match ← peek rest with
    | some (.mark "\x7d") => return rest.drop 1
    | some (.word "for") => expect "\x7d" (← comprehension depth steps rest)
    | _ => entries depth steps (← expect "," rest)
termination_by structural steps => steps

def entry (depth : Nat) : Nat → List Token → Except Error (List Token)
  | 0, _ => .error .invalid
  | steps + 1, ts => do
    match ts with
    | .mark "**" :: rest =>
      let (_, rest) ← operation depth steps rest
      return rest
    | _ =>
      let (_, rest) ← expression depth steps ts
      if !(← isNext ":" rest) then throw .missingKeyColon
      match ← peek (rest.drop 1) with
      | some (.mark "\x7d") | some (.mark ",") => throw .missingKeyValue
      | some (.mark "*") => throw .starredValue
      | _ =>
        let (_, rest) ← expression depth steps (rest.drop 1)
        return rest
termination_by structural steps => steps

end

def expressions (steps : Nat) : Nat → List Token → Except Error Unit
  | 0, _ => .error .invalid
  | count + 1, ts => do
    let (_, rest) ← expression 0 steps ts
    match ← peek rest with
    | none => return
    | some (.mark ",") => if rest.length = 1 then return else expressions steps count (rest.drop 1)
    | _ => throw .invalid

/-- Checks that a text could be a literal. -/
def check (cs : List Char) : Except Error Unit := do
  let ts ← tokens cs
  expressions (8 * ts.length + 8) (ts.length + 1) ts

end CodeBehind.Console.Literal
