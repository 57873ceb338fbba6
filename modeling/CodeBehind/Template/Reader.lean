import CodeBehind.Template.Token

/-!
Reading templates.

An expression is made in levels. On the lowest one there are names, literals and expressions in
brackets, with members, elements and calls after them and signs in front. Above it the operators
follow, from those that bind most closely to those that bind least: multiplying, putting texts
together, adding, comparing, negation, conjunction and disjunction. The reader goes through the
tokens once and stops at the first one that does not fit.
-/

namespace CodeBehind.Template

open Thing (Operator Comparison)

def constant? : String → Option Value
  | "true" | "True" => some (.bool true)
  | "false" | "False" => some (.bool false)
  | "none" | "None" => some .null
  | _ => none

def operatorLevels : List (List Operator) :=
  [[.add, .subtract], [.join], [.multiply, .divide, .quotient, .remainder]]

def comparisons : List Comparison :=
  [.equal, .unequal, .less, .atMost, .greater, .atLeast]

def noBeginning : Tokens → TemplateError
  | .done => .unexpected endName
  | .broken e => e
  | .next t _ => .unexpected t.describe

def afterMark (m : String) : Tokens → Except TemplateError Tokens
  | .done => .error (.endsBefore m)
  | .broken e => .error e
  | .next t rest =>
    match t with
    | .mark own => if own = m then .ok rest else .error (.expected m t.describe)
    | t => .error (.expected m t.describe)

/-- A text that goes on in the texts after it. -/
def joinTexts (text : String) : Tokens → String × Tokens
  | .next (.quoted more) rest => joinTexts (text ++ more) rest
  | rest => (text, rest)

def pointed (e : Expression) : Tokens → Except TemplateError (Expression × Tokens)
  | .done => .error .expectedMember
  | .broken error => .error error
  | .next (.word name) rest => .ok (.member e name, rest)
  | .next (.integer n) rest => .ok (.element e (.literal (.int n)), rest)
  | .next _ (.broken error) => .error error
  | .next _ _ => .error .expectedMember

/-- The tokens end a row of expressions. -/
def endsRow : Tokens → Bool
  | .next .closing _ | .next .statementClosing _ | .next (.mark ")") _ => true
  | _ => false

/-- What the expressions between commas make: themselves a row if there is a comma. -/
def ofRow (parts : List Expression) (hasComma : Bool) : Expression :=
  match parts, hasComma with
  | [e], false => e
  | parts, _ => .row parts

mutual

/-- Reads an expression. Every step reads a token or hands the tokens on to the next level. -/
def expression (steps : Nat) (ts : Tokens) : Except TemplateError (Expression × Tokens) :=
  match steps with
  | 0 => .error (noBeginning ts)
  | steps + 1 => do
    let (e, rest) ← conjunction steps ts
    disjunctionRest steps e rest
termination_by structural steps

def disjunctionRest (steps : Nat) (e : Expression) (ts : Tokens) :
    Except TemplateError (Expression × Tokens) :=
  match steps with
  | 0 => .ok (e, ts)
  | steps + 1 =>
    match ts with
    | .next (.word "or") rest => do
      let (next, rest) ← conjunction steps rest
      disjunctionRest steps (.either e next) rest
    | ts => .ok (e, ts)
termination_by structural steps

def conjunction (steps : Nat) (ts : Tokens) : Except TemplateError (Expression × Tokens) :=
  match steps with
  | 0 => .error (noBeginning ts)
  | steps + 1 => do
    let (e, rest) ← negated steps ts
    conjunctionRest steps e rest
termination_by structural steps

def conjunctionRest (steps : Nat) (e : Expression) (ts : Tokens) :
    Except TemplateError (Expression × Tokens) :=
  match steps with
  | 0 => .ok (e, ts)
  | steps + 1 =>
    match ts with
    | .next (.word "and") rest => do
      let (next, rest) ← negated steps rest
      conjunctionRest steps (.both e next) rest
    | ts => .ok (e, ts)
termination_by structural steps

def negated (steps : Nat) (ts : Tokens) : Except TemplateError (Expression × Tokens) :=
  match steps with
  | 0 => .error (noBeginning ts)
  | steps + 1 =>
    match ts with
    | .next (.word "not") rest => do
      let (e, rest) ← negated steps rest
      return (.negation e, rest)
    | ts => do
      let (e, rest) ← operation steps operatorLevels ts
      let (compared, rest) ← compared steps rest
      return (if compared.isEmpty then e else .comparison e compared, rest)
termination_by structural steps

/-- Reads what an expression is compared with. -/
def compared (steps : Nat) (ts : Tokens) :
    Except TemplateError (List (Comparison × Expression) × Tokens) :=
  match steps with
  | 0 => .ok ([], ts)
  | steps + 1 =>
    match ts with
    | .next (.mark m) rest =>
      match comparisons.find? (·.mark == m) with
      | some c => do
        let (e, rest) ← operation steps operatorLevels rest
        let (more, rest) ← compared steps rest
        return ((c, e) :: more, rest)
      | none => .ok ([], ts)
    | ts => .ok ([], ts)
termination_by structural steps

def operation (steps : Nat) (levels : List (List Operator)) (ts : Tokens) :
    Except TemplateError (Expression × Tokens) :=
  match steps with
  | 0 => .error (noBeginning ts)
  | steps + 1 =>
    match levels with
    | [] => signed steps ts
    | level :: higher => do
      let (e, rest) ← operation steps higher ts
      operationRest steps level higher e rest
termination_by structural steps

/-- Reads on after an expression that operators of a level may follow. -/
def operationRest (steps : Nat) (level : List Operator) (higher : List (List Operator))
    (e : Expression) (ts : Tokens) : Except TemplateError (Expression × Tokens) :=
  match steps with
  | 0 => .ok (e, ts)
  | steps + 1 =>
    match ts with
    | .next (.mark m) rest =>
      match level.find? (·.mark == m) with
      | some op => do
        let (next, rest) ← operation steps higher rest
        operationRest steps level higher (.operation op e next) rest
      | none => .ok (e, ts)
    | ts => .ok (e, ts)
termination_by structural steps

def signed (steps : Nat) (ts : Tokens) : Except TemplateError (Expression × Tokens) :=
  match steps with
  | 0 => .error (noBeginning ts)
  | steps + 1 =>
    match ts with
    | .next (.mark "-") rest => do
      let (e, rest) ← signed steps rest
      return (.sign true e, rest)
    | .next (.mark "+") rest => do
      let (e, rest) ← signed steps rest
      return (.sign false e, rest)
    | ts => do
      let (e, rest) ← primary steps ts
      continued steps e rest
termination_by structural steps

def primary (steps : Nat) (ts : Tokens) : Except TemplateError (Expression × Tokens) :=
  match steps with
  | 0 => .error (noBeginning ts)
  | steps + 1 =>
    match ts with
    | .next (.word name) rest => .ok ((constant? name).elim (.name name) .literal, rest)
    | .next (.integer n) rest => .ok (.literal (.int n), rest)
    | .next (.float x) rest => .ok (.literal (.float x), rest)
    | .next (.quoted text) rest =>
      let (text, rest) := joinTexts text rest
      .ok (.literal (.text text), rest)
    | .next (.mark "(") rest => do
      let ((parts, hasComma), rest) ← row steps rest
      return (ofRow parts hasComma, ← afterMark ")" rest)
    | .next (.mark "[") (.next (.mark "]") rest) => .ok (.list [], rest)
    | .next (.mark "[") rest => do
      let (parts, rest) ← elements steps rest
      return (.list parts, rest)
    | .next (.mark "\x7b") (.next (.mark "\x7d") rest) => .ok (.dictionary [], rest)
    | .next (.mark "\x7b") rest => do
      let (entries, rest) ← entries steps rest
      return (.dictionary entries, rest)
    | ts => .error (noBeginning ts)
termination_by structural steps

def row (steps : Nat) (ts : Tokens) :
    Except TemplateError ((List Expression × Bool) × Tokens) :=
  match steps with
  | 0 => .error (noBeginning ts)
  | steps + 1 =>
    if endsRow ts then .ok (([], false), ts)
    else do
      let (e, rest) ← expression steps ts
      match rest with
      | .next (.mark ",") rest =>
        let ((more, _), rest) ← row steps rest
        return ((e :: more, true), rest)
      | rest => return (([e], false), rest)
termination_by structural steps

/-- Reads the elements of a list up to the bracket that ends them, of which there is one at
least. -/
def elements (steps : Nat) (ts : Tokens) : Except TemplateError (List Expression × Tokens) :=
  match steps with
  | 0 => .error (noBeginning ts)
  | steps + 1 => do
    let (e, rest) ← expression steps ts
    match rest with
    | .next (.mark "]") rest => return ([e], rest)
    | rest =>
      match ← afterMark "," rest with
      | .next (.mark "]") rest => return ([e], rest)
      | rest =>
        let (more, rest) ← elements steps rest
        return (e :: more, rest)
termination_by structural steps

/-- Reads the entries of a dictionary up to the bracket that ends them, of which there is one at
least. -/
def entries (steps : Nat) (ts : Tokens) :
    Except TemplateError (List (Expression × Expression) × Tokens) :=
  match steps with
  | 0 => .error (noBeginning ts)
  | steps + 1 => do
    let (key, rest) ← expression steps ts
    let (e, rest) ← expression steps (← afterMark ":" rest)
    match rest with
    | .next (.mark "\x7d") rest => return ([(key, e)], rest)
    | rest =>
      match ← afterMark "," rest with
      | .next (.mark "\x7d") rest => return ([(key, e)], rest)
      | rest =>
        let (more, rest) ← entries steps rest
        return ((key, e) :: more, rest)
termination_by structural steps

/-- Reads the members, elements and calls after an expression. -/
def continued (steps : Nat) (e : Expression) (ts : Tokens) :
    Except TemplateError (Expression × Tokens) :=
  match steps with
  | 0 => .ok (e, ts)
  | steps + 1 =>
    match ts with
    | .next (.mark ".") rest => do
      let (e, rest) ← pointed e rest
      continued steps e rest
    | .next (.mark "[") (.next (.mark "]") rest) => continued steps (.element e (.row [])) rest
    | .next (.mark "[") rest => do
      let (parts, rest) ← elements steps rest
      continued steps (.element e (ofRow parts false)) rest
    | .next (.mark "(") (.next (.mark ")") rest) => continued steps (.call e [] []) rest
    | .next (.mark "(") rest => do
      let ((placed, named), rest) ← arguments steps rest
      continued steps (.call e placed named) rest
    | ts => .ok (e, ts)
termination_by structural steps

/-- Reads the arguments of a call up to the bracket that ends them, of which there is one at least.
Arguments by name come last. -/
def arguments (steps : Nat) (ts : Tokens) :
    Except TemplateError ((List Expression × List (String × Expression)) × Tokens) :=
  match steps with
  | 0 => .error (noBeginning ts)
  | steps + 1 => do
    let ((placed, named), rest) ← argument steps ts
    match rest with
    | .next (.mark ")") rest => return ((placed, named), rest)
    | rest =>
      match ← afterMark "," rest with
      | .next (.mark ")") rest => return ((placed, named), rest)
      | rest =>
        let ((morePlaced, moreNamed), rest) ← arguments steps rest
        if named.isEmpty ∨ morePlaced.isEmpty then
          return ((placed ++ morePlaced, named ++ moreNamed), rest)
        else throw .misplacedArgument
termination_by structural steps

def argument (steps : Nat) (ts : Tokens) :
    Except TemplateError ((List Expression × List (String × Expression)) × Tokens) :=
  match steps with
  | 0 => .error (noBeginning ts)
  | steps + 1 =>
    match ts with
    | .next (.word name) (.next (.mark "=") rest) => do
      let (e, rest) ← expression steps rest
      return (([], [(name, e)]), rest)
    | ts => do
      let (e, rest) ← expression steps ts
      return (([e], []), rest)
termination_by structural steps

end

/-- Reads the expression of a placeholder and the mark that closes it. -/
def placeholder (steps : Nat) (ts : Tokens) : Except TemplateError (Expression × Tokens) := do
  let ((parts, hasComma), rest) ← row steps ts
  match parts, rest with
  | [], .next t _ => throw (.noExpression t.describe)
  | parts, .next .closing rest => return (ofRow parts hasComma, rest)
  | _, .next t _ => throw (.expected closingName t.describe)
  | _, .broken e => throw e
  | _, .done => throw (.endsBefore closingName)

/-- Reads the parts of a template. The steps suffice for every single placeholder. -/
def parts (steps : Nat) : Nat → Tokens → Except TemplateError Template
  | 0, _ => .ok []
  | count + 1, ts =>
    match ts with
    | .done => .ok []
    | .broken e => .error e
    | .next (.text s) rest => do return .text s :: (← parts steps count rest)
    | .next .opening rest => do
      let (e, rest) ← placeholder steps rest
      return .placeholder e :: (← parts steps count rest)
    | .next .statementOpening (.next (.word name) _) => .error (.unknownTag name)
    | .next .statementOpening (.broken e) => .error e
    | .next .statementOpening _ => .error .expectedTag
    | .next t _ => .error (.unexpected t.describe)

/-- The levels that an expression goes through at most before a token is read. -/
def depth : Nat := 12

def read (source : String) : Except TemplateError Template :=
  let cs := source.toList
  parts (depth * (cs.length + 1)) (cs.length + 1) (tokens cs)

end CodeBehind.Template
