import CodeBehind.Text.Lines
import CodeBehind.Thing.Operator

/-!
Templates.

A template is text with placeholders between double braces and comments between a brace and a number
sign. A placeholder holds an expression: a name or a literal, perhaps with members, elements and
calls after it, and operators between several of them. What the expression stands for goes into the
result as it is printed and is never read as template text.

The modules below it hold the reader of templates (`Template.Token`, `Template.Reader`), what
expressions stand for (`Template.Render`), and the collection of named templates with the two that
the library brings along (`Templates`).
-/

namespace CodeBehind

/-- What a placeholder holds. -/
inductive Expression where
  | literal (v : Value)
  | name (s : String)
  | member (of : Expression) (name : String)
  | element (of key : Expression)
  | call (of : Expression) (placed : List Expression) (named : List (String × Expression))
  | row (parts : List Expression)
  | list (parts : List Expression)
  | dictionary (entries : List (Expression × Expression))
  | sign (negative : Bool) (of : Expression)
  | operation (op : Thing.Operator) (a b : Expression)
  | comparison (a : Expression) (rest : List (Thing.Comparison × Expression))
  | negation (of : Expression)
  | both (a b : Expression)
  | either (a b : Expression)
deriving Repr

/-- A part of a template. -/
inductive TemplatePart where
  | text (s : String)
  | placeholder (e : Expression)
deriving Repr

/-- A template that has been read: its parts in order. -/
abbrev Template := List TemplatePart

abbrev Context := Assoc Thing

/-- Why an expression stands for nothing. -/
inductive Absence where
  | name (s : String)
  | attribute (owner asked : String)
  | element (owner key : String)
deriving DecidableEq, Repr

def Absence.message : Absence → String
  | .name s => Text.quoted s ++ " is undefined"
  | .attribute owner asked => Text.quoted owner ++ " has no attribute " ++ Text.quoted asked
  | .element owner key => owner ++ " has no element " ++ key

/-- Why a template cannot be rendered. Tokens are given as messages name them. -/
inductive TemplateError where
  | unknown (name : String)
  | unclosedComment
  | badCharacter (c : Char) (position : Nat)
  | badName
  | unopened (bracket : Char)
  | mismatched (bracket due : Char)
  | noExpression (found : String)
  | unexpected (found : String)
  | expected (token found : String)
  | endsBefore (token : String)
  | expectedMember
  | misplacedArgument
  | expectedTag
  | unknownTag (name : String)
  | absent (a : Absence)
  | fault (f : Fault)
deriving DecidableEq, Repr

namespace TemplateError

def message : TemplateError → String
  | .unknown name => name
  | .unclosedComment => "Missing end of comment tag"
  | .badCharacter c position =>
    "unexpected char " ++ Text.quoted c.toString ++ " at " ++ Nat.repr position
  | .badName => "Invalid character in identifier"
  | .unopened bracket => "unexpected " ++ Text.quoted bracket.toString
  | .mismatched bracket due =>
    "unexpected " ++ Text.quoted bracket.toString ++ ", expected " ++ Text.quoted due.toString
  | .noExpression found => "Expected an expression, got " ++ Text.quoted found
  | .unexpected found => "unexpected " ++ Text.quoted found
  | .expected token found =>
    "expected token " ++ Text.quoted token ++ ", got " ++ Text.quoted found
  | .endsBefore token => "unexpected end of template, expected " ++ Text.quoted token ++ "."
  | .expectedMember => "expected name or number"
  | .misplacedArgument => "invalid syntax for function call expression"
  | .expectedTag => "tag name expected"
  | .unknownTag name => "Encountered unknown tag " ++ Text.quoted name ++ "."
  | .absent a => a.message
  | .fault f => f.summary

/-- The fault of rendering the template called `template`. What a call raises is not a matter of the
template and stays as it is. -/
def toFault (template : String) : TemplateError → Fault
  | .fault f => f
  | e => ⟨.template, some ("Failed to render template " ++ template ++ ": " ++ e.message)⟩

end TemplateError

end CodeBehind
