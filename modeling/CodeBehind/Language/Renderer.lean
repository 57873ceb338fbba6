import CodeBehind.Fault
import CodeBehind.Text.Lines

/-!
Diagnostics as source code.

A renderer is all that the library knows of a language: the extension of its generated files and how
one line of text becomes a statement that makes the build fail with that text. A message is rendered
line by line; a message without any visible line is one empty statement. The statements are made
one by one while they are joined, which changes a fault that signals the end of an iteration.
-/

namespace CodeBehind

/-- What the library knows of one language. -/
structure Renderer where
  name : String
  fileExtension : String
  statement : String → Except Fault String
  displayName : String := ""
  aliases : List String := []

namespace Renderer

def linesOf (message? : Option String) : List String :=
  match Text.splitLines (message?.getD "").toList with
  | [] => [""]
  | lines => lines.map String.ofList

/-- A message as statements with `ending` between them. -/
def renderLines (r : Renderer) (message? : Option String) (ending : String) :
    Except Fault String := do
  let statements ← ((linesOf message?).mapM r.statement).mapError Fault.leavingIteration
  return ending.intercalate statements

def shownName (r : Renderer) : String :=
  if r.displayName.isEmpty then r.name else r.displayName

end Renderer

end CodeBehind
