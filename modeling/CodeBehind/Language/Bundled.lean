import CodeBehind.Language.Renderer
import CodeBehind.Text.Quoted

/-!
The bundled languages.

C# and Visual Basic have a line directive that fails the build with the text behind it; the text
must hold no control characters. Python has none, so there a statement raises the text as a quoted
literal when the generated module is loaded.
-/

namespace CodeBehind.Language

/-- The statement of a line directive: the keyword alone when there is nothing to tell. -/
def directive (keyword : String) (text : List Char) : List Char :=
  Text.trimRight (keyword.toList ++ ' ' :: Text.trim (Text.stripControl text))

/-- The statement that raises a text. -/
def raising (text : List Char) : List Char :=
  "raise RuntimeError(".toList ++ Text.quote (Text.trim text) ++ [')']

/-- A statement as a renderer has it, for a rule that never fails. -/
def sure (rule : List Char → List Char) (text : String) : Except Fault String :=
  .ok (String.ofList (rule text.toList))

def csharp : Renderer where
  name := "csharp"
  displayName := "C#"
  fileExtension := ".cs"
  statement := sure (directive "#error")
  aliases := ["c#", "cs"]

def visualBasic : Renderer where
  name := "vb"
  displayName := "Visual Basic"
  fileExtension := ".vb"
  statement := sure (directive "#Error")
  aliases := ["vb.net", "vbnet", "visualbasic"]

def python : Renderer where
  name := "python"
  displayName := "Python"
  fileExtension := ".py"
  statement := sure raising
  aliases := ["py"]

/-- The bundled languages in the order in which they are registered. -/
def bundled : List Renderer :=
  [csharp, visualBasic, python]

end CodeBehind.Language
