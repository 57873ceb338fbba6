import CodeBehind.Text.Printable
import CodeBehind.Text.Quoted

/-!
What can be wrong with a literal.

Some errors are seen while the characters are grouped into tokens, the others while the tokens are
read. `Error.message` is the wording of each.
-/

namespace CodeBehind.Console.Literal

/-- Why a text is no literal. -/
inductive Error where
  | badNumber (kind : String)
  | badDigit (digit : Char) (kind : String)
  | leadingZeros
  | unendedText (long : Bool)
  | nonAsciiBytes
  | mixedTexts
  | strayBackslash
  | endsInBackslash
  | badCharacter (c : Char)
  | unmatched (closing : Char)
  | mismatched (closing opening : Char)
  | unclosed (opening : Char)
  | invalid
  | missingComma
  | missingElse
  | missingParentheses (statement : String)
  | nameGivenValue
  | givenValue (target : String)
  | argumentGivenValue
  | wordGivenValue (word : String)
  | positionalAfterNamed (unpacking : Bool)
  | missingKeyColon
  | missingKeyValue
  | starredValue
  | starred
  | doublyStarred
  | starAlone
deriving DecidableEq, Repr

/-- The number of a character in base sixteen, with four digits at least. -/
def codeText (c : Char) : String :=
  let digits := (Nat.toDigits 16 c.toNat).map Char.toUpper
  String.ofList (List.replicate (4 - digits.length) '0' ++ digits)

def Error.message : Error → String
  | .badNumber kind => "invalid " ++ kind ++ " literal"
  | .badDigit digit kind => "invalid digit '" ++ digit.toString ++ "' in " ++ kind ++ " literal"
  | .leadingZeros =>
    "leading zeros in decimal integer literals are not permitted; " ++
      "use an 0o prefix for octal integers"
  | .unendedText long =>
    "unterminated " ++ (if long then "triple-quoted " else "") ++
      "string literal (detected at line 1)"
  | .nonAsciiBytes => "bytes can only contain ASCII literal characters"
  | .mixedTexts => "cannot mix bytes and nonbytes literals"
  | .strayBackslash => "unexpected character after line continuation character"
  | .endsInBackslash => "unexpected EOF while parsing"
  | .badCharacter c =>
    if Text.isPrintable c then "invalid character '" ++ c.toString ++ "' (U+" ++ codeText c ++ ")"
    else "invalid non-printable character U+" ++ codeText c
  | .unmatched closing => "unmatched '" ++ closing.toString ++ "'"
  | .mismatched closing opening =>
    "closing parenthesis '" ++ closing.toString ++ "' does not match opening parenthesis '" ++
      opening.toString ++ "'"
  | .unclosed opening => "'" ++ opening.toString ++ "' was never closed"
  | .invalid => "invalid syntax"
  | .missingComma => "invalid syntax. Perhaps you forgot a comma?"
  | .missingElse => "expected 'else' after 'if' expression"
  | .missingParentheses statement =>
    "Missing parentheses in call to '" ++ statement ++ "'. Did you mean " ++ statement ++ "(...)?"
  | .nameGivenValue => "invalid syntax. Maybe you meant '==' or ':=' instead of '='?"
  | .givenValue target =>
    "cannot assign to " ++ target ++ " here. Maybe you meant '==' instead of '='?"
  | .argumentGivenValue => "expression cannot contain assignment, perhaps you meant \"==\"?"
  | .wordGivenValue word => "cannot assign to " ++ word
  | .positionalAfterNamed unpacking =>
    "positional argument follows keyword argument" ++ (if unpacking then " unpacking" else "")
  | .missingKeyColon => "':' expected after dictionary key"
  | .missingKeyValue => "expression expected after dictionary key and ':'"
  | .starredValue => "cannot use a starred expression in a dictionary value"
  | .starred => "cannot use starred expression here"
  | .doublyStarred => "cannot use double starred expression here"
  | .starAlone => "Invalid star expression"

end CodeBehind.Console.Literal
