import CodeBehind.Text.Blank
import CodeBehind.Text.Digits
import CodeBehind.Text.Matcher
import CodeBehind.Version

/-!
Reading versions.

A version is written as numbers with dots between them, one or more, perhaps with a `v` in front and
blanks around. The first three numbers count and missing ones are zero; the others may be of any
length, while those that count may have no more than `Text.maxDigits` digits.
-/

namespace CodeBehind.Version

open Text.Matcher in
def dotted {β : Type} : Text.Matcher β (List Char) := do
  let _ ← one (· == '.')
  several Text.isDecimalDigit

open Text.Matcher in
/-- A written version: its first number, and the second and the third one if it has them. -/
def written {β : Type} : Text.Matcher β (List Char × Option (List Char) × Option (List Char)) := do
  let _ ← many Text.isBlank
  let _ ← maybe (one (· == 'v'))
  let major ← several Text.isDecimalDigit
  let minor? ← maybe dotted
  let patch? ← maybe dotted
  let _ ← repeated dotted
  let _ ← many Text.isBlank
  let _ ← atEnd
  return (major, minor?, patch?)

/-- The value of a written number. A missing one is zero. -/
def readNumber (digits? : Option (List Char)) : Except VersionError Int :=
  match digits? with
  | none => .ok 0
  | some digits =>
    if Text.maxDigits < digits.length then .error (.tooManyDigits digits.length)
    else .ok (Text.ofDigits digits)

/-- Reads a version. A missing text is read like an empty one. -/
def parse (text? : Option String) : Except VersionError Version :=
  match written.run (text?.getD "").toList with
  | none => .error (.malformed text?)
  | some (major, minor?, patch?) => do
    return {
      major := ← readNumber (some major)
      minor := ← readNumber minor?
      patch := ← readNumber patch? }

end CodeBehind.Version
