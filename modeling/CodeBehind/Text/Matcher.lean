/-!
Matching texts with backtracking.

A matcher takes a piece from the front of a text and hands what it has read, with the rest of the
text, to what is to be matched next. It has its possibilities in order, and goes on to the next one
where the rest cannot be matched: a repetition takes as much as it can and then gives back one part
after the other, and what may be there is read before it is left out. So what counts is the first
possibility with which everything can be matched.
-/

namespace CodeBehind.Text

/-- Reads something from the front of a text and goes on with the rest. -/
def Matcher (β α : Type) : Type :=
  List Char → (α → List Char → Option β) → Option β

namespace Matcher

variable {α β : Type}

instance : Monad (Matcher β) where
  pure a := fun text next => next a text
  bind m f := fun text next => m text fun a rest => f a rest next

def run (m : Matcher α α) (text : List Char) : Option α :=
  m text fun a _ => some a

def one (holds : Char → Bool) : Matcher β Char
  | [], _ => none
  | c :: rest, next => if holds c then next c rest else none

/-- Characters of a class, as many as possible. -/
def many (holds : Char → Bool) : Matcher β (List Char)
  | [], next => next [] []
  | c :: rest, next =>
    if holds c then
      (many holds rest fun taken rest => next (c :: taken) rest).or (next [] (c :: rest))
    else next [] (c :: rest)

/-- Characters of a class, at least one. -/
def several (holds : Char → Bool) : Matcher β (List Char) := do
  let first ← one holds
  let more ← many holds
  return first :: more

def maybe (m : Matcher β α) : Matcher β (Option α) := fun text next =>
  (m text fun a rest => next (some a) rest).or (next none text)

/-- What may be there again and again. Each time takes something from the text. -/
def repeated (m : Matcher β α) (text : List Char) (next : List α → List Char → Option β) :
    Option β :=
  (m text fun a rest =>
    if rest.length < text.length then repeated m rest fun more rest => next (a :: more) rest
    else none).or (next [] text)
termination_by text.length

/-- The end of the text, in front of a line feed at most. -/
def atEnd : Matcher β Unit := fun text next =>
  if text = [] ∨ text = ['\n'] then next () text else none

end Matcher

end CodeBehind.Text
