import CodeBehind.Fault
import CodeBehind.Value

/-!
Diagnostics and results of a generation.

A diagnostic is one message with the place it is about, as far as the place is known. The result of
generating one file is its code or at least one diagnostic; a failed result without diagnostics
cannot be made.
-/

namespace CodeBehind

/-- One diagnostic. -/
structure Diagnostic where
  message? : Option String
  line? : Option Int := none
  column? : Option Int := none
deriving DecidableEq, Repr

namespace Diagnostic

def messageText (d : Diagnostic) : String :=
  d.message?.getD Value.null.literal

/-- The fault of printing a diagnostic with neither message nor line. -/
def unprintable : Fault :=
  .builtin "TypeError" "__str__ returned non-string (type NoneType)"

/-- The printed form: the message, with the place in front where a line is known. A place with a
number of too many digits cannot be printed. -/
def text (d : Diagnostic) : Except Fault String :=
  match d.line? with
  | none => d.message?.elim (.error unprintable) .ok
  | some line =>
    let place := line :: d.column?.toList
    if place.all Value.isWritableInt then
      .ok ("(" ++ ",".intercalate (place.map Value.intText) ++ "): " ++ d.messageText)
    else .error Value.tooLong

def ofFault (f : Fault) : Diagnostic :=
  { message? := some f.summary }

end Diagnostic

/-- What a generator returns for one file: code, or diagnostics. -/
structure GenerationResult where
  code? : Option String := none
  errors : List Diagnostic := []
deriving DecidableEq, Repr

namespace GenerationResult

/-- The result is free of diagnostics. -/
def isSuccess (r : GenerationResult) : Bool :=
  r.errors.isEmpty

def succeeded (code? : Option String) : GenerationResult :=
  { code? }

def noErrors : Fault :=
  ⟨.generator, some "A failed generation result needs at least one error"⟩

/-- A result with diagnostics, of which there must be one. -/
def failed (errors : List Diagnostic) : Except Fault GenerationResult :=
  if errors.isEmpty then .error noErrors else .ok { errors }

def text (r : GenerationResult) : String :=
  if r.isSuccess then
    "TestGeneratorResult(success, " ++ Nat.repr (r.code?.getD "").length ++ " chars)"
  else "TestGeneratorResult(failure, " ++ Nat.repr r.errors.length ++ " errors)"

end GenerationResult

end CodeBehind
