import CodeBehind.Fault.Coding
import CodeBehind.Fault.Source
import CodeBehind.Fault.System

/-!
Faults made from arguments.

A fault is raised with a list of arguments, and its kind and its description follow from them. Some
kinds have a rule of their own, and some cannot be made of just any arguments: what is raised then
is the fault of making them.
-/

namespace CodeBehind.Fault

def interruptingNames : List String :=
  ["KeyboardInterrupt", "SystemExit", "GeneratorExit", "BaseException"]

def packagedKinds : List FaultKind :=
  [.config, .generator, .template, .registry, .fileAccess, .commandLine]

def groupNames : List String :=
  ["ExceptionGroup", "BaseExceptionGroup"]

/-- The name of a kind under which it is known: three spellings mean the general system fault. -/
def properName (name : String) : String :=
  if name = "IOError" ∨ name = "EnvironmentError" then "OSError" else name

/-- The kind of a module that is not found is a case of this one. -/
def importing : String := "ImportError"

def kindNamed (name : String) : FaultKind :=
  match packagedKinds.find? (·.name = name) with
  | some kind => kind
  | none =>
    { FaultKind.builtin name with
      interrupting := name ∈ interruptingNames
      lineage := if name = "ModuleNotFoundError" then [name, importing] else [name] }

/-- The fault of making a fault that holds others. No value is a fault, so it cannot be made. -/
def groupFault (args : List Value) : Fault :=
  let maker := "BaseExceptionGroup.__new__()"
  let second := "second argument (exceptions)"
  match args with
  | [.text _, .list []] | [.text _, .text ""] =>
    .builtin "ValueError" (second ++ " must be a non-empty sequence")
  | [.text _, .list _] | [.text _, .text _] =>
    .builtin "ValueError" ("Item 0 of " ++ second ++ " is not an exception")
  | [.text _, _] => typeError (second ++ " must be a sequence")
  | [message, _] => typeError (maker ++ " argument 1 must be str, not " ++ argumentKind message)
  | args =>
    typeError (maker ++ " takes exactly 2 arguments (" ++ Nat.repr args.length ++ " given)")

def describe (name : String) (args : List Value) : Except Fault String :=
  if name = "KeyError" then
    match args with
    | [key] => .ok key.literal
    | _ => .ok (plainText args)
  else if name ∈ systemNames then systemText name args
  else if name ∈ sourceNames then sourceText args
  else if name ∈ codingNames then codingText name args
  else if name ∈ groupNames then .error (groupFault args)
  else .ok (plainText args)

def make (name : String) (args : List Value) : Except Fault Fault := do
  let raised := systemName (properName name) args
  return ⟨kindNamed raised, some (← describe raised args)⟩

/-- The fault that is raised by a name and arguments, which may be that of making it. -/
def ofArguments (name : String) (args : List Value) : Fault :=
  match make name args with
  | .ok f | .error f => f

end CodeBehind.Fault
