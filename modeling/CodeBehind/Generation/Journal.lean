import CodeBehind.Channel
import CodeBehind.Generation.Services

/-!
Journals.

A journal lists the steps of a generation in order: calls of collaborators with the fault they ended
with, records of the log, renderings of diagnostics, notices and the handlers that got them. A
`Part` of a generation is its journal together with what it came to. Parts follow one another until
one ends with a fault.
-/

namespace CodeBehind

/-- A call of a collaborator. -/
inductive Call where
  | provideServices
  | projectSettings
  | generatorVersion
  | read (path : String)
  | createGenerator
  | generate (file : FeatureFile) (settings : GenerationSettings)
  | close
  | write (path content : String)
deriving DecidableEq, Repr

/-- One step of a generation. -/
inductive Step where
  | call (c : Call) (fault? : Option Fault)
  | log (record : LogRecord)
  | render (message? : Option String)
  | emit (notice : Notice)
  | notify (handler : String) (notice : Notice)
deriving DecidableEq, Repr

namespace Step

def ofOccurrence : Channel.Occurrence → Step
  | .called handler notice => .notify handler notice
  | .logged record => .log record

/-- An emission as steps: the notice, and then what happens. -/
def ofEmission (notice : Notice) (e : Channel.Emission) : List Step :=
  .emit notice :: e.occurrences.map ofOccurrence

end Step

namespace Journal

def logs (journal : List Step) : List LogRecord :=
  journal.filterMap fun
    | .log record => some record
    | _ => none

def calls (journal : List Step) : List (Call × Option Fault) :=
  journal.filterMap fun
    | .call c fault? => some (c, fault?)
    | _ => none

def writes (journal : List Step) : List (String × String) :=
  journal.filterMap fun
    | .call (.write path content) none => some (path, content)
    | _ => none

def noticesOf (handler : String) (journal : List Step) : List Notice :=
  journal.filterMap fun
    | .notify h notice => if h = handler then some notice else none
    | _ => none

end Journal

/-- The fault that something ended with. -/
def faultOf? {α : Type} : Except Fault α → Option Fault
  | .ok _ => none
  | .error f => some f

/-- A part of a generation: its steps, and its result or the fault that ended it. -/
structure Part (α : Type) where
  journal : List Step := []
  outcome : Except Fault α

namespace Part

variable {α β : Type}

def ofOutcome (outcome : Except Fault α) : Part α :=
  { outcome }

def after (journal : List Step) (x : Part α) : Part α :=
  { x with journal := journal ++ x.journal }

def bind (x : Part α) (next : α → Part β) : Part β :=
  match x.outcome with
  | .ok a => (next a).after x.journal
  | .error f => ⟨x.journal, .error f⟩

instance : Monad Part where
  pure a := ofOutcome (.ok a)
  bind := bind

instance : MonadLift (Except Fault) Part := ⟨ofOutcome⟩

def log (record : LogRecord) : Part Unit :=
  ⟨[.log record], .ok ()⟩

/-- Logs a warning. One without a text is passed over, unless the log is strict: then the fault of
its text is that of logging it. -/
def warn (strict : Bool) : Except Fault String → Part Unit
  | .ok text => log (.warning text)
  | .error f => ofOutcome (if strict then .error f else .ok ())

def ask (c : Call) (answer : Except Fault α) : Part α :=
  ⟨[.call c (faultOf? answer)], answer⟩

/-- Calls a collaborator that logs and gives this reply. -/
def askLogged (c : Call) (reply : Reply α) : Part α :=
  ⟨.call c (faultOf? reply.outcome) :: reply.logs.map .log, reply.outcome⟩

end Part

end CodeBehind
