import CodeBehind.Diagnostic
import CodeBehind.Log

/-!
The diagnostics channel.

A channel keeps two lists of subscribed handlers, one for diagnostics and one for other faults, and
notifies them in the order in which they subscribed. A notice goes to the handlers that are listed
when it is emitted, whatever they do to the lists meanwhile. An ordinary fault of a handler is
logged and stays inside; an interrupting one leaves the emission.

What a handler does is a list of actions, so that subscribing, emitting in turn and failing are data
as well. Emissions may nest; `depth` bounds how deeply, and an emission beyond it is one more fault
of the handler that makes it.
-/

namespace CodeBehind

/-- The two streams of a channel. -/
inductive Stream where
  | generation
  | other
deriving DecidableEq, Repr

/-- What is emitted on a stream. -/
inductive Notice where
  | generation (diagnostic : Diagnostic)
  | other (fault : Fault)
deriving DecidableEq, Repr

def Notice.stream : Notice → Stream
  | .generation _ => .generation
  | .other _ => .other

/-- One thing that a handler does when it is called. -/
inductive Action where
  | subscribe (stream : Stream) (handler : String)
  | unsubscribe (stream : Stream) (handler : String)
  | emit (notice : Notice)
  | raise (fault : Fault)
deriving DecidableEq, Repr

/-- What each handler does with a notice. Handlers are known by their names. -/
abbrev Behaviour := String → Notice → List Action

/-- The handlers of both streams, in order of subscription. A handler is listed as often as it
subscribed. -/
structure Channel where
  generation : List String := []
  other : List String := []
deriving DecidableEq, Repr

namespace Channel

def listed (c : Channel) : Stream → List String
  | .generation => c.generation
  | .other => c.other

def modify (c : Channel) (stream : Stream) (f : List String → List String) : Channel :=
  match stream with
  | .generation => { c with generation := f c.generation }
  | .other => { c with other := f c.other }

/-- Lists a handler once more, at the end. -/
def subscribe (c : Channel) (stream : Stream) (handler : String) : Channel :=
  c.modify stream (· ++ [handler])

/-- Cancels the earliest listing of a handler, if there is one. -/
def unsubscribe (c : Channel) (stream : Stream) (handler : String) : Channel :=
  c.modify stream (·.erase handler)

/-! ### Emission -/

/-- What happens during an emission, in order. -/
inductive Occurrence where
  | called (handler : String) (notice : Notice)
  | logged (record : LogRecord)
deriving DecidableEq, Repr

/-- How an emission or a handler's call ends: it returns or a fault leaves it. -/
inductive Ending where
  | returned
  | raised (fault : Fault)
deriving DecidableEq, Repr

/-- An emission: the lists afterwards, what happened, and how it ended. -/
structure Emission where
  channel : Channel
  occurrences : List Occurrence
  ending : Ending
deriving DecidableEq, Repr

namespace Emission

def quiet (c : Channel) : Emission :=
  ⟨c, [], .returned⟩

/-- Goes on with `next` if the first part returned. -/
def andThen (first : Emission) (next : Channel → Emission) : Emission :=
  match first.ending with
  | .returned =>
    let second := next first.channel
    { second with occurrences := first.occurrences ++ second.occurrences }
  | .raised _ => first

def after (o : Occurrence) (e : Emission) : Emission :=
  { e with occurrences := o :: e.occurrences }

end Emission

def handlerFailed (handler : String) : LogRecord :=
  .error ("Diagnostics handler <handler " ++ handler ++ "> failed")

/-- Does the actions of a handler in order, up to the first that does not return. Nested emissions
are given by `emit`. -/
def perform (emit : Notice → Channel → Emission) : List Action → Channel → Emission
  | [], c => .quiet c
  | .subscribe stream handler :: rest, c => perform emit rest (c.subscribe stream handler)
  | .unsubscribe stream handler :: rest, c => perform emit rest (c.unsubscribe stream handler)
  | .emit notice :: rest, c => (emit notice c).andThen (perform emit rest)
  | .raise fault :: _, c => ⟨c, [], .raised fault⟩

/-- Keeps an ordinary fault of a handler inside and logs it. -/
def contain (handler : String) (e : Emission) : Emission :=
  match e.ending with
  | .raised fault =>
    if fault.isOrdinary then
      ⟨e.channel, e.occurrences ++ [.logged (handlerFailed handler)], .returned⟩
    else e
  | .returned => e

def call (emit : Notice → Channel → Emission) (behaviour : Behaviour) (notice : Notice)
    (handler : String) (c : Channel) : Emission :=
  (contain handler (perform emit (behaviour handler notice) c)).after (.called handler notice)

def callEach (emit : Notice → Channel → Emission) (behaviour : Behaviour) (notice : Notice) :
    List String → Channel → Emission
  | [], c => .quiet c
  | handler :: rest, c =>
    (call emit behaviour notice handler c).andThen (callEach emit behaviour notice rest)

/-- The fault of an emission that nests too deeply. -/
def nestedTooDeeply : Fault :=
  .tooDeep ""

/-- Emits a notice to the handlers listed now. Emissions made by handlers may nest `depth` times. -/
def emit (behaviour : Behaviour) : Nat → Notice → Channel → Emission
  | 0, notice, c =>
    callEach (fun _ c => ⟨c, [], .raised nestedTooDeeply⟩) behaviour notice
      (c.listed notice.stream) c
  | depth + 1, notice, c =>
    callEach (emit behaviour depth) behaviour notice (c.listed notice.stream) c

/-- How deeply emissions may nest where nothing else is said. -/
def usualDepth : Nat := 100

end Channel

end CodeBehind
