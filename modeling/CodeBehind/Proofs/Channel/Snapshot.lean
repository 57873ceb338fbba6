import CodeBehind.Proofs.Channel.Containment
import CodeBehind.Proofs.Channel.History

/-!
Emission as handlers see it.

The rules of an emission say what each call comes to: a handler's actions are done in order
(`Performs`), the handlers are called one after the other (`Makes`), and those that are called are
the ones listed when the emission begins (`Emits`). What a handler changes in the lists is seen by
the emissions that begin later, and by no emission under way.

The rules have exactly one outcome, which is what `emit` does (`exists_emits`, `emit_of_emits`). How
far an emission gets in its list is decided by the faults that leave its own calls
(`Makes.reaches`). Where no nested emission is refused, the bound on nesting plays no part
(`Emits.deeper`). `emit_unfolds` puts this together.
-/

namespace CodeBehind.Channel

/-! ### What happens -/

/-- One thing that happens during an emission, what handlers do to the lists included. -/
inductive Event where
  | called (handler : String) (notice : Notice)
  | logged (record : LogRecord)
  | changed (change : Change)
  /-- An emission that would nest too deeply. -/
  | refused (notice : Notice)
deriving DecidableEq

namespace Event

def occurrence? : Event → Option Occurrence
  | .called handler notice => some (.called handler notice)
  | .logged record => some (.logged record)
  | .changed _ => none
  | .refused _ => none

/-- What an event does to the lists. -/
def change? : Event → Option Change
  | .changed change => some change
  | .called _ _ => none
  | .logged _ => none
  | .refused _ => none

end Event

def occurrencesOf (events : List Event) : List Occurrence :=
  events.filterMap Event.occurrence?

def changesOf (events : List Event) : List Change :=
  events.filterMap Event.change?

/-- A call that an emission makes itself: the handler, what happens while it acts, nested emissions
included, and how it ends. -/
structure Call where
  handler : String
  events : List Event
  ending : Ending
deriving DecidableEq

/-- A call that ends with an ordinary fault is followed by one record. -/
def Call.record (call : Call) : List Event :=
  match call.ending with
  | .raised f => if f.isOrdinary then [.logged (handlerFailed call.handler)] else []
  | .returned => []

def Call.journal (notice : Notice) (call : Call) : List Event :=
  .called call.handler notice :: (call.events ++ call.record)

/-- All that happens in the calls of an emission. -/
def journal (notice : Notice) (calls : List Call) : List Event :=
  calls.flatMap (Call.journal notice)

theorem changesOf_append (events more : List Event) :
    changesOf (events ++ more) = changesOf events ++ changesOf more :=
  List.filterMap_append

theorem occurrencesOf_append (events more : List Event) :
    occurrencesOf (events ++ more) = occurrencesOf events ++ occurrencesOf more :=
  List.filterMap_append

theorem changesOf_record (call : Call) : changesOf call.record = [] := by
  rw [Call.record]
  split
  · split <;> rfl
  · rfl

/-- Neither the call itself nor the record about it changes the lists. -/
theorem changesOf_call (notice : Notice) (call : Call) :
    changesOf (call.journal notice) = changesOf call.events := by
  have step : changesOf (call.journal notice) = changesOf (call.events ++ call.record) := rfl
  rw [step, changesOf_append, changesOf_record, List.append_nil]

theorem occurrencesOf_call (notice : Notice) (call : Call) :
    occurrencesOf (call.journal notice) =
      .called call.handler notice :: (occurrencesOf call.events ++ occurrencesOf call.record) := by
  rw [← occurrencesOf_append]
  rfl

theorem journal_cons (notice : Notice) (call : Call) (rest : List Call) :
    journal notice (call :: rest) = call.journal notice ++ journal notice rest :=
  List.flatMap_cons

/-! ### The rules -/

/-- What an emission comes to: for a notice and given lists, what happens and how it ends. -/
abbrev Nesting := Notice → Channel → List Event → Ending → Prop

/-- A handler does its actions in order, up to the first that does not return. -/
inductive Performs (nested : Nesting) : List Action → Channel → List Event → Ending → Prop where
  | done {c : Channel} : Performs nested [] c [] .returned
  | subscribe {stream : Stream} {handler : String} {rest : List Action} {c : Channel}
    {events : List Event} {ending : Ending}
    (more : Performs nested rest (c.subscribe stream handler) events ending) :
    Performs nested (.subscribe stream handler :: rest) c
      (.changed (.subscribe stream handler) :: events) ending
  | unsubscribe {stream : Stream} {handler : String} {rest : List Action} {c : Channel}
    {events : List Event} {ending : Ending}
    (more : Performs nested rest (c.unsubscribe stream handler) events ending) :
    Performs nested (.unsubscribe stream handler :: rest) c
      (.changed (.unsubscribe stream handler) :: events) ending
  | emit {notice : Notice} {rest : List Action} {c : Channel} {inner events : List Event}
    {ending : Ending} (made : nested notice c inner .returned)
    (more : Performs nested rest (c.afterAll (changesOf inner)) events ending) :
    Performs nested (.emit notice :: rest) c (inner ++ events) ending
  | emitRaised {notice : Notice} {rest : List Action} {c : Channel} {inner : List Event}
    {f : Fault} (made : nested notice c inner (.raised f)) :
    Performs nested (.emit notice :: rest) c inner (.raised f)
  | raise {f : Fault} {rest : List Action} {c : Channel} :
    Performs nested (.raise f :: rest) c [] (.raised f)

/-- Handlers are called in order, up to the first one that lets an interrupting fault out. -/
inductive Makes (nested : Nesting) (behaviour : Behaviour) (notice : Notice) :
    List String → Channel → List Call → Ending → Prop where
  | done {c : Channel} : Makes nested behaviour notice [] c [] .returned
  | next {handler : String} {rest : List String} {c : Channel} {events : List Event}
    {ending final : Ending} {calls : List Call}
    (acts : Performs nested (behaviour handler notice) c events ending)
    (contained : ending.IsOrdinary)
    (more : Makes nested behaviour notice rest (c.afterAll (changesOf events)) calls final) :
    Makes nested behaviour notice (handler :: rest) c (⟨handler, events, ending⟩ :: calls) final
  | interrupted {handler : String} {rest : List String} {c : Channel} {events : List Event}
    {f : Fault} (acts : Performs nested (behaviour handler notice) c events (.raised f))
    (interrupting : f.isOrdinary = false) :
    Makes nested behaviour notice (handler :: rest) c [⟨handler, events, .raised f⟩] (.raised f)

/-- What emissions do that would nest too deeply. -/
def refusing : Nesting := fun notice _ events ending =>
  events = [.refused notice] ∧ ending = .raised nestedTooDeeply

/-- An emission calls the handlers that are listed when it begins. -/
def Emits (behaviour : Behaviour) : Nat → Notice → Channel → List Call → Ending → Prop
  | 0, notice, c => Makes refusing behaviour notice (c.listed notice.stream) c
  | depth + 1, notice, c =>
    Makes
      (fun notice c events ending =>
        ∃ calls, Emits behaviour depth notice c calls ending ∧ events = journal notice calls)
      behaviour notice (c.listed notice.stream) c

/-! ### The rules have an outcome -/

section Outcome

variable {nested : Nesting} (total : ∀ notice c, ∃ events ending, nested notice c events ending)
include total

/-- What a handler does follows the rules in some way. -/
theorem exists_performs (actions : List Action) (c : Channel) :
    ∃ events ending, Performs nested actions c events ending := by
  induction actions generalizing c with
  | nil => exact ⟨_, _, .done⟩
  | cons action rest ih =>
    cases action with
    | subscribe stream handler =>
      obtain ⟨events, ending, more⟩ := ih (c.subscribe stream handler)
      exact ⟨_, _, .subscribe more⟩
    | unsubscribe stream handler =>
      obtain ⟨events, ending, more⟩ := ih (c.unsubscribe stream handler)
      exact ⟨_, _, .unsubscribe more⟩
    | emit notice =>
      obtain ⟨inner, innerEnding, made⟩ := total notice c
      cases innerEnding with
      | returned =>
        obtain ⟨events, ending, more⟩ := ih (c.afterAll (changesOf inner))
        exact ⟨_, _, .emit made more⟩
      | raised f => exact ⟨_, _, .emitRaised made⟩
    | raise f => exact ⟨_, _, .raise⟩

/-- The calls of handlers follow the rules in some way. -/
theorem exists_makes (behaviour : Behaviour) (notice : Notice) (handlers : List String)
    (c : Channel) : ∃ calls ending, Makes nested behaviour notice handlers c calls ending := by
  induction handlers generalizing c with
  | nil => exact ⟨_, _, .done⟩
  | cons handler rest ih =>
    obtain ⟨events, ending, acts⟩ := exists_performs total (behaviour handler notice) c
    obtain ⟨calls, final, more⟩ := ih (c.afterAll (changesOf events))
    cases ending with
    | returned => exact ⟨_, _, .next acts trivial more⟩
    | raised f =>
      cases ordinary : f.isOrdinary with
      | true => exact ⟨_, _, .next acts ordinary more⟩
      | false => exact ⟨_, _, .interrupted acts ordinary⟩

end Outcome

/-- Every emission follows the rules in some way. -/
theorem exists_emits (behaviour : Behaviour) (depth : Nat) (notice : Notice) (c : Channel) :
    ∃ calls ending, Emits behaviour depth notice c calls ending := by
  induction depth generalizing notice c with
  | zero => exact exists_makes (fun notice _ => ⟨_, _, rfl, rfl⟩) behaviour notice _ c
  | succ depth ih =>
    refine exists_makes ?_ behaviour notice _ c
    intro notice c
    obtain ⟨calls, ending, emits⟩ := ih notice c
    exact ⟨_, _, calls, emits, rfl⟩

/-! ### It is what an emission does -/

/-- An emission by what happens in it. -/
def Emission.ofEvents (c : Channel) (events : List Event) (ending : Ending) : Emission :=
  ⟨c.afterAll (changesOf events), occurrencesOf events, ending⟩

theorem ofEvents_andThen {c : Channel} {inner events : List Event} {ending : Ending}
    {next : Channel → Emission}
    (more : next (c.afterAll (changesOf inner)) =
      .ofEvents (c.afterAll (changesOf inner)) events ending) :
    (Emission.ofEvents c inner .returned).andThen next = .ofEvents c (inner ++ events) ending := by
  have step : (Emission.ofEvents c inner .returned).andThen next =
      { next (c.afterAll (changesOf inner)) with
        occurrences := occurrencesOf inner ++
          (next (c.afterAll (changesOf inner))).occurrences } := rfl
  rw [step, more, Emission.ofEvents, Emission.ofEvents, changesOf_append, occurrencesOf_append,
    afterAll_append]

section Sound

variable {nested : Nesting} {emit : Notice → Channel → Emission}
  (sound : ∀ {notice c events ending}, nested notice c events ending →
    emit notice c = .ofEvents c events ending)
include sound

/-- What follows the rules for a handler is what the handler does. -/
theorem perform_of_performs {actions : List Action} {c : Channel} {events : List Event}
    {ending : Ending} (acts : Performs nested actions c events ending) :
    perform emit actions c = .ofEvents c events ending := by
  induction acts with
  | done => rfl
  | subscribe _ ih | unsubscribe _ ih =>
    rw [perform, ih]
    rfl
  | emit made _ ih =>
    rw [perform, sound made]
    exact ofEvents_andThen ih
  | emitRaised made =>
    rw [perform, sound made]
    rfl
  | raise => rfl

/-- A call that ends with an ordinary fault returns to the emission, with a record about it. -/
theorem call_of_contained {behaviour : Behaviour} {notice : Notice} {handler : String} {c : Channel}
    {events : List Event} {ending : Ending}
    (acts : Performs nested (behaviour handler notice) c events ending)
    (contained : ending.IsOrdinary) :
    call emit behaviour notice handler c =
      .ofEvents c (Call.journal notice ⟨handler, events, ending⟩) .returned := by
  rw [call, perform_of_performs sound acts, Emission.ofEvents, Emission.ofEvents, changesOf_call,
    occurrencesOf_call]
  cases ending with
  | returned => simp [contain, Emission.after, Call.record, occurrencesOf]
  | raised f =>
    have ordinary : f.isOrdinary = true := contained
    simp [contain, Emission.after, Call.record, occurrencesOf, Event.occurrence?, ordinary]

/-- A fault that interrupts the program leaves the call of a handler at once. -/
theorem call_of_interrupted {behaviour : Behaviour} {notice : Notice} {handler : String}
    {c : Channel} {events : List Event} {f : Fault}
    (acts : Performs nested (behaviour handler notice) c events (.raised f))
    (interrupting : f.isOrdinary = false) :
    call emit behaviour notice handler c =
      .ofEvents c (Call.journal notice ⟨handler, events, .raised f⟩) (.raised f) := by
  rw [call, perform_of_performs sound acts, Emission.ofEvents, Emission.ofEvents, changesOf_call,
    occurrencesOf_call]
  simp [contain, Emission.after, Call.record, occurrencesOf, interrupting]

/-- What follows the rules for the calls of handlers is what calling them comes to. -/
theorem callEach_of_makes {behaviour : Behaviour} {notice : Notice} {handlers : List String}
    {c : Channel} {calls : List Call} {ending : Ending}
    (makes : Makes nested behaviour notice handlers c calls ending) :
    callEach emit behaviour notice handlers c = .ofEvents c (journal notice calls) ending := by
  induction makes with
  | done => rfl
  | next acts contained _ ih =>
    rw [callEach, call_of_contained sound acts contained, journal_cons]
    apply ofEvents_andThen
    rw [changesOf_call]
    exact ih
  | interrupted acts interrupting =>
    rw [callEach, call_of_interrupted sound acts interrupting, journal_cons]
    exact congrArg (Emission.ofEvents _ · _) (List.append_nil _).symm

end Sound

/-- What follows the rules for an emission is the emission. -/
theorem emit_of_emits {behaviour : Behaviour} {depth : Nat} {notice : Notice} {c : Channel}
    {calls : List Call} {ending : Ending} (emits : Emits behaviour depth notice c calls ending) :
    emit behaviour depth notice c = .ofEvents c (journal notice calls) ending := by
  induction depth generalizing notice c calls ending with
  | zero =>
    refine callEach_of_makes ?_ emits
    rintro notice c _ _ ⟨rfl, rfl⟩
    rfl
  | succ depth ih =>
    refine callEach_of_makes ?_ emits
    rintro notice c _ ending ⟨calls, inner, rfl⟩
    exact ih inner

/-! ### How far an emission gets -/

/-- How far an emission gets in the list it begins with: to the end, or to the first handler that
lets an interrupting fault out. -/
inductive Reaches (listed : List String) (calls : List Call) : Ending → Prop where
  | all (called : calls.map (·.handler) = listed)
    (contained : ∀ call ∈ calls, call.ending.IsOrdinary) : Reaches listed calls .returned
  | part {front : List Call} {last : Call} {unheard : List String} {f : Fault}
    (calls_eq : calls = front ++ [last])
    (called : listed = calls.map (·.handler) ++ unheard)
    (contained : ∀ call ∈ front, call.ending.IsOrdinary) (interrupting : f.isOrdinary = false)
    (raised : last.ending = .raised f) : Reaches listed calls (.raised f)

/-- The handlers are called in order, and all of them where nothing interrupts. -/
theorem Makes.reaches {nested : Nesting} {behaviour : Behaviour} {notice : Notice}
    {handlers : List String} {c : Channel} {calls : List Call} {ending : Ending}
    (makes : Makes nested behaviour notice handlers c calls ending) :
    Reaches handlers calls ending := by
  induction makes with
  | done => exact .all rfl (by simp)
  | @next handler rest c events ending final calls acts inside more ih =>
    cases ih with
    | all called contained =>
      exact .all (congrArg (handler :: ·) called) (List.forall_mem_cons.mpr ⟨inside, contained⟩)
    | part calls_eq called contained interrupting raised =>
      exact .part (congrArg (_ :: ·) calls_eq) (congrArg (handler :: ·) called)
        (List.forall_mem_cons.mpr ⟨inside, contained⟩) interrupting raised
  | interrupted acts interrupting =>
    exact .part (List.nil_append _).symm rfl (by simp) interrupting rfl

/-- The handlers listed at the beginning are called in order, and all of them where nothing
interrupts. -/
theorem Emits.reaches {behaviour : Behaviour} {depth : Nat} {notice : Notice} {c : Channel}
    {calls : List Call} {ending : Ending} (emits : Emits behaviour depth notice c calls ending) :
    Reaches (c.listed notice.stream) calls ending := by
  cases depth <;> exact Makes.reaches emits

/-! ### The bound on nesting -/

/-- No emission among the events was refused. -/
def Unrefused (events : List Event) : Prop :=
  ∀ notice, Event.refused notice ∉ events

theorem Unrefused.left {events more : List Event} (h : Unrefused (events ++ more)) :
    Unrefused events :=
  fun notice mem => h notice (List.mem_append_left _ mem)

theorem Unrefused.right {events more : List Event} (h : Unrefused (events ++ more)) :
    Unrefused more :=
  fun notice mem => h notice (List.mem_append_right _ mem)

theorem Unrefused.tail {event : Event} {events : List Event} (h : Unrefused (event :: events)) :
    Unrefused events :=
  fun notice mem => h notice (List.mem_cons_of_mem _ mem)

theorem Unrefused.events {notice : Notice} {call : Call} (h : Unrefused (call.journal notice)) :
    Unrefused call.events :=
  h.tail.left

section Deeper

variable {nested roomier : Nesting}
  (goes : ∀ {notice c events ending}, nested notice c events ending → Unrefused events →
    roomier notice c events ending)
include goes

/-- Where no emission was refused, more room for nesting changes nothing in what a handler does. -/
theorem Performs.of_unrefused {actions : List Action} {c : Channel} {events : List Event}
    {ending : Ending} (acts : Performs nested actions c events ending)
    (unrefused : Unrefused events) : Performs roomier actions c events ending := by
  induction acts with
  | done => exact .done
  | subscribe _ ih => exact .subscribe (ih unrefused.tail)
  | unsubscribe _ ih => exact .unsubscribe (ih unrefused.tail)
  | emit made _ ih => exact .emit (goes made unrefused.left) (ih unrefused.right)
  | emitRaised made => exact .emitRaised (goes made unrefused)
  | raise => exact .raise

/-- Where no emission was refused, more room for nesting changes nothing in the calls. -/
theorem Makes.of_unrefused {behaviour : Behaviour} {notice : Notice} {handlers : List String}
    {c : Channel} {calls : List Call} {ending : Ending}
    (makes : Makes nested behaviour notice handlers c calls ending)
    (unrefused : Unrefused (journal notice calls)) :
    Makes roomier behaviour notice handlers c calls ending := by
  induction makes with
  | done => exact .done
  | next acts contained _ ih =>
    rw [journal_cons] at unrefused
    exact .next (acts.of_unrefused goes unrefused.left.events) contained (ih unrefused.right)
  | interrupted acts interrupting =>
    rw [journal_cons] at unrefused
    exact .interrupted (acts.of_unrefused goes unrefused.left.events) interrupting

end Deeper

/-- An emission in which no other one is refused goes the same way with more room for nesting. -/
theorem Emits.deeper {behaviour : Behaviour} {depth : Nat} {notice : Notice} {c : Channel}
    {calls : List Call} {ending : Ending} (emits : Emits behaviour depth notice c calls ending)
    (unrefused : Unrefused (journal notice calls)) :
    Emits behaviour (depth + 1) notice c calls ending := by
  induction depth generalizing notice c calls ending with
  | zero =>
    refine Makes.of_unrefused ?_ emits unrefused
    rintro notice c _ _ ⟨rfl, rfl⟩ refused
    exact absurd (List.mem_singleton_self _) (refused notice)
  | succ depth ih =>
    refine Makes.of_unrefused ?_ emits unrefused
    rintro notice c _ ending ⟨calls, inner, rfl⟩ refused
    exact ⟨calls, ih inner refused, rfl⟩

/-! ### Emissions -/

/-- An emission by the calls that it makes itself. -/
structure Unfolds (behaviour : Behaviour) (depth : Nat) (notice : Notice) (c : Channel)
    (calls : List Call) (e : Emission) : Prop where
  /-- The calls are made by the rules, and so are those of nested emissions. -/
  rules : Emits behaviour depth notice c calls e.ending
  /-- They are the calls of the handlers that are listed when the emission begins, in order and as
  often as these are listed. -/
  reaches : Reaches (c.listed notice.stream) calls e.ending
  /-- What is told are the calls with this notice, each followed by what happens in it and by one
  record if an ordinary fault leaves it. -/
  told : e.occurrences = calls.flatMap fun call =>
    .called call.handler notice :: (occurrencesOf call.events ++ occurrencesOf call.record)
  /-- The lists change by what handlers subscribe and unsubscribe, in the order in which they do. -/
  lists : e.channel = c.afterAll (calls.flatMap fun call => changesOf call.events)
  /-- Where handlers raise ordinary faults only, the emission returns. -/
  returns : behaviour.IsOrdinary → e.ending = .returned
  /-- Where no nested emission is refused, there may as well be more room for nesting. -/
  unbounded : Unrefused (journal notice calls) →
    ∀ more, Channel.emit behaviour (depth + more) notice c = e

theorem occurrencesOf_journal (notice : Notice) (calls : List Call) :
    occurrencesOf (journal notice calls) = calls.flatMap fun call =>
      .called call.handler notice :: (occurrencesOf call.events ++ occurrencesOf call.record) := by
  induction calls with
  | nil => rfl
  | cons call rest ih =>
    rw [journal_cons, occurrencesOf_append, occurrencesOf_call, ih, List.flatMap_cons]

/-- The lists are changed by what handlers do and by nothing else. -/
theorem changesOf_journal (notice : Notice) (calls : List Call) :
    changesOf (journal notice calls) = calls.flatMap fun call => changesOf call.events := by
  induction calls with
  | nil => rfl
  | cons call rest ih =>
    rw [journal_cons, changesOf_append, changesOf_call, ih, List.flatMap_cons]

/-- Whatever handlers do, an emission calls those that are listed when it begins, in order and once
for each listing, up to the first that lets an interrupting fault out. -/
theorem emit_unfolds (behaviour : Behaviour) (depth : Nat) (notice : Notice) (c : Channel) :
    ∃ calls, Unfolds behaviour depth notice c calls (emit behaviour depth notice c) := by
  obtain ⟨calls, ending, emits⟩ := exists_emits behaviour depth notice c
  have emit_eq := emit_of_emits emits
  have ending_eq : (emit behaviour depth notice c).ending = ending := by rw [emit_eq]; rfl
  refine ⟨calls, ?_, ?_, ?_, ?_, fun h => emit_returned h depth notice c, ?_⟩
  · rwa [ending_eq]
  · rw [ending_eq]
    exact emits.reaches
  · rw [emit_eq, ← occurrencesOf_journal]
    rfl
  · rw [emit_eq, ← changesOf_journal notice]
    rfl
  · intro unrefused more
    have roomier : Emits behaviour (depth + more) notice c calls ending := by
      induction more with
      | zero => exact emits
      | succ more ih => exact ih.deeper unrefused
    rw [emit_of_emits roomier, emit_eq]

/-- A handler that cancels the next one and lists another is followed by the next one all the
same. -/
example :
    let torn : Fault := .builtin "ValueError" "torn"
    let behaviour : Behaviour := fun handler _ =>
      if handler = "a" then
        [.unsubscribe .other "b", .subscribe .other "c", .raise torn]
      else []
    emit behaviour usualDepth (.other torn) ⟨[], ["a", "b"]⟩ =
      ⟨⟨[], ["a", "c"]⟩, [.called "a" (.other torn), .logged (handlerFailed "a"),
        .called "b" (.other torn)], .returned⟩ := by
  decide

end CodeBehind.Channel
