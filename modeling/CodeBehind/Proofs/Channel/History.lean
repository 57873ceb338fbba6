import CodeBehind.Channel
import Mathlib.Data.List.Basic
import Mathlib.Data.List.Induction

/-!
The lists of a channel after a history of calls.

A call changes the list of its own stream, and there nothing but the listings of its own handler. So
whatever is told of some handlers on one stream comes from the calls about them
(`view_listed_afterAll`). The listings themselves keep their order, whatever other calls come
between (`filter_listed_afterAll`), and their number grows by one with each subscription and falls
by one, unless it is zero, with each cancellation (`count_listed_afterAll`).

Which listing a cancellation takes is told by the subscribe calls themselves. Each is kept as a
ticket, in order, and a cancellation marks the earliest ticket of its handler that is not marked
yet. What is listed are the tickets without a mark (`listed_ofChanges`). `ofChanges_reflects` puts
all this together.
-/

namespace CodeBehind.Channel

/-! ### Calls and histories -/

/-- A call that changes a list. -/
inductive Change where
  | subscribe (stream : Stream) (handler : String)
  | unsubscribe (stream : Stream) (handler : String)
deriving DecidableEq

namespace Change

def stream : Change → Stream
  | .subscribe stream _ => stream
  | .unsubscribe stream _ => stream

def handler : Change → String
  | .subscribe _ handler => handler
  | .unsubscribe _ handler => handler

def apply : Change → List String → List String
  | .subscribe _ handler, listed => listed ++ [handler]
  | .unsubscribe _ handler, listed => listed.erase handler

/-- What a call makes of the number of listings of its handler. -/
def recount : Change → Nat → Nat
  | .subscribe _ _, number => number + 1
  | .unsubscribe _ _, number => number - 1

end Change

def after (c : Channel) : Change → Channel
  | .subscribe stream handler => c.subscribe stream handler
  | .unsubscribe stream handler => c.unsubscribe stream handler

def afterAll (c : Channel) (changes : List Change) : Channel :=
  changes.foldl after c

/-- The channel after a history of calls, of which the first one found it empty. -/
def ofChanges (changes : List Change) : Channel :=
  afterAll {} changes

/-- The calls of a history that are made for one stream and about some handlers. -/
def about (stream : Stream) (keep : String → Bool) (changes : List Change) : List Change :=
  changes.filter fun change => decide (change.stream = stream) && keep change.handler

def madeFor (stream : Stream) (changes : List Change) : List Change :=
  about stream (fun _ => true) changes

/-- Two histories may be gone through at once or one after the other. -/
theorem afterAll_append (c : Channel) (changes others : List Change) :
    c.afterAll (changes ++ others) = (c.afterAll changes).afterAll others :=
  List.foldl_append

theorem afterAll_cons (c : Channel) (change : Change) (rest : List Change) :
    c.afterAll (change :: rest) = (c.after change).afterAll rest :=
  rfl

theorem ofChanges_concat (changes : List Change) (change : Change) :
    ofChanges (changes ++ [change]) = (ofChanges changes).after change :=
  afterAll_append {} changes [change]

/-- A call changes the list of its own stream and no other. -/
theorem listed_after (c : Channel) (change : Change) (stream : Stream) :
    (c.after change).listed stream =
      if change.stream = stream then change.apply (c.listed stream) else c.listed stream := by
  rcases change with ⟨own, handler⟩ | ⟨own, handler⟩ <;> cases own <;> cases stream <;> rfl

/-! ### Some handlers among others -/

/-- A call about one handler leaves the listings of the others in their order. -/
theorem filter_apply (change : Change) (keep : String → Bool) (listed : List String) :
    (change.apply listed).filter keep =
      if keep change.handler then change.apply (listed.filter keep) else listed.filter keep := by
  cases change with
  | subscribe stream handler =>
    cases kept : keep handler <;> simp [Change.apply, Change.handler, List.filter_append, kept]
  | unsubscribe stream handler =>
    rw [Change.apply, Change.apply, Change.handler, ← List.erase_filter]
    split
    · rfl
    · next dropped =>
      apply List.erase_of_not_mem
      rw [List.mem_filter]
      exact fun mem => dropped mem.2

/-- What only the calls about some handlers change comes from these calls on this stream, for
anything that is told of a list. -/
theorem view_listed_afterAll {γ : Type} (view : List String → γ) {step : γ → Change → γ}
    {keep : String → Bool}
    (view_apply : ∀ change listed, view (change.apply listed) =
      if keep change.handler then step (view listed) change else view listed)
    (c : Channel) (changes : List Change) (stream : Stream) :
    view ((c.afterAll changes).listed stream) =
      (about stream keep changes).foldl step (view (c.listed stream)) := by
  induction changes generalizing c with
  | nil => rfl
  | cons change rest ih =>
    rw [afterAll_cons, ih, listed_after, about, about, List.filter_cons]
    by_cases own : change.stream = stream
    · rw [if_pos own, view_apply]
      cases kept : keep change.handler <;> simp [own]
    · simp [own]

/-- What is listed of some handlers comes from the calls about them. -/
theorem filter_listed_afterAll (c : Channel) (changes : List Change) (stream : Stream)
    (keep : String → Bool) :
    ((c.afterAll changes).listed stream).filter keep =
      (about stream keep changes).foldl (fun listed change => change.apply listed)
        ((c.listed stream).filter keep) :=
  view_listed_afterAll (List.filter keep)
    (fun change listed => filter_apply change keep listed) c changes stream

/-- The list of a stream comes from the calls made for this stream, in order. -/
theorem listed_afterAll (c : Channel) (changes : List Change) (stream : Stream) :
    (c.afterAll changes).listed stream =
      (madeFor stream changes).foldl (fun listed change => change.apply listed)
        (c.listed stream) := by
  have whole := filter_listed_afterAll c changes stream fun _ => true
  rwa [List.filter_true, List.filter_true] at whole

theorem madeFor_about (stream : Stream) (keep : String → Bool) (changes : List Change) :
    madeFor stream (about stream keep changes) = about stream keep changes := by
  rw [madeFor, about, about, List.filter_filter]
  apply List.filter_congr
  intro change _
  cases decide (change.stream = stream) <;> simp

/-- The calls about some handlers on this stream list them as the whole history does. -/
theorem filter_listed_ofChanges (changes : List Change) (stream : Stream) (keep : String → Bool) :
    ((ofChanges changes).listed stream).filter keep =
      (ofChanges (about stream keep changes)).listed stream := by
  rw [ofChanges, ofChanges, filter_listed_afterAll, listed_afterAll, madeFor_about]
  cases stream <;> rfl

/-- A call changes the number of listings of its own handler and of no other. -/
theorem count_apply (change : Change) (listed : List String) (handler : String) :
    (change.apply listed).count handler =
      if change.handler = handler then change.recount (listed.count handler)
      else listed.count handler := by
  cases change with
  | subscribe stream own =>
    by_cases same : own = handler <;>
      simp [Change.apply, Change.recount, Change.handler, List.count_append, same]
  | unsubscribe stream own =>
    rw [Change.apply, Change.handler, Change.recount]
    split
    · next same =>
      rw [same]
      exact List.count_erase_self
    · next apart => exact List.count_erase_of_ne (Ne.symm apart)

/-- How often a handler is listed is counted by the calls about it. -/
theorem count_listed_afterAll (c : Channel) (changes : List Change) (stream : Stream)
    (handler : String) :
    ((c.afterAll changes).listed stream).count handler =
      (about stream (· = handler) changes).foldl (fun number change => change.recount number)
        ((c.listed stream).count handler) := by
  refine view_listed_afterAll (List.count handler) ?_ c changes stream
  intro change listed
  rw [count_apply]
  simp only [decide_eq_true_eq]

/-! ### Tickets -/

/-- A subscribe call, with the mark that it has once it is cancelled. -/
structure Ticket where
  handler : String
  cancelled : Bool
deriving DecidableEq

/-- Marks the earliest ticket of a handler that is not marked yet, if there is one. -/
def cancelFirst (handler : String) : List Ticket → List Ticket
  | [] => []
  | ticket :: rest =>
    if ticket.handler = handler ∧ ticket.cancelled = false then ⟨handler, true⟩ :: rest
    else ticket :: cancelFirst handler rest

/-- What a call makes of the tickets of its stream. -/
def Change.mark : Change → List Ticket → List Ticket
  | .subscribe _ handler, tickets => tickets ++ [⟨handler, false⟩]
  | .unsubscribe _ handler, tickets => cancelFirst handler tickets

def tickets (stream : Stream) (changes : List Change) : List Ticket :=
  (madeFor stream changes).foldl (fun tickets change => change.mark tickets) []

/-- The handlers of the tickets without a mark. -/
def standing (tickets : List Ticket) : List String :=
  (tickets.filter (!·.cancelled)).map (·.handler)

/-- The handlers of the subscribe calls of a history on one stream. -/
def subscribed (stream : Stream) (changes : List Change) : List String :=
  changes.filterMap fun
    | .subscribe own handler => if own = stream then some handler else none
    | .unsubscribe _ _ => none

/-- Marking a ticket does not change whose tickets there are. -/
theorem handlers_cancelFirst (handler : String) (tickets : List Ticket) :
    (cancelFirst handler tickets).map (·.handler) = tickets.map (·.handler) := by
  induction tickets with
  | nil => rfl
  | cons ticket rest ih =>
    rw [cancelFirst]
    split
    · next found => rw [List.map_cons, List.map_cons, found.1]
    · rw [List.map_cons, List.map_cons, ih]

/-- Marking a ticket takes out the first listing of its handler. -/
theorem standing_cancelFirst (handler : String) (tickets : List Ticket) :
    standing (cancelFirst handler tickets) = (standing tickets).erase handler := by
  induction tickets with
  | nil => rfl
  | cons ticket rest ih =>
    obtain ⟨own, cancelled⟩ := ticket
    rw [standing] at ih
    rw [cancelFirst]
    cases cancelled with
    | true => simp [standing, ih]
    | false =>
      by_cases same : own = handler
      · simp [standing, same]
      · simp [standing, same, ih]

/-- The tickets without a mark follow the list of the stream, call by call. -/
theorem standing_mark (change : Change) (tickets : List Ticket) :
    standing (change.mark tickets) = change.apply (standing tickets) := by
  cases change with
  | subscribe stream handler => simp [Change.mark, Change.apply, standing]
  | unsubscribe stream handler => exact standing_cancelFirst handler tickets

/-- What is listed are the subscribe calls that stand. -/
theorem listed_ofChanges (changes : List Change) (stream : Stream) :
    (ofChanges changes).listed stream = standing (tickets stream changes) := by
  have empty : ({} : Channel).listed stream = standing [] := by cases stream <;> rfl
  rw [ofChanges, listed_afterAll, empty, tickets]
  exact List.foldl_hom standing fun tickets change => (standing_mark change tickets).symm

theorem tickets_concat (stream : Stream) (changes : List Change) (change : Change) :
    tickets stream (changes ++ [change]) =
      if change.stream = stream then change.mark (tickets stream changes)
      else tickets stream changes := by
  rw [tickets, madeFor, about, List.filter_append, List.foldl_append]
  by_cases own : change.stream = stream <;> simp [own, tickets, madeFor, about]

/-- Every subscribe call has its ticket, in its place. -/
theorem handlers_tickets (changes : List Change) (stream : Stream) :
    (tickets stream changes).map (·.handler) = subscribed stream changes := by
  induction changes using List.reverseRecOn with
  | nil => rfl
  | append_singleton changes change ih =>
    rw [tickets_concat, subscribed, List.filterMap_append, ← subscribed, ← ih]
    cases change with
    | subscribe own handler =>
      by_cases same : own = stream <;> simp [Change.stream, Change.mark, same]
    | unsubscribe own handler =>
      by_cases same : own = stream <;> simp [Change.stream, Change.mark, same, handlers_cancelFirst]

/-! ### After any history -/

/-- The list of a stream is told by the calls that were made. -/
structure Reflects (changes : List Change) (stream : Stream) : Prop where
  /-- Calls for the other stream make no difference. -/
  own : ∀ others, madeFor stream others = madeFor stream changes →
    (ofChanges others).listed stream = (ofChanges changes).listed stream
  /-- A handler is listed as often as the calls about it say, whatever other calls come between. -/
  counts : ∀ handler, ((ofChanges changes).listed stream).count handler =
    (about stream (· = handler) changes).foldl (fun number change => change.recount number) 0
  /-- Every subscribe call has a ticket, in the order of the calls. -/
  ticketed : (tickets stream changes).map (·.handler) = subscribed stream changes
  /-- What is listed, in this order, are the calls whose tickets are not marked. -/
  stands : (ofChanges changes).listed stream = standing (tickets stream changes)
  /-- Some handlers are listed in the order in which they would be listed without the others. -/
  apart : ∀ keep, ((ofChanges changes).listed stream).filter keep =
    (ofChanges (about stream keep changes)).listed stream
  /-- In particular, cancelling a listing leaves the other handlers in their order. -/
  undisturbed : ∀ handler,
    (((ofChanges changes).unsubscribe stream handler).listed stream).filter (· ≠ handler) =
      ((ofChanges changes).listed stream).filter (· ≠ handler)

/-- After any history of calls, what is listed on a stream are the subscribe calls for it that were
not cancelled, where each cancellation takes the earliest one of its handler that is left. -/
theorem ofChanges_reflects (changes : List Change) (stream : Stream) : Reflects changes stream where
  own := by
    intro others same
    rw [ofChanges, ofChanges, listed_afterAll, listed_afterAll, same]
  counts := by
    intro handler
    rw [ofChanges, count_listed_afterAll]
    cases stream <;> rfl
  ticketed := handlers_tickets changes stream
  stands := listed_ofChanges changes stream
  apart := filter_listed_ofChanges changes stream
  undisturbed := by
    intro handler
    have removed := listed_after (ofChanges changes) (.unsubscribe stream handler) stream
    rw [Change.stream, if_pos rfl] at removed
    rw [← after, removed, filter_apply, if_neg (by simp [Change.handler])]

/-- Of two listings the earlier one is cancelled, and a cancellation too many is forgotten. -/
example : (ofChanges [.subscribe .other "a", .unsubscribe .other "b", .subscribe .other "b",
    .subscribe .other "a", .unsubscribe .other "a"]).listed .other = ["b", "a"] := by
  decide

end CodeBehind.Channel
