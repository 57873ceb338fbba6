import CodeBehind.Proofs.Generation.Outcome

/-!
Isolation of a generation from its audience.

An audience are the handlers subscribed and what they do. Where those of two audiences keep to
themselves, a request runs alike in front of both (`Run.Alike`): it ends in the same way, makes the
same calls and writes the same contents. A handler that both audiences list equally often gets the
same notices from both runs (`runBefore_unaffected`).

No assumption is made about the collaborators, whose faults may interrupt the program.
-/

namespace CodeBehind

/-- Handlers subscribed to a channel, with what they do. -/
structure Audience where
  channel : Channel
  behaviour : Behaviour

/-- Two runs end in the same way, and a view sees the same of both. -/
structure Run.Alike {β : Type} (view : Step → Option β) (r s : Run) : Prop where
  outcome : r.outcome = s.outcome
  seen : r.journal.filterMap view = s.journal.filterMap view

/-- Runs that are alike stay so behind the same steps. -/
theorem Run.Alike.after {β : Type} {view : Step → Option β} {r s : Run} (h : r.Alike view s)
    (steps : List Step) : (r.after steps).Alike view (s.after steps) where
  outcome := h.outcome
  seen := by rw [Run.after, Run.after, List.filterMap_append, List.filterMap_append, h.seen]

namespace ProjectSetup

variable (p : ProjectSetup) (q : Request)

/-- The project with handlers that do what those of the audience do. -/
def addressing (a : Audience) : ProjectSetup :=
  { p with behaviour := a.behaviour }

/-- A generation in front of an audience. -/
def runBefore (a : Audience) : Run :=
  (p.addressing a).run a.channel q

section Alike

variable {p} {a b : Audience} {β : Type} {view : Step → Option β}
  (ha : a.behaviour.IsPassive) (hb : b.behaviour.IsPassive)
  (told : ∀ notices, ((p.addressing a).announce notices a.channel).journal.filterMap view =
    ((p.addressing b).announce notices b.channel).journal.filterMap view)
include ha hb told

/-- Giving up is alike in front of two audiences. -/
theorem giveUp_alike (trouble : String) (f : Fault) :
    ((p.addressing a).giveUp a.channel trouble f).Alike view
      ((p.addressing b).giveUp b.channel trouble f) := by
  cases ordinary : f.isOrdinary with
  | false =>
    rw [giveUp, giveUp, ordinary]
    exact ⟨rfl, rfl⟩
  | true =>
    have returned_a := announce_returned (p := p.addressing a) ha.isOrdinary [.other f] a.channel
    have returned_b := announce_returned (p := p.addressing b) hb.isOrdinary [.other f] b.channel
    rw [giveUp, giveUp, ordinary]
    constructor
    · simp only [if_true, returned_a, returned_b]
    · simp only [if_true, List.filterMap_cons, told]

/-- Going on is alike in front of two audiences, if what follows is. -/
theorem proceed_alike {α : Type} (trouble : String) (part : Part α) {next next' : α → Run}
    (h : ∀ x, part.outcome = .ok x → (next x).Alike view (next' x)) :
    ((p.addressing a).proceed a.channel trouble part next).Alike view
      ((p.addressing b).proceed b.channel trouble part next') := by
  cases outcome : part.outcome with
  | ok x =>
    rw [proceed_of_ok outcome, proceed_of_ok outcome]
    exact (h x outcome).after _
  | error f =>
    rw [proceed_of_error outcome, proceed_of_error outcome]
    exact (giveUp_alike ha hb told trouble f).after _

/-- Publishing is alike in front of two audiences. -/
theorem publish_alike (t : Target) (content : Content) :
    ((p.addressing a).publish q t a.channel content).Alike view
      ((p.addressing b).publish q t b.channel content) := by
  have delivered : ((p.addressing a).deliver q t a.channel content.text).Alike view
      ((p.addressing b).deliver q t b.channel content.text) :=
    proceed_alike ha hb told _ _ fun _ _ => ⟨rfl, rfl⟩
  have passive_a := announce_passive (p := p.addressing a) ha
    (content.diagnostics.map .generation) a.channel
  have passive_b := announce_passive (p := p.addressing b) hb
    (content.diagnostics.map .generation) b.channel
  have seen := told (content.diagnostics.map .generation)
  rw [publish, publish]
  rw [passive_a, passive_b] at seen ⊢
  constructor
  · exact delivered.outcome
  · rw [Run.after, Run.after, List.filterMap_append, List.filterMap_append, seen, delivered.seen]

/-- Whole runs are alike in front of two audiences. -/
theorem run_alike : (p.runBefore q a).Alike view (p.runBefore q b) := by
  refine Run.Alike.after ?_ _
  apply proceed_alike ha hb told
  intro prepared _
  cases prepared with
  | written path => exact ⟨rfl, rfl⟩
  | ready t =>
    apply proceed_alike ha hb told
    intro source _
    apply proceed_alike ha hb told
    intro content _
    exact publish_alike q ha hb told t content

end Alike

section Unaffected

variable {a b : Audience} (ha : a.behaviour.IsPassive) (hb : b.behaviour.IsPassive)
include ha hb

/-- A view that sees nothing of handlers and of the log sees the same in front of both. -/
theorem run_alike_of_blind {β : Type} {view : Step → Option β}
    (blind : ∀ s, s.IsAside → view s = none) : (p.runBefore q a).Alike view (p.runBefore q b) := by
  apply run_alike q ha hb
  intro notices
  have seen_a := ((p.addressing a).announce_filterMap blind notices a.channel).2
    (announce_returned (p := p.addressing a) ha.isOrdinary notices a.channel)
  have seen_b := ((p.addressing b).announce_filterMap blind notices b.channel).2
    (announce_returned (p := p.addressing b) hb.isOrdinary notices b.channel)
  exact seen_a.trans seen_b.symm

/-- Audiences that keep to themselves have no influence on a generation, and a handler does not
notice which other handlers there are. -/
theorem runBefore_unaffected :
    (p.runBefore q a).outcome = (p.runBefore q b).outcome ∧
      Journal.calls (p.runBefore q a).journal = Journal.calls (p.runBefore q b).journal ∧
      Journal.writes (p.runBefore q a).journal = Journal.writes (p.runBefore q b).journal ∧
      ∀ handler, (∀ stream, (a.channel.listed stream).count handler =
          (b.channel.listed stream).count handler) →
        Journal.noticesOf handler (p.runBefore q a).journal =
          Journal.noticesOf handler (p.runBefore q b).journal := by
  refine ⟨?_, ?_, ?_, ?_⟩
  · exact (p.run_alike_of_blind q ha hb fun _ hs => hs.move?_eq_none).outcome
  · refine (p.run_alike_of_blind q ha hb ?_).seen
    rintro s (_ | _) <;> rfl
  · refine (p.run_alike_of_blind q ha hb ?_).seen
    rintro s (_ | _) <;> rfl
  · intro handler listed
    refine (run_alike q ha hb fun notices => ?_).seen
    have got_a := noticesOf_announce (p := p.addressing a) ha handler notices a.channel
    have got_b := noticesOf_announce (p := p.addressing b) hb handler notices b.channel
    simp only [listed] at got_a
    exact got_a.trans got_b.symm

end Unaffected

/-! ### A handler among others that fail -/

def alone : Audience where
  channel := ⟨["ears"], ["ears"]⟩
  behaviour := fun _ _ => []

def crowd : Audience where
  channel := ⟨["loud", "ears", "loud"], ["ears", "loud"]⟩
  behaviour := fun handler _ => if handler = "loud" then [.raise speechless] else []

/-- A handler among others that fail gets the notices that it gets alone. -/
theorem noticesOf_crowd :
    alone.behaviour.IsPassive ∧ crowd.behaviour.IsPassive ∧
      Journal.noticesOf "ears" (unheard.runBefore unwritable crowd).journal =
        [.generation (.ofFault speechless), .other speechless] := by
  have passive_alone : alone.behaviour.IsPassive := by
    intro handler notice action mem
    cases mem
  have passive_crowd : crowd.behaviour.IsPassive := by
    intro handler notice action mem
    change action ∈ (if handler = "loud" then [.raise speechless] else []) at mem
    split at mem
    · exact ⟨speechless, List.mem_singleton.mp mem, rfl⟩
    · cases mem
  refine ⟨passive_alone, passive_crowd, ?_⟩
  obtain ⟨-, -, -, same⟩ :=
    unheard.runBefore_unaffected unwritable passive_alone passive_crowd
  rw [← same "ears" (by rintro (_ | _) <;> rfl)]
  rfl

end ProjectSetup

end CodeBehind
