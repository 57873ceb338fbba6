import CodeBehind.Proofs.Channel.Delivery
import CodeBehind.Proofs.Generation.Journal

/-!
Announcements.

Notices are announced one after the other. Where handlers raise ordinary faults only, all of them
are (`announce_returned`), and each reaches every handler that is listed when its turn comes, before
the next one is emitted (`announce_announced`). Handlers that keep to themselves leave the channel
as it is (`announce_passive`) and get every notice of their streams as often as they are listed
there (`noticesOf_announce`).
-/

namespace CodeBehind

open Channel (Occurrence)

/-- The steps announce the diagnostics to the handlers of a channel: each diagnostic is emitted, and
every handler listed then gets it, in order, before the next one is emitted. What handlers do to the
lists counts from the next diagnostic on. -/
inductive Announced (behaviour : Behaviour) (depth : Nat) :
    Channel → List Diagnostic → List Step → Prop where
  | nil (c : Channel) : Announced behaviour depth c [] []
  | cons {c : Channel} {d : Diagnostic} {e : Channel.Emission} {rest : List Diagnostic}
      {steps : List Step}
      (emitted : Channel.emit behaviour depth (.generation d) c = e)
      (delivered : (c.generation.map (Occurrence.called · (.generation d))).Sublist e.occurrences)
      (later : Announced behaviour depth e.channel rest steps) :
      Announced behaviour depth c (d :: rest) (Step.ofEmission (.generation d) e ++ steps)

namespace ProjectSetup

variable {p : ProjectSetup}

/-! ### Handlers that raise ordinary faults -/

section Ordinary

variable (h : p.behaviour.IsOrdinary)
include h

theorem announce_cons (notice : Notice) (rest : List Notice) (channel : Channel) :
    p.announce (notice :: rest) channel =
      let e := Channel.emit p.behaviour p.depth notice channel
      let more := p.announce rest e.channel
      { more with journal := Step.ofEmission notice e ++ more.journal } := by
  rw [announce, Channel.emit_returned h]

/-- Announcing returns if the handlers raise ordinary faults only. -/
theorem announce_returned (notices : List Notice) (channel : Channel) :
    (p.announce notices channel).ending = .returned := by
  induction notices generalizing channel with
  | nil => rfl
  | cons notice rest ih =>
    rw [announce_cons h]
    exact ih _

/-- Diagnostics are announced one by one, each to all of its handlers. -/
theorem announce_announced (diagnostics : List Diagnostic) (channel : Channel) :
    Announced p.behaviour p.depth channel diagnostics
      (p.announce (diagnostics.map .generation) channel).journal := by
  induction diagnostics generalizing channel with
  | nil => exact .nil channel
  | cons d rest ih =>
    rw [List.map_cons, announce_cons h]
    exact .cons rfl (Channel.emit_delivers h _ (.generation d) channel) (ih _)

end Ordinary

/-- The notice that is announced first is emitted, whether handlers interrupt or not. -/
theorem announce_singleton_filterMap {β : Type} {view : Step → Option β}
    (blind : ∀ s, s.IsAside → view s = none) (notice : Notice) (channel : Channel) :
    (p.announce [notice] channel).journal.filterMap view = (view (.emit notice)).toList := by
  have seen := fun e => Journal.filterMap_ofEmission notice e blind
  rw [announce]
  split
  · exact (congrArg (List.filterMap view) (List.append_nil _)).trans (seen _)
  · exact seen _

/-- An ordinary fault is reported when a generation gives up. -/
theorem giveUp_reported {f : Fault} (ordinary : f.isOrdinary = true) (channel : Channel)
    (trouble : String) : Journal.reported (p.giveUp channel trouble f).journal = [f] := by
  rw [giveUp, if_pos ordinary]
  exact p.announce_singleton_filterMap (fun _ hs => hs.fault?_eq_none) (.other f) channel

/-! ### Handlers that keep to themselves -/

section Passive

variable (h : p.behaviour.IsPassive)
include h

/-- To handlers that keep to themselves, notices are told one after the other. -/
theorem announce_passive (notices : List Notice) (channel : Channel) :
    p.announce notices channel =
      { journal := notices.flatMap fun notice => Step.ofEmission notice
          (Channel.emit p.behaviour p.depth notice channel)
        channel
        ending := .returned } := by
  induction notices with
  | nil => rfl
  | cons notice rest ih =>
    have kept : (Channel.emit p.behaviour p.depth notice channel).channel = channel := by
      rw [Channel.emit_passive h]
    rw [announce_cons h.isOrdinary]
    dsimp only
    rw [kept, ih, List.flatMap_cons]

/-- A handler gets a notice as often as it is listed. -/
theorem noticesOf_ofEmission (handler : String) (notice : Notice) (channel : Channel) :
    Journal.noticesOf handler (Step.ofEmission notice
        (Channel.emit p.behaviour p.depth notice channel)) =
      List.replicate ((channel.listed notice.stream).count handler) notice := by
  have one : ∀ other, Journal.noticesOf handler
      ((Channel.reaction p.behaviour notice other).map Step.ofOccurrence) =
        if other = handler then [notice] else [] := by
    intro other
    unfold Channel.reaction Journal.noticesOf
    split <;> split <;> simp_all [Step.ofOccurrence]
  rw [Channel.emit_passive h, Step.ofEmission]
  dsimp only
  generalize channel.listed notice.stream = handlers
  induction handlers with
  | nil => rfl
  | cons other rest ih =>
    simp only [Journal.noticesOf, List.filterMap_cons, List.flatMap_cons, List.map_append,
      List.filterMap_append] at one ih ⊢
    rw [one, ih, List.count_cons]
    by_cases same : other = handler <;> simp [same, List.replicate_succ]

/-- A handler gets every notice as often as it is listed on the notice's stream. -/
theorem noticesOf_announce (handler : String) (notices : List Notice) (channel : Channel) :
    Journal.noticesOf handler (p.announce notices channel).journal =
      notices.flatMap fun notice =>
        List.replicate ((channel.listed notice.stream).count handler) notice := by
  rw [announce_passive h]
  dsimp only
  rw [Journal.noticesOf, List.filterMap_flatMap]
  exact List.flatMap_congr fun notice _ => noticesOf_ofEmission h handler notice channel

end Passive

end ProjectSetup

end CodeBehind
