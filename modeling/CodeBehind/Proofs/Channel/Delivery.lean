import CodeBehind.Proofs.Channel.Containment

/-!
Delivery of notices.

Where handlers raise ordinary faults only, a notice reaches every handler that is listed when it is
emitted, in order, whatever the handlers do meanwhile (`emit_delivers`). Handlers that keep to
themselves, which return or raise and do nothing else (`Behaviour.IsPassive`), get it and nothing
but it, and the lists stay as they are (`emit_passive`).
-/

namespace CodeBehind

/-- Handlers keep to themselves: the only thing that one does to others is to raise an ordinary
fault. -/
def Behaviour.IsPassive (behaviour : Behaviour) : Prop :=
  ∀ handler notice, ∀ action ∈ behaviour handler notice,
    ∃ f, action = .raise f ∧ f.isOrdinary = true

/-- A handler that keeps to itself raises no fault that interrupts the program. -/
theorem Behaviour.IsPassive.isOrdinary {behaviour : Behaviour} (h : behaviour.IsPassive) :
    behaviour.IsOrdinary := by
  intro handler notice f hf
  obtain ⟨g, raise_eq, ordinary⟩ := h handler notice _ hf
  cases raise_eq
  exact ordinary

namespace Channel

variable {behaviour : Behaviour}

/-! ### Every handler -/

/-- Every handler is called, in order, whatever else is told meanwhile. -/
theorem callEach_delivers {emit : Notice → Channel → Emission}
    (hemit : ∀ n c, (emit n c).ending.IsOrdinary) (h : behaviour.IsOrdinary) (notice : Notice)
    (handlers : List String) (c : Channel) :
    (handlers.map (Occurrence.called · notice)).Sublist
      (callEach emit behaviour notice handlers c).occurrences := by
  induction handlers generalizing c with
  | nil => exact List.nil_sublist _
  | cons handler rest ih =>
    have returned : (call emit behaviour notice handler c).ending = .returned :=
      contain_returned handler (isOrdinary_perform hemit (h handler notice) c)
    rw [callEach, Emission.andThen, returned]
    exact ((ih _).trans (List.sublist_append_right _ _)).cons_cons _

/-- Whatever the depth, an emission calls the handlers listed, and the emissions that these make in
turn end ordinarily. -/
theorem emit_eq_callEach (h : behaviour.IsOrdinary) (depth : Nat) :
    ∃ nested : Notice → Channel → Emission, (∀ n c, (nested n c).ending.IsOrdinary) ∧
      ∀ notice c, emit behaviour depth notice c =
        callEach nested behaviour notice (c.listed notice.stream) c := by
  cases depth with
  | zero => exact ⟨fun _ c => ⟨c, [], .raised nestedTooDeeply⟩, fun _ _ => rfl, fun _ _ => rfl⟩
  | succ depth =>
    exact ⟨emit behaviour depth, fun n c => .of_returned (emit_returned h depth n c),
      fun _ _ => rfl⟩

theorem emit_delivers (h : behaviour.IsOrdinary) (depth : Nat) (notice : Notice) (c : Channel) :
    ((c.listed notice.stream).map (Occurrence.called · notice)).Sublist
      (emit behaviour depth notice c).occurrences := by
  obtain ⟨nested, ordinary, emit_eq⟩ := emit_eq_callEach h depth
  rw [emit_eq]
  exact callEach_delivers ordinary h notice _ c

/-! ### Handlers that keep to themselves -/

/-- What happens when a handler that keeps to itself is called. -/
def reaction (behaviour : Behaviour) (notice : Notice) (handler : String) : List Occurrence :=
  .called handler notice ::
    if behaviour handler notice = [] then [] else [.logged (handlerFailed handler)]

/-- Handlers that keep to themselves are called one after the other, with nothing in between. -/
theorem callEach_passive {emit : Notice → Channel → Emission} (h : behaviour.IsPassive)
    (notice : Notice) (handlers : List String) (c : Channel) :
    callEach emit behaviour notice handlers c =
      ⟨c, handlers.flatMap (reaction behaviour notice), .returned⟩ := by
  induction handlers with
  | nil => rfl
  | cons handler rest ih =>
    have call_eq : call emit behaviour notice handler c =
        ⟨c, reaction behaviour notice handler, .returned⟩ := by
      cases actions : behaviour handler notice with
      | nil => simp [call, reaction, actions, perform, Emission.quiet, contain, Emission.after]
      | cons action more =>
        obtain ⟨f, rfl, ordinary⟩ := h handler notice action (by simp [actions])
        simp [call, reaction, actions, perform, contain, Emission.after, ordinary]
    rw [callEach, call_eq, Emission.andThen, ih, List.flatMap_cons]

/-- An emission to handlers that keep to themselves leaves the lists as they are and returns. -/
theorem emit_passive (h : behaviour.IsPassive) (depth : Nat) (notice : Notice) (c : Channel) :
    emit behaviour depth notice c =
      ⟨c, (c.listed notice.stream).flatMap (reaction behaviour notice), .returned⟩ := by
  cases depth <;> exact callEach_passive h notice _ c

end Channel

end CodeBehind
