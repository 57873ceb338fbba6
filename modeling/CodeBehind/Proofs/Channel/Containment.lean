import CodeBehind.Channel
import Mathlib.Logic.Basic

/-!
Containment of handlers' faults.

An ordinary fault of a handler stays inside the emission that called the handler. Hence, where
handlers raise no other faults, every emission returns (`emit_returned`), however handlers emit in
their turn: an emission that nests too deeply is one more ordinary fault.
-/

namespace CodeBehind

/-- No handler raises a fault that interrupts the program. -/
def Behaviour.IsOrdinary (behaviour : Behaviour) : Prop :=
  ∀ handler notice f, Action.raise f ∈ behaviour handler notice → f.isOrdinary = true

namespace Channel

/-- Whatever leaves lets the program go on. -/
def Ending.IsOrdinary : Ending → Prop
  | .returned => True
  | .raised f => f.isOrdinary = true

theorem Ending.IsOrdinary.of_returned {ending : Ending} (h : ending = .returned) :
    ending.IsOrdinary := by
  rw [h]
  trivial

/-- If each part of an emission ends ordinarily, both together do. -/
theorem Emission.isOrdinary_andThen {first : Emission} {next : Channel → Emission}
    (hfirst : first.ending.IsOrdinary) (hnext : ∀ c, (next c).ending.IsOrdinary) :
    (first.andThen next).ending.IsOrdinary := by
  unfold andThen
  split
  · exact hnext _
  · exact hfirst

theorem Emission.andThen_returned {first : Emission} {next : Channel → Emission}
    (hfirst : first.ending = .returned) (hnext : ∀ c, (next c).ending = .returned) :
    (first.andThen next).ending = .returned := by
  unfold andThen
  rw [hfirst]
  exact hnext _

/-- No ordinary fault gets out of the place where handlers are called. -/
theorem contain_returned (handler : String) {e : Emission} (h : e.ending.IsOrdinary) :
    (contain handler e).ending = .returned := by
  unfold contain
  cases hending : e.ending with
  | returned => exact hending
  | raised f =>
    rw [hending] at h
    have hf : f.isOrdinary = true := h
    simp only [hf, if_true]

section Calls

variable {emit : Notice → Channel → Emission} (hemit : ∀ n c, (emit n c).ending.IsOrdinary)
include hemit

/-- A handler that raises ordinary faults only ends ordinarily, if the emissions that it makes do.
-/
theorem isOrdinary_perform {actions : List Action}
    (h : ∀ f, Action.raise f ∈ actions → f.isOrdinary = true) (c : Channel) :
    (perform emit actions c).ending.IsOrdinary := by
  induction actions generalizing c with
  | nil => trivial
  | cons action rest ih =>
    have hrest := ih fun f hf => h f (List.mem_cons_of_mem _ hf)
    cases action with
    | subscribe stream handler => exact hrest _
    | unsubscribe stream handler => exact hrest _
    | emit notice => exact Emission.isOrdinary_andThen (hemit notice c) hrest
    | raise f => exact h f List.mem_cons_self

/-- Whatever ordinary faults handlers raise, calling them returns. -/
theorem callEach_returned {behaviour : Behaviour} (h : behaviour.IsOrdinary) (notice : Notice)
    (handlers : List String) (c : Channel) :
    (callEach emit behaviour notice handlers c).ending = .returned := by
  induction handlers generalizing c with
  | nil => rfl
  | cons handler rest ih =>
    refine Emission.andThen_returned ?_ ih
    exact contain_returned handler (isOrdinary_perform hemit (h handler notice) c)

end Calls

/-- Where handlers raise ordinary faults only, every emission returns. -/
theorem emit_returned {behaviour : Behaviour} (h : behaviour.IsOrdinary) (depth : Nat)
    (notice : Notice) (c : Channel) : (emit behaviour depth notice c).ending = .returned := by
  induction depth generalizing notice c with
  | zero =>
    have deep : ∀ (_ : Notice) (c : Channel),
        (⟨c, [], .raised nestedTooDeeply⟩ : Emission).ending.IsOrdinary := fun _ _ => rfl
    exact callEach_returned deep h notice _ c
  | succ depth ih =>
    exact callEach_returned (fun n c => .of_returned (ih n c)) h notice _ c

end Channel

end CodeBehind
