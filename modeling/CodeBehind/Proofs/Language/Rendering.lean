import CodeBehind.Language.Renderer
import CodeBehind.Proofs.Outcome
import CodeBehind.Proofs.Text.Lines
import Mathlib.Data.List.Forall2

/-!
Rendering, where a statement may fail.

The statements of a message are made line by line, up to the first line on which the renderer fails
(`FirstFault`). Either every line has its statement and the message is these statements
(`renderLines_eq_ok`), or the fault of the first line without one is all there is, as it leaves the
joining of statements (`renderLines_eq_error`). Several messages fail as their lines in a row do
(`mapM_renderLines_eq_error`).
-/

namespace CodeBehind

variable {α β γ : Type}

/-! ### A rule on a list -/

/-- The rule fails on the list with this fault: some element raises it, and every element before
that one comes to a result. -/
def FirstFault (rule : α → Except Fault β) (as : List α) (f : Fault) : Prop :=
  ∃ before a after, as = before ++ a :: after ∧ (∀ x ∈ before, ∃ b, rule x = .ok b) ∧
    rule a = .error f

section Rule

variable {rule : α → Except Fault β}

/-- A rule comes to results for a list if it comes to each of them in turn. -/
theorem mapM_eq_ok {as : List α} {bs : List β} :
    as.mapM rule = .ok bs ↔ List.Forall₂ (fun a b => rule a = .ok b) as bs := by
  induction as generalizing bs with
  | nil => cases bs <;> simp [pure, Except.pure]
  | cons a rest ih =>
    rw [List.mapM_cons, Outcome.bind_eq_ok]
    constructor
    · rintro ⟨b, here, h⟩
      obtain ⟨others, later, h⟩ := Outcome.bind_eq_ok.mp h
      cases h
      exact .cons here (ih.mp later)
    · intro each
      cases each with
      | cons here later =>
        exact ⟨_, here, Outcome.bind_eq_ok.mpr ⟨_, ih.mpr later, rfl⟩⟩

theorem firstFault_nil {f : Fault} : ¬ FirstFault rule [] f := by
  rintro ⟨before, a, after, nil_eq, -⟩
  cases before <;> cases nil_eq

/-- The first fault of a list is that of its head, or else that of the rest. -/
theorem firstFault_cons {a : α} {rest : List α} {f : Fault} :
    FirstFault rule (a :: rest) f ↔
      rule a = .error f ∨ ∃ b, rule a = .ok b ∧ FirstFault rule rest f := by
  constructor
  · rintro ⟨before, x, after, split, passed, fails⟩
    cases before with
    | nil =>
      cases split
      exact .inl fails
    | cons first before =>
      cases split
      obtain ⟨here, later⟩ := List.forall_mem_cons.mp passed
      obtain ⟨b, hb⟩ := here
      exact .inr ⟨b, hb, before, x, after, rfl, later, fails⟩
  · rintro (fails | ⟨b, hb, before, x, after, rfl, passed, fails⟩)
    · exact ⟨[], a, rest, rfl, List.forall_mem_nil _, fails⟩
    · exact ⟨a :: before, x, after, rfl, List.forall_mem_cons.mpr ⟨⟨b, hb⟩, passed⟩, fails⟩

/-- A rule fails for a list with its first fault. -/
theorem mapM_eq_error {as : List α} {f : Fault} :
    as.mapM rule = .error f ↔ FirstFault rule as f := by
  induction as with
  | nil => exact iff_of_false (by simp [pure, Except.pure]) firstFault_nil
  | cons a rest ih =>
    rw [List.mapM_cons, firstFault_cons, ← ih, Outcome.bind_eq_error]
    refine or_congr Iff.rfl (exists_congr fun b => and_congr_right fun _ => ?_)
    rw [Outcome.bind_eq_error]
    constructor
    · rintro (later | ⟨others, -, made⟩)
      · exact later
      · cases made
    · exact .inl

theorem exists_mapM_eq_ok_iff {as : List α} :
    (∃ bs, as.mapM rule = .ok bs) ↔ ∀ a ∈ as, ∃ b, rule a = .ok b := by
  constructor
  · rintro ⟨bs, made⟩
    induction mapM_eq_ok.mp made with
    | nil => exact List.forall_mem_nil _
    | cons here later ih => exact List.forall_mem_cons.mpr ⟨⟨_, here⟩, ih (mapM_eq_ok.mpr later)⟩
  · intro passed
    cases made : as.mapM rule with
    | ok bs => exact ⟨bs, rfl⟩
    | error f =>
      obtain ⟨before, a, after, rfl, -, fails⟩ := mapM_eq_error.mp made
      obtain ⟨b, hb⟩ := passed a (by simp)
      cases fails.symm.trans hb

/-- Where some element fails, there is a first fault. -/
theorem exists_firstFault {as : List α} (fails : ∃ a ∈ as, ∃ f, rule a = .error f) :
    ∃ f, FirstFault rule as f := by
  cases made : as.mapM rule with
  | error f => exact ⟨f, mapM_eq_error.mp made⟩
  | ok bs =>
    obtain ⟨a, mem, f, raised⟩ := fails
    obtain ⟨b, passed⟩ := exists_mapM_eq_ok_iff.mp ⟨bs, made⟩ a mem
    cases raised.symm.trans passed

/-- A rule whose faults are told in another way fails where it did. -/
theorem mapM_mapError (tell : Fault → Fault) (as : List α) :
    (as.mapM fun a => (rule a).mapError tell) = (as.mapM rule).mapError tell := by
  induction as with
  | nil => rfl
  | cons a rest ih =>
    rw [List.mapM_cons, List.mapM_cons, ih]
    cases rule a with
    | error f => rfl
    | ok b => cases rest.mapM rule <;> rfl

/-- Naming the results of a rule changes nothing else. -/
theorem mapM_map_result (g : β → γ) (as : List α) :
    (as.mapM fun a => (rule a).map g) = (as.mapM rule).map (List.map g) := by
  induction as with
  | nil => rfl
  | cons a rest ih =>
    rw [List.mapM_cons, List.mapM_cons, ih]
    cases rule a with
    | error f => rfl
    | ok b => cases rest.mapM rule <;> rfl

/-- A list of lists goes through a rule as its elements in a row do. -/
theorem mapM_flatMap {g : γ → List α} (cs : List γ) :
    (cs.flatMap g).mapM rule = (cs.mapM fun c => (g c).mapM rule).map List.flatten := by
  induction cs with
  | nil => rfl
  | cons c rest ih =>
    rw [List.flatMap_cons, List.mapM_append, List.mapM_cons, ih]
    cases (g c).mapM rule with
    | error f => rfl
    | ok bs => cases rest.mapM fun c => (g c).mapM rule <;> rfl

end Rule

/-! ### Messages -/

namespace Renderer

variable {r : Renderer} {message? : Option String} {ending : String}

def visibleLines (text : String) : List String :=
  (Text.splitLines text.toList).map String.ofList

/-- A text with a character that can be seen has a visible line. -/
theorem visibleLines_ne_nil {c : Char} {text : String} (mem : c ∈ text.toList)
    (visible : Text.isBlank c = false) (unbroken : Text.isLineBreak c = false) :
    visibleLines text ≠ [] :=
  mt List.map_eq_nil_iff.mp (Text.splitLines_ne_nil mem visible unbroken)

/-- A text with something to see is rendered by its visible lines. -/
theorem linesOf_of_visible {text : String} (h : visibleLines text ≠ []) :
    linesOf (some text) = visibleLines text := by
  unfold linesOf visibleLines at *
  split
  · next empty =>
    rw [Option.getD_some] at empty
    exact absurd (congrArg (List.map String.ofList) empty) h
  · rfl

/-- A message is rendered as the statements of its lines, with the ending in between. -/
theorem renderLines_eq_map (r : Renderer) (message? : Option String) (ending : String) :
    r.renderLines message? ending =
      (((linesOf message?).mapM r.statement).mapError Fault.leavingIteration).map
        ending.intercalate := by
  rw [renderLines]
  cases (linesOf message?).mapM r.statement <;> rfl

/-- Rendering returns where every line has its statement. -/
theorem renderLines_eq_ok {text : String} :
    r.renderLines message? ending = .ok text ↔
      ∃ statements, List.Forall₂ (fun line s => r.statement line = .ok s) (linesOf message?)
        statements ∧ text = ending.intercalate statements := by
  rw [renderLines_eq_map]
  simp only [← mapM_eq_ok]
  cases (linesOf message?).mapM r.statement <;> simp [Except.map, Except.mapError, eq_comm]

/-- Rendering fails with the first fault of the statements, as it leaves the iteration. -/
theorem renderLines_eq_error {f : Fault} :
    r.renderLines message? ending = .error f ↔
      ∃ g, FirstFault r.statement (linesOf message?) g ∧ g.leavingIteration = f := by
  rw [renderLines_eq_map]
  simp only [← mapM_eq_error]
  cases (linesOf message?).mapM r.statement <;> simp [Except.map, Except.mapError]

/-- Messages rendered one after the other fail on the first line of them all that cannot be made a
statement. -/
theorem mapM_renderLines_eq_error (ending : String) {messages : List (Option String)} {f : Fault} :
    (messages.mapM fun m => r.renderLines m ending) = .error f ↔
      ∃ g, FirstFault r.statement (messages.flatMap linesOf) g ∧ g.leavingIteration = f := by
  simp only [renderLines_eq_map, mapM_map_result, mapM_mapError]
  simp only [← mapM_eq_error, mapM_flatMap]
  cases messages.mapM fun m => (linesOf m).mapM r.statement <;> simp [Except.map, Except.mapError]

end Renderer

end CodeBehind
