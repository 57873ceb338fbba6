import CodeBehind.Proofs.Assoc
import CodeBehind.Proofs.Generation.Dependency
import CodeBehind.Proofs.Thing.Ordinary

/-!
Faults of templates.

What goes wrong in a template is told by a fault of templates. The only other faults are those of
the things that its expressions call and put together, and none of them interrupts the program. So
an expression is settled (`find_settled`), by one case for each of its forms, and with it whatever a
template shows (`render_settled`). The templates that are always there can be read, so rendering
them fails with ordinary faults only (`builtin_onlyOrdinary`).
-/

namespace CodeBehind

theorem Entries.checkKey_onlyOrdinary (k : Value) : OnlyOrdinary (checkKey k) := by
  unfold checkKey
  split <;> simp

/-- Checking one after the other fails as one of the checks does. -/
theorem OnlyOrdinary.forM {α : Type} {check : α → Except Fault Unit} {xs : List α}
    (h : ∀ a, OnlyOrdinary (check a)) : OnlyOrdinary (xs.forM check) := by
  induction xs with
  | nil => exact .ok ()
  | cons a rest ih => exact (h a).bind fun _ _ => ih

namespace Template

variable {α β : Type}

/-- Whatever fault stands behind an error lets the program go on. -/
def Settled (x : Except TemplateError α) : Prop :=
  ∀ f, x = .error (.fault f) → f.isOrdinary = true

namespace Settled

theorem ok (a : α) : Settled (.ok a) := by
  intro f h
  cases h

/-- A chain is settled if each of its parts is. -/
theorem bind {x : Except TemplateError α} {next : α → Except TemplateError β} (hx : Settled x)
    (hnext : ∀ a, Settled (next a)) : Settled (x >>= next) := by
  cases x with
  | ok a => exact hnext a
  | error e =>
    intro f h
    cases h
    exact hx f rfl

theorem mapM {next : α → Except TemplateError β} {xs : List α} (h : ∀ a, Settled (next a)) :
    Settled (xs.mapM next) := by
  induction xs with
  | nil => exact ok []
  | cons a rest ih =>
    rw [List.mapM_cons]
    exact (h a).bind fun _ => ih.bind fun _ => ok _

/-- What ends ordinarily is settled as an error of a template. -/
theorem ofFault {x : Except Fault α} (h : OnlyOrdinary x) :
    Settled (x.mapError TemplateError.fault) := by
  cases x with
  | ok a => exact ok a
  | error f =>
    intro g hg
    cases hg
    exact h f rfl

/-- What is absent is a matter of the template. -/
theorem absent (a : Absence) : Settled (throw (.absent a) : Except TemplateError α) := by
  intro f h
  cases h

theorem present (found : Except Absence Thing) : Settled (Template.present found) := by
  cases found with
  | ok t => exact ok t
  | error a => exact absent a

end Settled

/-- The fault that rendering raises for such an error is ordinary. -/
theorem Settled.toFault {x : Except TemplateError α} (h : Settled x) (name : String) :
    OnlyOrdinary (x.mapError (TemplateError.toFault name)) := by
  cases x with
  | ok a => exact .ok a
  | error e =>
    cases e with
    | fault f => exact .error (h f rfl)
    | _ => exact .error rfl

/-! ### Parts of expressions -/

/-- Calling a thing raises no fault that interrupts the program. -/
theorem answer_onlyOrdinary (t : Thing) (a : Thing.Arguments) : OnlyOrdinary (answer t a) := by
  unfold answer
  split
  · simp [Thing.call_onlyOrdinary]
  · exact Thing.call_onlyOrdinary _ a

theorem withSign_settled (negative : Bool) (t : Thing) : Settled (withSign negative t) := by
  unfold withSign
  split
  · exact .ofFault (Thing.call_onlyOrdinary _ {})
  · exact .ofFault (.error (Fault.builtin_isOrdinary _ _))

/-- Nor does making a dictionary. -/
theorem ofEntries_onlyOrdinary (entries : List (Thing × Thing)) :
    OnlyOrdinary (ofEntries entries) := by
  unfold ofEntries
  dsimp only
  split
  · exact (OnlyOrdinary.forM fun _ => Entries.checkKey_onlyOrdinary _).bind fun _ _ => .ok _
  · exact .ok _

/-! ### Expressions -/

variable (template : String) (context : Context)

mutual

/-- Looking for what an expression stands for fails with ordinary faults only. -/
theorem find_settled : (e : Expression) → Settled (find template context e)
  | .literal v => by
    rw [find]
    exact .ok _
  | .name s => by
    rw [find]
    exact .ok _
  | .member e name => by
    rw [find]
    refine (find_settled e).bind fun found => ?_
    split
    · exact .ok _
    · split
      · exact .ok _
      · exact .absent _
  | .element e key => by
    rw [find]
    exact (find_settled e).bind fun _ => (Settled.present _).bind fun _ =>
      (find_settled key).bind fun _ => (Settled.present _).bind fun _ => .ok _
  | .call e placed named => by
    rw [find]
    exact (find_settled e).bind fun _ => (Settled.present _).bind fun t =>
      (findAll_settled placed).bind fun placed => (findNamed_settled named).bind fun named =>
        (Settled.ofFault (answer_onlyOrdinary t { placed, named })).bind fun _ => .ok _
  | .row parts => by
    rw [find]
    exact (findAll_settled parts).bind fun _ => .ok _
  | .list parts => by
    rw [find]
    exact (findAll_settled parts).bind fun _ => .ok _
  | .dictionary entries => by
    rw [find]
    exact (findEntries_settled entries).bind fun entries =>
      (Settled.ofFault (ofEntries_onlyOrdinary entries)).bind fun _ => .ok _
  | .sign negative e => by
    rw [find]
    exact (find_settled e).bind fun _ => (Settled.present _).bind fun t =>
      (withSign_settled negative t).bind fun _ => .ok _
  | .operation op a b => by
    rw [find]
    exact (find_settled a).bind fun _ => (Settled.present _).bind fun s =>
      (find_settled b).bind fun _ => (Settled.present _).bind fun t =>
        (Settled.ofFault (Thing.apply_onlyOrdinary op s t)).bind fun _ => .ok _
  | .comparison a rest => by
    rw [find]
    exact (find_settled a).bind fun _ => (Settled.present _).bind fun t =>
      (compareAll_settled t rest).bind fun _ => .ok _
  | .negation e => by
    rw [find]
    exact (find_settled e).bind fun _ => (Settled.present _).bind fun _ => .ok _
  | .both a b => by
    rw [find]
    refine (find_settled a).bind fun _ => (Settled.present _).bind fun t => ?_
    split
    · exact .ok _
    · exact find_settled b
  | .either a b => by
    rw [find]
    refine (find_settled a).bind fun _ => (Settled.present _).bind fun t => ?_
    split
    · exact find_settled b
    · exact .ok _

theorem findAll_settled : (es : List Expression) → Settled (findAll template context es)
  | [] => by
    rw [findAll]
    exact .ok _
  | e :: rest => by
    rw [findAll]
    exact (find_settled e).bind fun _ => (Settled.present _).bind fun _ =>
      (findAll_settled rest).bind fun _ => .ok _

theorem findEntries_settled :
    (entries : List (Expression × Expression)) → Settled (findEntries template context entries)
  | [] => by
    rw [findEntries]
    exact .ok _
  | (key, e) :: rest => by
    rw [findEntries]
    exact (find_settled key).bind fun _ => (Settled.present _).bind fun _ =>
      (find_settled e).bind fun _ => (Settled.present _).bind fun _ =>
        (findEntries_settled rest).bind fun _ => .ok _

theorem compareAll_settled (a : Thing) : (rest : List (Thing.Comparison × Expression)) →
    Settled (compareAll template context a rest)
  | [] => by
    rw [compareAll]
    exact .ok _
  | (c, e) :: rest => by
    rw [compareAll]
    refine (find_settled e).bind fun _ => (Settled.present _).bind fun b =>
      (Settled.ofFault (Thing.holds_onlyOrdinary c a b)).bind fun holds => ?_
    split
    · exact compareAll_settled b rest
    · exact .ok _

theorem findNamed_settled :
    (named : List (String × Expression)) → Settled (findNamed template context named)
  | [] => by
    rw [findNamed]
    exact .ok _
  | (name, e) :: rest => by
    rw [findNamed]
    exact (find_settled e).bind fun _ => (Settled.present _).bind fun _ =>
      (findNamed_settled rest).bind fun _ => .ok _

end

/-! ### Templates -/

/-- Rendering a template that has been read fails with ordinary faults only. -/
theorem render_settled (name : String) (template : Template) :
    Settled (render name context template) := by
  have part : ∀ part : TemplatePart, Settled (renderPart name context part) := by
    rintro (text | e)
    · exact .ok text
    · have evaluated : Settled (evaluate name context e) :=
        (find_settled name context e).bind fun _ => .present _
      exact evaluated.bind fun t => .ofFault t.shown_onlyOrdinary
  exact (Settled.mapM part).bind fun _ => .ok _

end Template

namespace Templates

/-- A context is refused with a fault of templates. -/
theorem checkContext_settled (context : Context) : Template.Settled (checkContext context) := by
  unfold checkContext
  split
  · exact .ofFault (.error (Fault.builtin_isOrdinary _ _))
  · exact .ok ()

/-- A collection that holds forms fails with ordinary faults only. -/
theorem render_onlyOrdinary {t : Templates}
    (forms : ∀ name source, Assoc.get? t name = some source →
      ∃ form : Template.Form, form.source = source) (name : String) (context : Context) :
    OnlyOrdinary (t.render name context) := by
  refine Template.Settled.toFault ?_ name
  cases found : Assoc.get? t name with
  | none =>
    intro f h
    cases h
  | some source =>
    obtain ⟨form, rfl⟩ := forms name source found
    simp only [form.read_source]
    exact (checkContext_settled context).bind fun _ => Template.render_settled context name _

/-- Rendering the templates that are always there fails with ordinary faults only. -/
theorem builtin_onlyOrdinary (name : String) (context : Context) :
    OnlyOrdinary (builtin.render name context) := by
  refine render_onlyOrdinary (fun name source found => ?_) name context
  rcases List.mem_pair.mp (Assoc.mem_of_get? found) with entry | entry
  · cases entry
    exact ⟨versionConflictForm, source_versionConflictForm⟩
  · cases entry
    exact ⟨noReferenceForm, source_noReferenceForm⟩

end Templates

end CodeBehind
