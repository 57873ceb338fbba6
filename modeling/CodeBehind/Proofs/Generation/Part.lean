import CodeBehind.Proofs.Generation.Journal

/-!
Parts, one after the other.

A part is a journal with an outcome, so what holds of a sequence of parts follows from what holds of
each of them. Three properties are carried through sequences here:

* **`All P`**: every step of the part satisfies `P`.
* **`Follows view course`**: what a view shows of the part is an initial piece of `course`, and the
  whole of it when the part comes to a result.
* **`OnlyOrdinary`**: a fault that ends the part lets the program go on.

Parts are a lawful monad (`LawfulMonad Part`), which is what the recursion of `List.mapM` needs.
-/

namespace CodeBehind

/-- Whatever fault something ends with lets the program go on. -/
def OnlyOrdinary {α : Type} (x : Except Fault α) : Prop :=
  ∀ f, x = .error f → f.isOrdinary = true

/-- A fault that leaves an iteration is no more interrupting than it was. -/
theorem Fault.leavingIteration_isOrdinary (f : Fault) (h : f.isOrdinary = true) :
    f.leavingIteration.isOrdinary = true := by
  unfold leavingIteration
  split
  · rfl
  · exact h

namespace OnlyOrdinary

variable {α β : Type}

theorem ok (a : α) : OnlyOrdinary (.ok a) := by
  intro f h
  cases h

theorem error {f : Fault} (h : f.isOrdinary = true) : OnlyOrdinary (.error f : Except Fault α) := by
  intro g hg
  cases hg
  exact h

/-- A chain ends ordinarily if each of its parts does. -/
theorem bind {x : Except Fault α} {next : α → Except Fault β} (hx : OnlyOrdinary x)
    (hnext : ∀ a, x = .ok a → OnlyOrdinary (next a)) : OnlyOrdinary (x >>= next) := by
  cases x with
  | ok a => exact hnext a rfl
  | error f => exact error (hx f rfl)

theorem retold {x : Except Fault α} {tell : Fault → Fault} (hx : OnlyOrdinary x)
    (keeps : ∀ f, f.isOrdinary = true → (tell f).isOrdinary = true) :
    OnlyOrdinary (x.mapError tell) := by
  cases x with
  | ok a => exact ok a
  | error f => exact error (keeps f (hx f rfl))

/-- So does a row of parts. -/
theorem mapM {next : α → Except Fault β} {xs : List α} (h : ∀ a, OnlyOrdinary (next a)) :
    OnlyOrdinary (xs.mapM next) := by
  induction xs with
  | nil => exact ok []
  | cons a rest ih =>
    rw [List.mapM_cons]
    exact (h a).bind fun _ _ => ih.bind fun _ _ => ok _

end OnlyOrdinary

namespace Part

variable {α β γ : Type}

/-! ### Sequences -/

@[simp] theorem outcome_liftM (x : Except Fault α) : (liftM x : Part α).outcome = x := rfl

@[simp] theorem journal_after (journal : List Step) (x : Part α) :
    (x.after journal).journal = journal ++ x.journal := rfl

@[simp] theorem outcome_after (journal : List Step) (x : Part α) :
    (x.after journal).outcome = x.outcome := rfl

theorem after_after (x : Part α) (journal before : List Step) :
    (x.after journal).after before = x.after (before ++ journal) :=
  congrArg (Part.mk · x.outcome) (List.append_assoc ..).symm

theorem after_error (steps : List Step) (f : Fault) :
    (⟨[], .error f⟩ : Part α).after steps = ⟨steps, .error f⟩ :=
  congrArg (Part.mk · _) (List.append_nil steps)

/-- A part that returned goes on, behind its own steps. -/
theorem bind_of_ok {x : Part α} {a : α} (h : x.outcome = .ok a) (next : α → Part β) :
    x >>= next = (next a).after x.journal := by
  change Part.bind x next = _
  simp only [Part.bind, h]

/-- A part that failed is the end. -/
theorem bind_of_error {x : Part α} {f : Fault} (h : x.outcome = .error f) (next : α → Part β) :
    x >>= next = ⟨x.journal, .error f⟩ := by
  change Part.bind x next = _
  simp only [Part.bind, h]

/-- Naming a result is no step. -/
theorem journal_bind_pure (x : Part α) (f : α → β) :
    (x >>= fun a => pure (f a)).journal = x.journal := by
  cases h : x.outcome with
  | ok a =>
    rw [bind_of_ok h]
    exact List.append_nil _
  | error e => rw [bind_of_error h]

/-- A warning is logged or passed over, or a strict log stops at it. -/
theorem warn_cases (strict : Bool) (text : Except Fault String) :
    (∃ f, text = .error f ∧ warn strict text = ⟨[], .error f⟩) ∨
      ∃ records : List LogRecord, warn strict text = ⟨records.map .log, .ok ()⟩ := by
  cases text with
  | ok s => exact .inr ⟨[.warning s], rfl⟩
  | error f =>
    cases strict with
    | true => exact .inl ⟨f, rfl, rfl⟩
    | false => exact .inr ⟨[], rfl⟩

/-- A warning that can be told is logged even in a strict log. -/
theorem warn_of_told {strict : Bool} {text : Except Fault String}
    (told : strict → ∃ s, text = .ok s) :
    ∃ records : List LogRecord, warn strict text = ⟨records.map .log, .ok ()⟩ := by
  rcases warn_cases strict text with ⟨f, rfl, stopped⟩ | said
  · cases strict with
    | false => exact ⟨[], rfl⟩
    | true =>
      obtain ⟨s, same⟩ := told rfl
      cases same
  · exact said

theorem bind_assoc_after (x : Part α) (f : α → Part β) (g : β → Part γ) :
    x >>= f >>= g = x >>= fun a => f a >>= g := by
  obtain ⟨journal, outcome⟩ := x
  cases outcome with
  | error e => rfl
  | ok a =>
    change (f a).after journal >>= g = (f a >>= g).after journal
    cases h : (f a).outcome with
    | ok b =>
      rw [bind_of_ok (x := (f a).after journal) h, bind_of_ok h]
      exact congrArg (Part.mk · (g b).outcome) (List.append_assoc ..)
    | error e =>
      rw [bind_of_error (x := (f a).after journal) h, bind_of_error h]
      rfl

theorem id_map_self (x : Part α) : id <$> x = x := by
  obtain ⟨journal, outcome⟩ := x
  cases outcome with
  | ok a => exact congrArg (Part.mk · (.ok a)) (List.append_nil journal)
  | error f => rfl

instance : LawfulMonad Part :=
  LawfulMonad.mk' Part id_map_self (fun _ _ => rfl) bind_assoc_after

/-- What a chain comes to is the chain of what its parts come to. -/
theorem outcome_bind (x : Part α) (next : α → Part β) :
    (x >>= next).outcome = x.outcome >>= fun a => (next a).outcome := by
  cases h : x.outcome with
  | ok a =>
    rw [bind_of_ok h]
    rfl
  | error f =>
    rw [bind_of_error h]
    rfl

/-- A sequence comes to a result when both its parts do. -/
theorem bind_eq_ok {x : Part α} {next : α → Part β} {b : β} :
    (x >>= next).outcome = .ok b ↔ ∃ a, x.outcome = .ok a ∧ (next a).outcome = .ok b := by
  cases h : x.outcome with
  | ok a => simp [bind_of_ok h]
  | error f => simp [bind_of_error h]

theorem outcome_mapM (next : α → Part β) (xs : List α) :
    (xs.mapM next).outcome = xs.mapM fun a => (next a).outcome := by
  induction xs with
  | nil => rfl
  | cons a rest ih =>
    simp only [List.mapM_cons, outcome_bind, ih]
    rfl

/-! ### Every step -/

def All (P : Step → Prop) (x : Part α) : Prop :=
  ∀ s ∈ x.journal, P s

section All

variable {P : Step → Prop} {x : Part α} {next : α → Part β}

theorem All.ofOutcome (outcome : Except Fault α) : (ofOutcome outcome).All P := by
  intro s hs
  cases hs

theorem All.log {record : LogRecord} (h : P (.log record)) : (log record).All P := by
  intro s hs
  rw [List.mem_singleton.mp hs]
  exact h

theorem All.askLogged {c : Call} {reply : Reply α} (h : P (.call c (faultOf? reply.outcome)))
    (hlog : ∀ record, P (.log record)) : (askLogged c reply).All P := by
  intro s hs
  rcases List.mem_cons.mp hs with rfl | hs
  · exact h
  · obtain ⟨record, -, rfl⟩ := List.mem_map.mp hs
    exact hlog record

theorem All.after {journal : List Step} (h : ∀ s ∈ journal, P s) (hx : x.All P) :
    (x.after journal).All P := by
  intro s hs
  rcases List.mem_append.mp hs with hs | hs
  · exact h s hs
  · exact hx s hs

/-- What holds of all steps of two parts holds of all steps of their chain. -/
theorem All.bind (hx : x.All P) (hnext : ∀ a, x.outcome = .ok a → (next a).All P) :
    (x >>= next).All P := by
  cases h : x.outcome with
  | ok a =>
    rw [bind_of_ok h]
    exact .after hx (hnext a h)
  | error f =>
    rw [bind_of_error h]
    exact hx

theorem All.mapM {xs : List α} (h : ∀ a, (next a).All P) : (xs.mapM next).All P := by
  induction xs with
  | nil =>
    intro s hs
    cases hs
  | cons a rest ih =>
    rw [List.mapM_cons]
    exact (h a).bind fun _ _ => ih.bind fun b _ => All.ofOutcome (.ok _)

end All

/-! ### Views -/

theorem filterMap_askLogged {view : Step → Option γ} (blind : ∀ record, view (.log record) = none)
    (c : Call) (reply : Reply α) :
    (askLogged c reply).journal.filterMap view =
      (view (.call c (faultOf? reply.outcome))).toList := by
  have nothing : (reply.logs.map Step.log).filterMap view = [] := by
    rw [List.filterMap_map]
    exact List.filterMap_eq_nil_iff.mpr fun record _ => blind record
  rw [askLogged, List.filterMap_cons, nothing]
  cases view (.call c (faultOf? reply.outcome)) <;> rfl

/-- Asking the writer is one call of it. -/
theorem writerCalls_askLogged (path content : String) (reply : Reply α) :
    Journal.writerCalls (askLogged (.write path content) reply).journal =
      [(path, content, faultOf? reply.outcome)] :=
  filterMap_askLogged (fun _ => rfl) _ _

/-- What `view` shows of the part is an initial piece of `course`, and all of it if the part comes
to a result. -/
structure Follows (view : Step → Option γ) (course : List γ) (x : Part α) : Prop where
  begins : x.journal.filterMap view <+: course
  completes : ∀ a, x.outcome = .ok a → x.journal.filterMap view = course

section Follows

variable {view : Step → Option γ} {course rest : List γ} {x : Part α} {next : α → Part β}

theorem Follows.of_eq (h : x.journal.filterMap view = course) : x.Follows view course :=
  ⟨h ▸ List.prefix_rfl, fun _ _ => h⟩

/-- A chain follows the courses of its parts, one after the other. -/
theorem Follows.bind (hx : x.Follows view course)
    (hnext : ∀ a, x.outcome = .ok a → (next a).Follows view rest) :
    (x >>= next).Follows view (course ++ rest) := by
  cases h : x.outcome with
  | ok a =>
    have whole := hx.completes a h
    rw [bind_of_ok h]
    constructor
    · rw [journal_after, List.filterMap_append, whole]
      exact (List.prefix_append_right_inj course).mpr (hnext a h).begins
    · intro b hb
      rw [journal_after, List.filterMap_append, whole, (hnext a h).completes b hb]
  | error f =>
    rw [bind_of_error h]
    constructor
    · exact hx.begins.trans (List.prefix_append course rest)
    · intro b hb
      cases hb

/-- Parts that the view does not see do not change the course, before others or after them. -/
theorem Follows.silent_bind (hx : x.Follows view [])
    (hnext : ∀ a, x.outcome = .ok a → (next a).Follows view rest) :
    (x >>= next).Follows view rest :=
  hx.bind hnext

@[inherit_doc Follows.silent_bind]
theorem Follows.bind_silent (hx : x.Follows view course)
    (hnext : ∀ a, x.outcome = .ok a → (next a).Follows view []) :
    (x >>= next).Follows view course :=
  List.append_nil course ▸ hx.bind hnext

/-- A row of parts follows the courses of its items. -/
theorem Follows.mapM {item : α → γ} {xs : List α} (h : ∀ a, (next a).Follows view [item a]) :
    (xs.mapM next).Follows view (xs.map item) := by
  induction xs with
  | nil => exact .of_eq rfl
  | cons a rest ih =>
    rw [List.mapM_cons]
    exact (h a).bind fun _ _ => ih.bind_silent fun _ _ => .of_eq rfl

end Follows

/-! ### Faults -/

/-- Logging a warning raises no fault that interrupts the program, unless making its text does. -/
theorem warn_onlyOrdinary {text : Except Fault String} (h : OnlyOrdinary text) (strict : Bool) :
    OnlyOrdinary (warn strict text).outcome := by
  rcases warn_cases strict text with ⟨f, failed, stopped⟩ | ⟨records, said⟩
  · rw [stopped]
    exact .error (h f failed)
  · rw [said]
    exact .ok ()

theorem onlyOrdinary_bind {x : Part α} {next : α → Part β} (hx : OnlyOrdinary x.outcome)
    (hnext : ∀ a, x.outcome = .ok a → OnlyOrdinary (next a).outcome) :
    OnlyOrdinary (x >>= next).outcome := by
  rw [outcome_bind]
  exact hx.bind hnext

end Part

end CodeBehind
