/-!
Outcomes of several steps.

A chain of steps comes to a value exactly if each step does, and to a failure if the first step that
fails comes to it. So what is known of a chain can be taken apart, one step after the other.
-/

namespace CodeBehind.Outcome

variable {ε δ α β : Type} {x : Except ε α} {next : α → Except ε β}

/-- A chain comes to a result if its first part does and the rest does from there. -/
theorem bind_eq_ok {b : β} : x >>= next = .ok b ↔ ∃ a, x = .ok a ∧ next a = .ok b := by
  cases x with
  | error e =>
    constructor
    · intro h
      cases h
    · rintro ⟨a, h, -⟩
      cases h
  | ok a =>
    constructor
    · exact fun h => ⟨a, rfl, h⟩
    · rintro ⟨_, h, h'⟩
      cases h
      exact h'

/-- A chain fails where its first part does, or else where the rest does. -/
theorem bind_eq_error {e : ε} :
    x >>= next = .error e ↔ x = .error e ∨ ∃ a, x = .ok a ∧ next a = .error e := by
  cases x with
  | error e' =>
    constructor
    · intro h
      cases h
      exact .inl rfl
    · rintro (h | ⟨a, h, -⟩)
      · cases h
        rfl
      · cases h
  | ok a =>
    constructor
    · exact fun h => .inr ⟨a, rfl, h⟩
    · rintro (h | ⟨_, h, h'⟩)
      · cases h
      · cases h
        exact h'

theorem forM_cons (x : α) (xs : List α) (step : α → Except ε Unit) :
    (x :: xs).forM step = step x >>= fun _ => xs.forM step :=
  rfl

/-- A row of steps returns if each of them does. -/
theorem forM_eq_ok {xs : List α} {step : α → Except ε Unit} :
    xs.forM step = .ok () ↔ ∀ x ∈ xs, step x = .ok () := by
  induction xs with
  | nil => simp [List.forM, pure, Except.pure]
  | cons x xs ih =>
    rw [forM_cons, bind_eq_ok, List.forall_mem_cons, ← ih]
    constructor
    · rintro ⟨⟨⟩, here, later⟩
      exact ⟨here, later⟩
    · rintro ⟨here, later⟩
      exact ⟨(), here, later⟩

/-- The fault of a row of steps is that of one of them. -/
theorem exists_of_forM {xs : List α} {step : α → Except ε Unit} {e : ε}
    (h : xs.forM step = .error e) : ∃ x ∈ xs, step x = .error e := by
  induction xs with
  | nil => cases h
  | cons x xs ih =>
    rw [forM_cons] at h
    rcases bind_eq_error.mp h with here | ⟨_, -, later⟩
    · exact ⟨x, List.mem_cons_self, here⟩
    · obtain ⟨y, mem, failed⟩ := ih later
      exact ⟨y, List.mem_cons_of_mem _ mem, failed⟩

variable {f : ε → δ}

theorem mapError_eq_ok {a : α} : x.mapError f = .ok a ↔ x = .ok a := by
  cases x with
  | error e =>
    constructor
    · intro h
      cases h
    · intro h
      cases h
  | ok b =>
    constructor
    · intro h
      cases h
      rfl
    · intro h
      cases h
      rfl

/-- A fault that was told in another way comes from one that was raised. -/
theorem mapError_eq_error {d : δ} : x.mapError f = .error d ↔ ∃ e, x = .error e ∧ f e = d := by
  cases x with
  | error e =>
    constructor
    · intro h
      cases h
      exact ⟨e, rfl, rfl⟩
    · rintro ⟨_, h, told⟩
      cases h
      exact congrArg Except.error told
  | ok a =>
    constructor
    · intro h
      cases h
    · rintro ⟨_, h, -⟩
      cases h

end CodeBehind.Outcome
