import CodeBehind.Text.Matcher

/-!
What matchers read.

A match that succeeds has read a piece of the text at each step, and the rest was matched by what
follows (`exists_of_one` and its like). Conversely a step reads as much as it can whenever the rest
can be matched after that (`many_append` and its like), so no possibility that comes later counts.
-/

namespace CodeBehind.Text.Matcher

variable {α β : Type} {holds : Char → Bool} {m : Matcher β α} {text rest : List Char} {b : β}

theorem several_eq (holds : Char → Bool) (text : List Char)
    (next : List Char → List Char → Option β) :
    several holds text next =
      one holds text fun first rest => many holds rest fun more rest => next (first :: more) rest :=
  rfl

/-! ### What was read -/

/-- Reading one character of a class takes it from the front. -/
theorem exists_of_one {next : Char → List Char → Option β} (found : one holds text next = some b) :
    ∃ c rest, text = c :: rest ∧ holds c = true ∧ next c rest = some b := by
  cases text with
  | nil => cases found
  | cons c rest =>
    rw [one] at found
    split at found
    · next held => exact ⟨c, rest, rfl, held, found⟩
    · cases found

/-- Reading many characters of a class takes some of them from the front. -/
theorem exists_of_many {next : List Char → List Char → Option β}
    (found : many holds text next = some b) :
    ∃ taken rest, text = taken ++ rest ∧ (∀ c ∈ taken, holds c = true) ∧
      next taken rest = some b := by
  induction text generalizing next with
  | nil => exact ⟨[], [], rfl, by simp, found⟩
  | cons c rest ih =>
    have none : ∃ taken more, c :: rest = taken ++ more ∧ (∀ c ∈ taken, holds c = true) ∧
        next taken more = next [] (c :: rest) := ⟨[], c :: rest, rfl, by simp, rfl⟩
    rw [many] at found
    split at found
    · next held =>
      rcases Option.or_eq_some_iff.mp found with longer | ⟨-, shortest⟩
      · obtain ⟨taken, more, rfl, all, found⟩ := ih longer
        exact ⟨c :: taken, more, rfl, List.forall_mem_cons.mpr ⟨held, all⟩, found⟩
      · rwa [shortest] at none
    · rwa [found] at none

/-- Reading several takes one at least. -/
theorem exists_of_several {next : List Char → List Char → Option β}
    (found : several holds text next = some b) :
    ∃ taken rest, text = taken ++ rest ∧ taken ≠ [] ∧ (∀ c ∈ taken, holds c = true) ∧
      next taken rest = some b := by
  rw [several_eq] at found
  obtain ⟨first, _, rfl, held, found⟩ := exists_of_one found
  obtain ⟨more, rest, rfl, all, found⟩ := exists_of_many found
  exact ⟨first :: more, rest, rfl, by simp, List.forall_mem_cons.mpr ⟨held, all⟩, found⟩

/-- What may be there is there or not. -/
theorem of_maybe {next : Option α → List Char → Option β} (found : maybe m text next = some b) :
    m text (fun a rest => next (some a) rest) = some b ∨ next none text = some b :=
  (Option.or_eq_some_iff.mp found).imp_right And.right

/-- What is repeated was read piece by piece, where one time reads `write a` for some `a`. -/
theorem exists_of_repeated {write : α → List Char} {P : α → Prop}
    (reads : ∀ {text : List Char} {next : α → List Char → Option β} {b : β},
      m text next = some b → ∃ a rest, text = write a ++ rest ∧ P a ∧ next a rest = some b)
    {next : List α → List Char → Option β} (found : repeated m text next = some b) :
    ∃ as rest, text = as.flatMap write ++ rest ∧ (∀ a ∈ as, P a) ∧ next as rest = some b := by
  induction size : text.length using Nat.strongRecOn generalizing text next with
  | _ size ih =>
    rw [repeated] at found
    rcases Option.or_eq_some_iff.mp found with again | ⟨-, done⟩
    · obtain ⟨a, rest, rfl, holds, found⟩ := reads again
      split at found
      · next shorter =>
        obtain ⟨as, last, rfl, all, found⟩ := ih _ (size ▸ shorter) found rfl
        exact ⟨a :: as, last, by rw [List.flatMap_cons, List.append_assoc],
          List.forall_mem_cons.mpr ⟨holds, all⟩, found⟩
      · cases found
    · exact ⟨[], text, rfl, by simp, done⟩

theorem of_atEnd {next : Unit → List Char → Option β} (found : atEnd text next = some b) :
    (text = [] ∨ text = ['\n']) ∧ next () text = some b := by
  rw [atEnd] at found
  split at found
  · next ended => exact ⟨ended, found⟩
  · cases found

/-! ### What is read -/

theorem one_cons {c : Char} (held : holds c = true) (next : Char → List Char → Option β) :
    one holds (c :: rest) next = next c rest :=
  if_pos held

theorem one_of_not_head? (stops : ∀ c ∈ text.head?, holds c = false)
    (next : Char → List Char → Option β) : one holds text next = none := by
  cases text with
  | nil => rfl
  | cons c rest => rw [one, stops c rfl]; rfl

/-- A repetition takes all it can if the rest can be matched then. -/
theorem many_append {taken : List Char} (all : ∀ c ∈ taken, holds c = true)
    (stops : ∀ c ∈ rest.head?, holds c = false) {next : List Char → List Char → Option β}
    (found : next taken rest = some b) : many holds (taken ++ rest) next = some b := by
  induction taken generalizing next with
  | nil =>
    cases rest with
    | nil => exact found
    | cons c rest =>
      rw [List.nil_append, many, stops c rfl]
      exact found
  | cons c taken ih =>
    obtain ⟨held, all⟩ := List.forall_mem_cons.mp all
    rw [List.cons_append, many, if_pos held, ih all found]
    rfl

theorem many_self (all : ∀ c ∈ text, holds c = true) {next : List Char → List Char → Option β}
    (found : next text [] = some b) : many holds text next = some b := by
  rw [← List.append_nil text]
  exact many_append all (by simp) found

/-- All characters of the class are taken where the rest can be read after them. -/
theorem several_append {taken : List Char} (nonempty : taken ≠ [])
    (all : ∀ c ∈ taken, holds c = true) (stops : ∀ c ∈ rest.head?, holds c = false)
    {next : List Char → List Char → Option β} (found : next taken rest = some b) :
    several holds (taken ++ rest) next = some b := by
  obtain ⟨first, more, rfl⟩ := List.exists_cons_of_ne_nil nonempty
  obtain ⟨held, all⟩ := List.forall_mem_cons.mp all
  rw [several_eq, List.cons_append, one_cons held]
  exact many_append all stops found

/-- What may be there is taken where the rest can be read after it. -/
theorem maybe_of_some {next : Option α → List Char → Option β}
    (found : m text (fun a rest => next (some a) rest) = some b) : maybe m text next = some b := by
  rw [maybe, found]
  rfl

/-- What is not there is passed over. -/
theorem maybe_of_none {next : Option α → List Char → Option β}
    (missing : m text (fun a rest => next (some a) rest) = none) :
    maybe m text next = next none text := by
  rw [maybe, missing]
  rfl

/-- A repetition reads once more if the rest can be matched then. -/
theorem repeated_of_some {next : List α → List Char → Option β}
    (found : m text (fun a rest =>
      if rest.length < text.length then repeated m rest fun more rest => next (a :: more) rest
      else none) = some b) : repeated m text next = some b := by
  rw [repeated, found]
  rfl

theorem repeated_of_none (missing : ∀ next, m text next = none)
    (next : List α → List Char → Option β) : repeated m text next = next [] text := by
  rw [repeated, missing]
  rfl

end CodeBehind.Text.Matcher
