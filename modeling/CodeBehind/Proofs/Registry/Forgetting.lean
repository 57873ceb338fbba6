import CodeBehind.Proofs.Registry.Removal

/-!
What a removal leaves in place.

A language can be named by any name that leads to it, and is taken out with all of them
(`Coherent.target?_without`). Names that led to other languages lead there still, although one of
them may be spelt like the language that is gone: an alias that this language has hidden comes to
light again. A name that leads nowhere takes nothing out, unless it is a key that no name is looked
up under. `ofChanges_forgets` says this of every history of calls.
-/

namespace CodeBehind.Registry

variable {g : Registry} {key language : String} {name? : Option String}

/-! ### Keys -/

/-- Where a key leads when a language is gone: the language's own key to the language it is an alias
of, and every other key where it led before, unless that is the language itself. -/
theorem Coherent.target?_without (h : g.Coherent) (key other : String) :
    (g.without key).target? other =
      (if key = other then g.aliases.get? other else g.target? other).filter (· ≠ key) := by
  have synonyms : (g.without key).aliases.get? other =
      (g.aliases.get? other).filter (· ≠ key) := Assoc.get?_filter h.distinct_aliases _ _
  rw [target?, renderers_has_without, synonyms]
  by_cases own : key = other
  · simp [own]
  · cases known : g.renderers.has other with
    | true => simp [own, target?_of_has known, Option.filter_some, Ne.symm own]
    | false => simp [own, target?_of_not_has known]

section Known

variable (h : g.Coherent) (known : g.renderers.has key = true)
include h known

theorem Coherent.target?_without_of_ne {other : String} (leads : g.target? other = some language)
    (apart : language ≠ key) : (g.without key).target? other = some language := by
  have elsewhere : key ≠ other := by
    rintro rfl
    rw [target?_of_has known] at leads
    exact apart (Option.some.inj leads).symm
  rw [h.target?_without, if_neg elsewhere, leads]
  exact Option.filter_eq_some_iff.mpr ⟨rfl, decide_eq_true apart⟩

theorem Coherent.target?_without_of_none {other : String} (missing : g.target? other = none) :
    (g.without key).target? other = none := by
  have elsewhere : key ≠ other := by
    rintro rfl
    rw [not_has_of_target? missing] at known
    cases known
  rw [h.target?_without, if_neg elsewhere, missing]
  rfl

end Known

/-! ### Names -/

/-- A registry after a language was taken out, compared with the one before. -/
structure Forgets (g : Registry) (key : String) (changed : Registry) : Prop where
  /-- No name leads to the language any more. -/
  gone : ∀ name?, changed.resolve? name? ≠ some key
  /-- Names of other languages lead to the same language and the same renderer. -/
  kept : ∀ name? language, g.resolve? name? = some language → language ≠ key →
    changed.resolve? name? = some language ∧
      ∃ r, g.get name? = .ok r ∧ changed.get name? = .ok r
  /-- Unknown names stay unknown. -/
  unknown : ∀ name?, g.isSupported name? = false → changed.isSupported name? = false

/-- A removed language is forgotten under all its names, and the other languages stay. -/
theorem Coherent.forgets_without (h : g.Coherent) (known : g.renderers.has key = true) :
    g.Forgets key (g.without key) where
  gone := by
    intro name? leads
    rw [resolve?_eq, h.target?_without] at leads
    exact of_decide_eq_true (Option.filter_eq_some_iff.mp leads).2 rfl
  kept := by
    intro name? language leads apart
    have still : (g.without key).resolve? name? = some language :=
      h.target?_without_of_ne known leads apart
    obtain ⟨r, found⟩ := Assoc.has_iff.mp (h.has_target leads)
    refine ⟨still, r, get_eq_ok.mpr ⟨language, leads, found⟩,
      get_eq_ok.mpr ⟨language, still, ?_⟩⟩
    rw [renderers_get?_without, if_neg apart.symm, found]
  unknown := by
    intro name? missing
    rw [isSupported_eq_false_iff] at missing ⊢
    exact h.target?_without_of_none known missing

/-! ### After any history -/

/-- What unregistering does, in whatever way a language is named. -/
structure Unregisters (g : Registry) : Prop where
  /-- A known name takes its language out, and nothing else. -/
  known : ∀ name? key, g.resolve? name? = some key →
    ∃ changed, g.unregister name? = .ok changed ∧ g.Forgets key changed
  /-- An unknown name that is no key of a language takes nothing out. -/
  unknown : ∀ name, g.isSupported (some name) = false →
    g.renderers.has (Text.lowercase name) = false → g.unregister (some name) = .ok g

/-- After any history of calls, unregistering makes the names of one language unknown and leaves all
other names as they were. -/
theorem ofChanges_forgets (changes : List Change) : (ofChanges changes).Unregisters where
  known := by
    intro name? key leads
    have h := coherent_ofChanges changes
    exact ⟨_, unregister_of_resolved leads, h.forgets_without (h.has_target leads)⟩
  unknown := by
    intro name missing noKey
    rw [isSupported_eq_false_iff] at missing
    rw [unregister_of_unresolved missing, (coherent_ofChanges changes).without_of_unknown noKey]

/-- An alias in another spelling takes a bundled language out, and an alias of another language is
kept. -/
theorem forgets_bundled :
    (ofChanges bundledHistory).resolve? (some " C# ") = some "csharp" ∧
      (ofChanges bundledHistory).resolve? (some "PY") = some "python" ∧
      ∃ changed, (ofChanges bundledHistory).unregister (some " C# ") = .ok changed ∧
        changed.resolve? (some "cs") ≠ some "csharp" ∧
        changed.resolve? (some "PY") = some "python" := by
  have leads : (ofChanges bundledHistory).resolve? (some " C# ") = some "csharp" := by rfl
  have other : (ofChanges bundledHistory).resolve? (some "PY") = some "python" := by rfl
  obtain ⟨changed, returned, forgets⟩ := (ofChanges_forgets bundledHistory).known _ _ leads
  exact ⟨leads, other, changed, returned, forgets.gone _,
    (forgets.kept _ _ other (by decide)).1⟩

end CodeBehind.Registry
