import CodeBehind.Proofs.Registry.Change
import Mathlib.Data.List.Induction

/-!
The two dictionaries of a registry fit together.

No alias outlives its language or stands for itself, and a renderer is kept under its own name only
(`Coherent`). Every call keeps this, one that redirects aliases and one that fails included
(`Coherent.after`). So after any history of calls, looking up a name never follows an alias to
nowhere (`ofChanges_answers`).
-/

namespace CodeBehind.Registry

/-- The dictionaries of a registry fit together. -/
structure Coherent (g : Registry) : Prop where
  distinct_renderers : g.renderers.keys.Nodup
  distinct_aliases : g.aliases.keys.Nodup
  leads : ∀ {synonym language : String}, g.aliases.get? synonym = some language →
    g.renderers.has language = true
  apart : ∀ {synonym language : String}, g.aliases.get? synonym = some language →
    synonym ≠ language
  named : ∀ {key : String} {r : Renderer}, g.renderers.get? key = some r →
    r.name ≠ "" ∧ Text.lowercase r.name = key

theorem coherent_empty : empty.Coherent where
  distinct_renderers := List.nodup_nil
  distinct_aliases := List.nodup_nil
  leads := by rintro _ _ ⟨⟩
  apart := by rintro _ _ ⟨⟩
  named := by rintro _ _ ⟨⟩

variable {g : Registry}

/-! ### Calls -/

/-- Entering a renderer with a name keeps a registry coherent. -/
theorem Coherent.enter (h : g.Coherent) {r : Renderer} (named : r.name ≠ "")
    (aliases : List String) : (g.enter r aliases).Coherent where
  distinct_renderers := Assoc.nodup_put h.distinct_renderers _ _
  distinct_aliases := nodup_withAliases h.distinct_aliases _ _
  leads := by
    intro synonym language found
    rw [aliases_get?_enter] at found
    rw [renderers_has_enter, Bool.or_eq_true, beq_iff_eq]
    split at found
    · exact .inl (Option.some.inj found)
    · exact .inr (h.leads found)
  apart := by
    intro synonym language found
    rw [aliases_get?_enter] at found
    split at found
    · next given =>
      rw [← Option.some.inj found]
      exact given.1
    · exact h.apart found
  named := by
    intro key renderer found
    rw [renderers_get?_enter] at found
    split at found
    · next same =>
      cases found
      exact ⟨named, same⟩
    · exact h.named found

/-- Removing a language keeps a registry coherent. -/
theorem Coherent.without (h : g.Coherent) (key : String) : (g.without key).Coherent where
  distinct_renderers := Assoc.nodup_filter h.distinct_renderers _
  distinct_aliases := Assoc.nodup_filter h.distinct_aliases _
  leads := by
    intro synonym language found
    obtain ⟨found, other⟩ := (aliases_get?_without h.distinct_aliases).mp found
    rw [renderers_has_without, h.leads found, Bool.and_true, bne_iff_ne]
    exact other.symm
  apart := by
    intro synonym language found
    exact h.apart ((aliases_get?_without h.distinct_aliases).mp found).1
  named := by
    intro other r found
    rw [renderers_get?_without] at found
    split at found
    · cases found
    · exact h.named found

/-- Every call leaves dictionaries that fit together. -/
theorem Coherent.after (h : g.Coherent) (change : Change) : (g.after change).Coherent := by
  cases change with
  | register candidate aliases replace =>
    rcases g.after_register candidate aliases replace with same | ⟨r, -, named, -, entered⟩
    · rwa [same]
    · rw [after_of_register entered]
      exact h.enter named aliases
  | unregister name? =>
    rcases g.after_unregister name? with same | ⟨key, removed⟩
    · rwa [same]
    · rw [removed]
      exact h.without key

/-- Every history leads to a coherent registry. -/
theorem coherent_ofChanges (changes : List Change) : (ofChanges changes).Coherent := by
  induction changes using List.reverseRecOn with
  | nil => exact coherent_empty
  | append_singleton changes change ih =>
    rw [ofChanges_concat]
    exact ih.after change

/-! ### Looking up -/

/-- Looking up a name agrees with asking whether it is known: a renderer is found under its own key,
and the only refusal is that of this library. -/
structure Answers (g : Registry) (name? : Option String) : Prop where
  returns : (∃ r, g.get name? = .ok r) ↔ g.isSupported name? = true
  refuses : g.isSupported name? = false → ∃ e, g.get name? = .error e ∧ e.fault.kind = .registry
  named : ∀ {r : Renderer}, g.get name? = .ok r → g.resolve? name? = some (Text.lowercase r.name)

/-- Where a key leads, there is a language. -/
theorem Coherent.has_target (h : g.Coherent) {key language : String}
    (found : g.target? key = some language) : g.renderers.has language = true := by
  rw [target?] at found
  split at found
  · next known => rwa [← Option.some.inj found]
  · exact h.leads found

/-- A name is known when a renderer is found under it. -/
theorem Coherent.exists_get_iff (h : g.Coherent) {name? : Option String} :
    (∃ r, g.get name? = .ok r) ↔ g.isSupported name? = true := by
  rw [isSupported, Option.isSome_iff_exists]
  constructor
  · rintro ⟨r, got⟩
    obtain ⟨key, resolved, -⟩ := get_eq_ok.mp got
    exact ⟨key, resolved⟩
  · rintro ⟨key, resolved⟩
    obtain ⟨r, found⟩ := Assoc.has_iff.mp (h.has_target resolved)
    exact ⟨r, get_eq_ok.mpr ⟨key, resolved, found⟩⟩

/-- A coherent registry answers for every name. -/
theorem Coherent.answers (h : g.Coherent) (name? : Option String) : g.Answers name? where
  returns := h.exists_get_iff
  refuses := by
    intro unknown
    rw [isSupported_eq_false_iff] at unknown
    refine ⟨.unknownLanguage name? g.languages, ?_, rfl⟩
    rw [get, unknown]
  named := by
    intro r got
    obtain ⟨key, resolved, found⟩ := get_eq_ok.mp got
    rw [(h.named found).2, resolved]

/-- After any history of calls the dictionaries fit together, and every name, a missing one
included, is answered by a renderer of that name's language or refused as unknown. -/
theorem ofChanges_answers (changes : List Change) :
    (ofChanges changes).Coherent ∧ ∀ name?, (ofChanges changes).Answers name? := by
  have coherent := coherent_ofChanges changes
  exact ⟨coherent, coherent.answers⟩

end CodeBehind.Registry
