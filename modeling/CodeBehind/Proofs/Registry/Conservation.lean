import CodeBehind.Language.Bundled
import CodeBehind.Proofs.Registry.Coherence

/-!
What a registration that is to replace nothing leaves in place.

The further names of a new language are held against all languages and aliases, so none of them
changes what a known name leads to. The name of the language itself is held against the languages
only: where it is an alias of another language, the new language takes it over (`Captures`), and
this is the one way in which a known name comes to lead elsewhere (`get_register_iff`).
-/

namespace CodeBehind.Registry

variable {g : Registry} {r : Renderer} {aliases : List String}

/-! ### Entering a new language -/

/-- The name under which a language is entered leads to it. -/
theorem get_enter_own (g : Registry) (r : Renderer) (aliases : List String) {name? : Option String}
    (own : lookupKey name? = Text.lowercase r.name) : (g.enter r aliases).get name? = .ok r := by
  have entered : (g.enter r aliases).renderers.get? (Text.lowercase r.name) = some r := by
    rw [renderers_get?_enter, if_pos rfl]
  refine get_eq_ok.mpr ⟨Text.lowercase r.name, ?_, entered⟩
  rw [resolve?_eq, own]
  exact target?_of_has (Assoc.has_iff.mpr ⟨r, entered⟩)

section New

variable (h : g.Coherent) (new : g.renderers.has (Text.lowercase r.name) = false)
  (unopposed : g.conflict? (Text.lowercase r.name) (r.aliases ++ aliases) = none)
include h new unopposed

/-- No alias that a new language is given led anywhere before. -/
theorem Coherent.target?_of_given {key : String} (apart : key ≠ Text.lowercase r.name)
    (given : key ∈ (r.aliases ++ aliases).map Text.lowercase) : g.target? key = none := by
  obtain ⟨synonym, mem, rfl⟩ := List.mem_map.mp given
  have free := conflict?_eq_none_iff.mp unopposed synonym mem
  obtain ⟨noLanguage, onlyOwn⟩ := (objection?_eq_none_iff.mp free).resolve_left apart
  rw [target?_of_not_has noLanguage]
  cases found : g.aliases.get? (Text.lowercase synonym) with
  | none => rfl
  | some language =>
    -- an alias of the new language would be one of a registered language
    have known := h.leads found
    rw [onlyOwn language found, new] at known
    cases known

theorem Coherent.target?_enter {key language : String} (apart : key ≠ Text.lowercase r.name)
    (known : g.target? key = some language) :
    (g.enter r aliases).target? key = some language := by
  have outside : key ∉ keysOf r aliases := by
    intro entered
    rcases mem_keysOf.mp entered with own | given
    · exact apart own
    · rw [h.target?_of_given new unopposed apart given] at known
      cases known
  rw [target?_enter_of_not_mem outside, known]

/-- Entering a new language changes nothing for the other known names. -/
theorem Coherent.get_enter_of_ne {name? : Option String} {known : Renderer}
    (apart : lookupKey name? ≠ Text.lowercase r.name) (found : g.get name? = .ok known) :
    (g.enter r aliases).get name? = .ok known := by
  obtain ⟨language, resolved, renderer⟩ := get_eq_ok.mp found
  have other : Text.lowercase r.name ≠ language := by
    rintro rfl
    rw [Assoc.has_eq_false_iff.mp new] at renderer
    cases renderer
  refine get_eq_ok.mpr ⟨language, h.target?_enter new unopposed apart resolved, ?_⟩
  rw [renderers_get?_enter, if_neg other]
  exact renderer

end New

/-! ### Registering without replacing -/

/-- A new language takes over an alias: its key is one, and its registration returns. -/
structure Captures (g : Registry) (r : Renderer) (aliases : List String) : Prop where
  returns : ∃ changed, g.register (.renderer r) aliases false = .ok changed
  new : g.renderers.has (Text.lowercase r.name) = false
  synonym : g.aliases.has (Text.lowercase r.name) = true

/-- A registration that takes over an alias is not refused. -/
theorem after_of_captures (captures : g.Captures r aliases) :
    g.after (.register (.renderer r) aliases false) = g.enter r aliases := by
  obtain ⟨changed, returned⟩ := captures.returns
  obtain ⟨-, -, rfl⟩ := (register_eq_ok_of_new captures.new).mp returned
  exact after_of_register returned

/-- A known name that a new language has for its key was an alias of another language. -/
theorem Coherent.alias_of_get (h : g.Coherent) {name? : Option String} {known : Renderer}
    (found : g.get name? = .ok known) (own : lookupKey name? = Text.lowercase r.name)
    (new : g.renderers.has (Text.lowercase r.name) = false) :
    g.aliases.has (Text.lowercase r.name) = true ∧ r ≠ known := by
  obtain ⟨language, resolved, renderer⟩ := get_eq_ok.mp found
  rw [resolve?_eq, own, target?_of_not_has new] at resolved
  refine ⟨Assoc.has_iff.mpr ⟨language, resolved⟩, ?_⟩
  rintro rfl
  exact h.apart resolved (h.named renderer).2

/-- A name that a registration does not take over finds what it found before. -/
theorem Coherent.get_register (h : g.Coherent) {candidate : Candidate} {name? : Option String}
    {known : Renderer} (found : g.get name? = .ok known)
    (free : ∀ r, candidate = .renderer r → g.Captures r aliases →
      lookupKey name? ≠ Text.lowercase r.name) :
    (g.after (.register candidate aliases false)).get name? = .ok known := by
  rcases g.after_register candidate aliases false with same | ⟨r, rfl, -, unhindered, entered⟩
  · rwa [same]
  · obtain ⟨new, unopposed⟩ := unhindered rfl
    rw [after_of_register entered]
    refine h.get_enter_of_ne new unopposed ?_ found
    intro own
    exact free r rfl ⟨⟨_, entered⟩, new, (h.alias_of_get found own new).1⟩ own

/-- After a registration that is to replace nothing, whether it returns or fails, a known name leads
to the same renderer as before, unless it is the alias that the new language takes over. -/
theorem get_register_iff {changes : List Change} {candidate : Candidate} {aliases : List String}
    {name? : Option String} {known : Renderer} (found : (ofChanges changes).get name? = .ok known) :
    ((ofChanges changes).after (.register candidate aliases false)).get name? = .ok known ↔
      ∀ r, candidate = .renderer r → (ofChanges changes).Captures r aliases →
        lookupKey name? ≠ Text.lowercase r.name := by
  have h := coherent_ofChanges changes
  constructor
  · rintro keeps r rfl captures own
    rw [after_of_captures captures, get_enter_own _ r aliases own] at keeps
    exact (h.alias_of_get found own captures.new).2 (Except.ok.inj keeps)
  · exact h.get_register found

/-! ### A language named like an alias -/

def bundledHistory : List Change :=
  Language.bundled.map fun r => .register (.renderer r) [] false

def script : Renderer where
  name := "cs"
  fileExtension := ".csx"
  statement := Language.sure (Language.directive "#error")

/-- The other alias of the bundled language is kept. -/
theorem get_register_script :
    (ofChanges bundledHistory).get (some " C# ") = .ok Language.csharp ∧
      ((ofChanges bundledHistory).after (.register (.renderer script) [] false)).get (some " C# ") =
        .ok Language.csharp := by
  have found : (ofChanges bundledHistory).get (some " C# ") = .ok Language.csharp := by rfl
  refine ⟨found, (get_register_iff found).mpr ?_⟩
  rintro _ ⟨⟩ -
  decide

/-- Registering without replacing does not keep every known name. -/
theorem not_forall_get_register :
    ¬ ∀ (changes : List Change) (candidate : Candidate) (aliases : List String)
        (name? : Option String) (known : Renderer), (ofChanges changes).get name? = .ok known →
      ((ofChanges changes).after (.register candidate aliases false)).get name? = .ok known := by
  intro keeps
  have before : (ofChanges bundledHistory).get (some "cs") = .ok Language.csharp := by rfl
  have taken : ((ofChanges bundledHistory).after (.register (.renderer script) [] false)).get
      (some "cs") = .ok script := by rfl
  have kept := keeps bundledHistory (.renderer script) [] (some "cs") Language.csharp before
  rw [taken] at kept
  have names : script.name = Language.csharp.name := congrArg Renderer.name (Except.ok.inj kept)
  revert names
  decide

end CodeBehind.Registry
