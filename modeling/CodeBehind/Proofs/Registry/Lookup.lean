import CodeBehind.Proofs.Language.Rendering
import CodeBehind.Proofs.Registry.Conservation
import CodeBehind.Proofs.Registry.Listing

/-!
Looking up what was registered.

A registration lower-cases the names it is given, and looking up a name drops the blanks around it
as well. So a renderer is found under exactly those names that are looked up under one of its keys
(`Coherent.get_enter_iff`): every name that it was given without blanks around it is among them, and
one with blanks is not unless it is also given without them. A language with blanks around its key
is still listed, and telling about every language fails on it when its name without them leads
nowhere (`Coherent.allInfo_eq_error_iff`). `ofChanges_offers` says all this of any history of calls,
and `not_forall_found` is a language that is listed and never found.
-/

namespace CodeBehind.Registry

variable {g : Registry} {r : Renderer} {aliases : List String} {key : String}
  {name? : Option String} {f : Fault}

/-! ### New languages -/

/-- A name without blanks around it is looked up under its key. -/
theorem lookupKey_of_strip {name : String} (stripped : Text.strip name = name) :
    lookupKey (some name) = Text.lowercase name := by
  rw [lookupKey, Option.getD_some, stripped]

section New

variable (h : g.Coherent) (new : g.renderers.has (Text.lowercase r.name) = false)
  (unopposed : g.conflict? (Text.lowercase r.name) (r.aliases ++ aliases) = none)
include h new unopposed

/-- The keys that lead to a new language are those that its registration enters. -/
theorem Coherent.target?_enter_iff :
    (g.enter r aliases).target? key = some (Text.lowercase r.name) ↔ key ∈ keysOf r aliases := by
  constructor
  · intro leads
    by_contra outside
    -- it led to the new language before, which was not there
    rw [target?_enter_of_not_mem outside] at leads
    have known := h.has_target leads
    rw [new] at known
    cases known
  · intro entered
    by_cases own : key = Text.lowercase r.name
    · have known : (g.enter r aliases).renderers.has key = true := by
        rw [renderers_has_enter, own, beq_self_eq_true, Bool.true_or]
      rw [target?_of_has known, own]
    · have given := (mem_keysOf.mp entered).resolve_left own
      have unknown := not_has_of_target? (h.target?_of_given new unopposed own given)
      have other : (Text.lowercase r.name == key) = false := beq_eq_false_iff_ne.mpr (Ne.symm own)
      rw [target?_of_not_has, aliases_get?_enter, if_pos ⟨own, given⟩]
      rw [renderers_has_enter, other, unknown, Bool.false_or]

/-- A new language is found under the names that are looked up under one of its keys. -/
theorem Coherent.get_enter_iff (named : r.name ≠ "") :
    (g.enter r aliases).get name? = .ok r ↔ lookupKey name? ∈ keysOf r aliases := by
  rw [← h.target?_enter_iff new unopposed, get_eq_ok, resolve?_eq]
  constructor
  · rintro ⟨language, resolved, found⟩
    rw [resolved, ((h.enter named aliases).named found).2]
  · intro resolved
    refine ⟨_, resolved, ?_⟩
    rw [renderers_get?_enter, if_pos rfl]

end New

/-! ### Listed languages -/

section Listed

variable (h : g.Coherent) (listed : key ∈ g.languages)
include h listed

/-- A listed language is looked up under its key without the blanks around it. -/
theorem Coherent.lookupKey_of_listed : lookupKey (some key) = Text.strip key := by
  obtain ⟨r, found⟩ := Assoc.has_iff.mp (mem_languages.mp listed)
  rw [lookupKey, Option.getD_some, ← (h.named found).2, Text.lowercase_strip_lowercase]

/-- A listed language is found under its key, if nothing is stripped from the key. -/
theorem Coherent.get_of_listed (stripped : Text.strip key = key) :
    ∃ r, g.get (some key) = .ok r ∧ Text.lowercase r.name = key := by
  have known := mem_languages.mp listed
  obtain ⟨r, found⟩ := Assoc.has_iff.mp known
  refine ⟨r, get_eq_ok.mpr ⟨key, ?_, found⟩, (h.named found).2⟩
  rw [resolve?_eq, h.lookupKey_of_listed listed, stripped, target?_of_has known]

end Listed

/-- Why a listed language cannot be told about. -/
inductive Untold (g : Registry) (key : String) : Fault → Prop where
  /-- It has blanks around its key, and without them the key leads nowhere. -/
  | unfound (blanks : Text.strip key ≠ key) (missing : g.target? (Text.strip key) = none) :
    Untold g key (RegistryError.unknownLanguage (some key) g.languages).fault
  /-- The renderer that is found makes no sample. -/
  | unsampled {r : Renderer} {f : Fault} (found : g.get (some key) = .ok r)
    (fails : r.statement "message" = .error f) : Untold g key f

/-- Telling of a language fails where it is not found or has no sample. -/
theorem info_eq_error :
    g.info name? = .error f ↔
      (∃ e, g.get name? = .error e ∧ e.fault = f) ∨
        ∃ r, g.get name? = .ok r ∧ r.statement "message" = .error f := by
  rw [info, Outcome.bind_eq_error, Outcome.mapError_eq_error]
  refine or_congr Iff.rfl ?_
  simp only [Outcome.mapError_eq_ok, Outcome.bind_eq_error]
  constructor
  · rintro ⟨r, found, fails | ⟨sample, -, made⟩⟩
    · exact ⟨r, found, fails⟩
    · cases made
  · rintro ⟨r, found, fails⟩
    exact ⟨r, found, .inl fails⟩

/-- A name is not found where its key leads nowhere, and the refusal lists the languages. -/
theorem Coherent.get_eq_error (h : g.Coherent) {e : RegistryError} :
    g.get name? = .error e ↔
      g.target? (lookupKey name?) = none ∧ e = .unknownLanguage name? g.languages := by
  rw [get, resolve?_eq]
  cases resolved : g.target? (lookupKey name?) with
  | none => simp [eq_comm]
  | some language =>
    obtain ⟨r, found⟩ := Assoc.has_iff.mp (h.has_target resolved)
    simp [found]

/-- Telling of a listed language fails where it cannot be told. -/
theorem Coherent.info_eq_error_iff (h : g.Coherent) (listed : key ∈ g.languages) :
    g.info (some key) = .error f ↔ g.Untold key f := by
  rw [info_eq_error]
  constructor
  · rintro (⟨e, failed, rfl⟩ | ⟨r, found, fails⟩)
    · obtain ⟨missing, rfl⟩ := h.get_eq_error.mp failed
      rw [h.lookupKey_of_listed listed] at missing
      refine .unfound ?_ missing
      intro stripped
      rw [stripped, target?_of_has (mem_languages.mp listed)] at missing
      cases missing
    · exact .unsampled found fails
  · intro untold
    cases untold with
    | unfound _ missing =>
      rw [← h.lookupKey_of_listed listed] at missing
      exact .inl ⟨_, h.get_eq_error.mpr ⟨missing, rfl⟩, rfl⟩
    | unsampled found fails => exact .inr ⟨_, found, fails⟩

/-- Telling about every language fails for the first one that cannot be told about. -/
theorem Coherent.allInfo_eq_error_iff (h : g.Coherent) :
    g.allInfo = .error f ↔
      ∃ before key after, g.languages = before ++ key :: after ∧
        (∀ k ∈ before, ∃ told, g.info (some k) = .ok told) ∧ g.Untold key f := by
  rw [allInfo, mapM_eq_error, FirstFault]
  have passes : ∀ k, (∃ b, (do return (k, ← g.info (some k))) = Except.ok (ε := Fault) b) ↔
      ∃ told, g.info (some k) = .ok told := by
    intro k
    constructor
    · rintro ⟨b, h⟩
      obtain ⟨told, made, -⟩ := Outcome.bind_eq_ok.mp h
      exact ⟨told, made⟩
    · rintro ⟨told, made⟩
      exact ⟨(k, told), Outcome.bind_eq_ok.mpr ⟨told, made, rfl⟩⟩
  have fails : ∀ k, (do return (k, ← g.info (some k))) =
      Except.error (α := String × LanguageInfo) f ↔ g.info (some k) = .error f := by
    intro k
    rw [Outcome.bind_eq_error]
    constructor
    · rintro (failed | ⟨told, -, made⟩)
      · exact failed
      · cases made
    · exact .inl
  simp only [passes, fails]
  have untold : ∀ before key after, g.languages = before ++ key :: after →
      (g.info (some key) = .error f ↔ g.Untold key f) := by
    intro before key after split
    apply h.info_eq_error_iff
    rw [split]
    simp
  constructor
  · rintro ⟨before, key, after, split, told, failed⟩
    exact ⟨before, key, after, split, told, (untold _ _ _ split).mp failed⟩
  · rintro ⟨before, key, after, split, told, failed⟩
    exact ⟨before, key, after, split, told, (untold _ _ _ split).mpr failed⟩

/-! ### After any history -/

/-- What a registry offers to those who look something up. -/
structure Offers (g : Registry) : Prop where
  /-- A new language, once registered, is found under the names that are looked up under one of its
  keys and under no others. -/
  enters : ∀ {r : Renderer} {aliases : List String} {changed : Registry},
    g.renderers.has (Text.lowercase r.name) = false →
    g.register (.renderer r) aliases false = .ok changed →
    ∀ name?, changed.get name? = .ok r ↔ lookupKey name? ∈ keysOf r aliases
  /-- Among them are its name and its further names, as given, without blanks around them. -/
  finds : ∀ {r : Renderer} {aliases : List String} {changed : Registry},
    g.renderers.has (Text.lowercase r.name) = false →
    g.register (.renderer r) aliases false = .ok changed →
    ∀ name ∈ r.name :: (r.aliases ++ aliases), Text.strip name = name →
      changed.get (some name) = .ok r
  /-- A listed language without blanks around it is found under what it is listed as. -/
  lists : ∀ key ∈ g.languages, Text.strip key = key →
    ∃ r, g.get (some key) = .ok r ∧ Text.lowercase r.name = key
  /-- It has none around it when there are none around the name of its renderer. -/
  strips : ∀ {key : String} {r : Renderer}, g.renderers.get? key = some r →
    Text.strip r.name = r.name → Text.strip key = key
  /-- Telling about every language fails for the first one that is not found for its blanks or whose
  renderer makes no sample. -/
  tells : ∀ f, g.allInfo = .error f ↔
    ∃ before key after, g.languages = before ++ key :: after ∧
      (∀ k ∈ before, ∃ told, g.info (some k) = .ok told) ∧ g.Untold key f

/-- After any history of calls, whatever is registered without blanks around it can be looked up. -/
theorem ofChanges_offers (changes : List Change) : (ofChanges changes).Offers := by
  have h := coherent_ofChanges changes
  have enters : ∀ {r : Renderer} {aliases : List String} {changed : Registry},
      (ofChanges changes).renderers.has (Text.lowercase r.name) = false →
      (ofChanges changes).register (.renderer r) aliases false = .ok changed →
      ∀ name?, changed.get name? = .ok r ↔ lookupKey name? ∈ keysOf r aliases := by
    intro r aliases changed new returned name?
    obtain ⟨named, unopposed, rfl⟩ := (register_eq_ok_of_new new).mp returned
    exact h.get_enter_iff new unopposed named
  refine ⟨enters, ?_, fun key => h.get_of_listed, ?_, fun f => h.allInfo_eq_error_iff⟩
  · intro r aliases changed new returned name given stripped
    rw [enters new returned, lookupKey_of_strip stripped]
    exact List.mem_map_of_mem given
  · intro key r found stripped
    rw [← (h.named found).2]
    exact Text.strip_lowercase stripped

/-! ### A language with a blank behind its name -/

def blankEnded : Renderer where
  name := "zig "
  fileExtension := ".zig"
  statement := Language.sure (Language.directive "#error")

/-- Not everything that is registered can be looked up, and telling about every language can fail
for one that is registered. -/
theorem not_forall_found :
    (¬ ∀ (changes : List Change) (r : Renderer) (aliases : List String) (changed : Registry),
      (ofChanges changes).renderers.has (Text.lowercase r.name) = false →
      (ofChanges changes).register (.renderer r) aliases false = .ok changed →
      ∀ name ∈ r.name :: (r.aliases ++ aliases), changed.get (some name) = .ok r) ∧
    ¬ ∀ (changes : List Change) (f : Fault),
      (ofChanges changes).allInfo = .error f → f.kind ≠ .registry := by
  have new : empty.renderers.has (Text.lowercase blankEnded.name) = false := rfl
  have returned : empty.register (.renderer blankEnded) [] false =
      .ok (empty.enter blankEnded []) :=
    (register_eq_ok_of_new new).mpr ⟨by decide, rfl, rfl⟩
  have missing : (empty.enter blankEnded []).target? (Text.strip "zig ") = none := by
    decide +kernel
  have listed : (empty.enter blankEnded []).languages = ["zig "] :=
    List.perm_singleton.mp (sorted_perm ["zig "])
  have h : (empty.enter blankEnded []).Coherent := coherent_empty.enter (by decide) []
  have mem : "zig " ∈ (empty.enter blankEnded []).languages := by simp [listed]
  constructor
  · intro finds
    have found := finds [] blankEnded [] _ new returned "zig " List.mem_cons_self
    rw [← h.lookupKey_of_listed mem] at missing
    rw [h.get_eq_error.mpr ⟨missing, rfl⟩] at found
    cases found
  · intro tells
    have history : ofChanges [.register (.renderer blankEnded) [] false] =
        empty.enter blankEnded [] := after_of_register returned
    have untold : (empty.enter blankEnded []).Untold "zig " _ :=
      .unfound (by decide +kernel) missing
    have failed := h.allInfo_eq_error_iff.mpr ⟨[], "zig ", [], listed, by simp, untold⟩
    rw [← history] at failed
    exact tells _ _ failed rfl

end CodeBehind.Registry
