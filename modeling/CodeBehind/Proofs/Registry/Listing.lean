import CodeBehind.Proofs.Outcome
import CodeBehind.Proofs.Registry.Coherence
import CodeBehind.Proofs.Text.Lowercase
import Mathlib.Data.List.Sort

/-!
What a registry lists.

Three ways of reading the dictionaries agree. A listing goes through the languages and collects the
aliases that lead to each (`allNames`), looking up starts from the aliases (`target?`), and what is
told of a language collects its aliases by the name of the renderer (`info`). They agree because a
renderer is kept under its own key, and because lower-casing a key once more leaves it as it is
(`Coherent.lowercase_key`).

* `Coherent.mem_aliasesOf`, `get?_allNames`: the entries of a listing.
* `Coherent.listed_iff`: the keys that are listed are those that lead to a language.
* `ofChanges_lists`: so it is after any history of calls.
-/

namespace CodeBehind.Registry

/-! ### Texts in ascending order -/

section Sorted

variable {names others : List String}

theorem sorted_perm (names : List String) : (sorted names).Perm names :=
  List.mergeSort_perm _ _

/-- Sorting keeps what there is. -/
theorem mem_sorted {name : String} : name ∈ sorted names ↔ name ∈ names :=
  (sorted_perm names).mem_iff

theorem pairwise_sorted (names : List String) : (sorted names).Pairwise (· ≤ ·) :=
  List.pairwise_mergeSort' (· ≤ ·) names

/-- Texts that are all different are strictly ascending. -/
theorem ascending_sorted (distinct : names.Nodup) : (sorted names).Pairwise (· < ·) := by
  have apart : (sorted names).Nodup := (sorted_perm names).nodup_iff.mpr distinct
  refine ((pairwise_sorted names).and apart).imp ?_
  rintro a b ⟨le, ne⟩
  rw [← String.not_le]
  intro ge
  exact ne (String.le_antisymm le ge)

/-- The order in which texts come does not matter. -/
theorem sorted_eq_of_perm (perm : names.Perm others) : sorted names = sorted others := by
  have same : (sorted names).Perm (sorted others) :=
    (sorted_perm names).trans (perm.trans (sorted_perm others).symm)
  exact same.eq_of_pairwise' (pairwise_sorted names) (pairwise_sorted others)

end Sorted

/-! ### Languages and their aliases -/

variable {g : Registry} {key language synonym : String} {name? : Option String}

/-- The languages are the keys under which there is a renderer. -/
theorem mem_languages : key ∈ g.languages ↔ g.renderers.has key = true := by
  rw [languages, mem_sorted, Assoc.has_iff_mem_keys]

/-- The key of a language is lower-cased already. -/
theorem Coherent.lowercase_key (h : g.Coherent) (known : g.renderers.has key = true) :
    Text.lowercase key = key := by
  obtain ⟨r, found⟩ := Assoc.has_iff.mp known
  rw [← (h.named found).2, Text.lowercase_lowercase]

/-- The aliases of a language are those that lead to it. -/
theorem Coherent.mem_aliasesOf (h : g.Coherent) :
    synonym ∈ g.aliasesOf language ↔
      g.aliases.get? synonym = some (Text.lowercase language) := by
  rw [aliasesOf, mem_sorted]
  constructor
  · intro mem
    obtain ⟨⟨_, target⟩, entry, rfl⟩ := List.mem_map.mp mem
    obtain ⟨inside, leads⟩ := List.mem_filter.mp entry
    rw [decide_eq_true_iff] at leads
    rw [← leads]
    exact Assoc.get?_of_mem h.distinct_aliases inside
  · intro found
    refine List.mem_map.mpr ⟨_, List.mem_filter.mpr ⟨Assoc.mem_of_get? found, ?_⟩, rfl⟩
    simp

/-- No alias is listed twice, and they ascend. -/
theorem Coherent.ascending_aliasesOf (h : g.Coherent) (language : String) :
    (g.aliasesOf language).Pairwise (· < ·) :=
  ascending_sorted (Assoc.nodup_filter h.distinct_aliases _)

/-- A language in another spelling has the same aliases. -/
theorem aliasesOf_congr {other : String} (same : Text.lowercase language = Text.lowercase other) :
    g.aliasesOf language = g.aliasesOf other := by
  rw [aliasesOf, aliasesOf, same]

/-! ### The listing -/

theorem get?_allNames (g : Registry) (language : String) :
    Assoc.get? g.allNames language =
      if g.renderers.has language then some (language :: g.aliasesOf language) else none := by
  rw [allNames, Assoc.get?_map]
  simp only [Assoc.has_iff_mem_keys]

/-- A language is listed with itself and its aliases. -/
theorem mem_allNames {names : List String} :
    (language, names) ∈ g.allNames ↔
      g.renderers.has language = true ∧ names = language :: g.aliasesOf language := by
  rw [allNames, List.mem_map, Assoc.has_iff_mem_keys]
  constructor
  · rintro ⟨other, mem, same⟩
    cases same
    exact ⟨mem, rfl⟩
  · rintro ⟨mem, rfl⟩
    exact ⟨language, mem, rfl⟩

/-- The keys that are listed, as a language or as an alias, are those that lead to a language. -/
theorem Coherent.listed_iff (h : g.Coherent) :
    (∃ entry ∈ g.allNames, key ∈ entry.2) ↔ (g.target? key).isSome = true := by
  constructor
  · rintro ⟨⟨language, names⟩, entry, mem⟩
    obtain ⟨known, rfl⟩ := mem_allNames.mp entry
    rcases List.mem_cons.mp mem with rfl | synonym
    · rw [target?_of_has known, Option.isSome_some]
    · rw [target?, h.mem_aliasesOf.mp synonym]
      split <;> rfl
  · intro leads
    obtain ⟨language, found⟩ := Option.isSome_iff_exists.mp leads
    have known := h.has_target found
    refine ⟨_, mem_allNames.mpr ⟨known, rfl⟩, ?_⟩
    rw [target?] at found
    split at found
    · cases found
      exact List.mem_cons_self
    · apply List.mem_cons_of_mem
      rw [h.mem_aliasesOf, h.lowercase_key known]
      exact found

/-! ### What is told of a language -/

/-- A language is told of with what its renderer says and a sample of its statements. -/
theorem info_eq_ok {told : LanguageInfo} :
    g.info name? = .ok told ↔
      ∃ r sample, g.get name? = .ok r ∧ r.statement "message" = .ok sample ∧
        told = {
          name := r.name
          displayName := r.shownName
          fileExtension := r.fileExtension
          aliases := g.aliasesOf r.name
          sample } := by
  rw [info, Outcome.bind_eq_ok]
  simp only [Outcome.mapError_eq_ok, Outcome.bind_eq_ok]
  constructor
  · rintro ⟨r, found, sample, made, same⟩
    exact ⟨r, sample, found, made, (Except.ok.inj same).symm⟩
  · rintro ⟨r, sample, found, made, rfl⟩
    exact ⟨r, found, sample, made, rfl⟩

/-- What is listed is what can be looked up. -/
structure Lists (g : Registry) : Prop where
  /-- A name is known when the key under which it is looked up is listed. -/
  known : ∀ name?, g.isSupported name? = true ↔ ∃ entry ∈ g.allNames, lookupKey name? ∈ entry.2
  /-- For a name without blanks around it and lower-cased already, the key is the name. -/
  listed : ∀ name, Text.strip name = name → Text.lowercase name = name →
    (g.isSupported (some name) = true ↔ ∃ entry ∈ g.allNames, name ∈ entry.2)
  /-- What is told of a known name has the aliases that are listed for its language, behind the
  language itself. They ascend without repetition. -/
  told : ∀ name?, g.isSupported name? = true → ∃ language aliases r,
    g.resolve? name? = some language ∧ g.get name? = .ok r ∧
      Assoc.get? g.allNames language = some (language :: aliases) ∧
      aliases.Pairwise (· < ·) ∧
      ∀ sample, r.statement "message" = .ok sample →
        ∃ told, g.info name? = .ok told ∧ told.aliases = aliases

/-- A name is known if its key is among the names of a language. -/
theorem Coherent.isSupported_iff (h : g.Coherent) (name? : Option String) :
    g.isSupported name? = true ↔ ∃ entry ∈ g.allNames, lookupKey name? ∈ entry.2 := by
  rw [h.listed_iff, isSupported, resolve?_eq]

/-- After any history of calls, listing the names and looking them up agree, and so does what is
told of a language. -/
theorem ofChanges_lists (changes : List Change) : (ofChanges changes).Lists := by
  have h := coherent_ofChanges changes
  refine ⟨h.isSupported_iff, ?_, ?_⟩
  · intro name stripped lowered
    have key : lookupKey (some name) = name := by
      rw [lookupKey, Option.getD_some, stripped, lowered]
    rw [h.isSupported_iff, key]
  · intro name? supported
    obtain ⟨r, got⟩ := h.exists_get_iff.mpr supported
    obtain ⟨language, resolved, found⟩ := get_eq_ok.mp got
    have known := Assoc.has_iff.mpr ⟨r, found⟩
    have own : Text.lowercase r.name = Text.lowercase language := by
      rw [(h.named found).2, h.lowercase_key known]
    refine ⟨language, _, r, resolved, got, ?_, h.ascending_aliasesOf language, ?_⟩
    · rw [get?_allNames, if_pos known]
    · intro sample made
      exact ⟨_, info_eq_ok.mpr ⟨r, sample, got, made, rfl⟩, aliasesOf_congr own⟩

end CodeBehind.Registry
