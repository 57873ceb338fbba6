import CodeBehind.Proofs.Registry.Lookup

/-!
Registrations that have nothing to do with each other.

A registration reads and writes the dictionaries under the keys of its renderer and nowhere else:
what is decided about it (`ruling`) is the same in two registries that agree on these keys
(`Agree.ruling_eq`), and what it leaves behind is as before on all others (`agree_after`). So two
registrations whose keys do not meet can be made in either order (`registrations_commute`). Each
comes to what it comes to alone, one that fails with the same error, and the two registries have the
same entries (`Alike`), which only the order of entering them tells apart. Nothing that is looked up
depends on that order (`Alike.get_eq` and the lemmas beside it).
-/

namespace CodeBehind.Registry

variable {g g' : Registry} {r s : Renderer} {aliases others keys : List String} {replace : Bool}
  {name? : Option String}

/-! ### What a registration reads -/

/-- What is decided about a registration: it is refused, or it returns, having entered the renderer
(`true`) or skipped it (`false`). -/
def ruling (g : Registry) (r : Renderer) (aliases : List String) (replace : Bool) :
    Except RegistryError Bool :=
  if r.name.isEmpty then .error .noName
  else if g.renderers.has (Text.lowercase r.name) && !replace then .ok false
  else
    match if replace then none else g.conflict? (Text.lowercase r.name) (r.aliases ++ aliases) with
    | some e => .error e
    | none => .ok true

/-- Registering is deciding first and then entering or not. -/
theorem register_eq_ruling (g : Registry) (r : Renderer) (aliases : List String) (replace : Bool) :
    g.register (.renderer r) aliases replace =
      (g.ruling r aliases replace).map fun enters => if enters then g.enter r aliases else g := by
  rw [register, ruling]
  split
  · rfl
  · dsimp only
    split
    · rfl
    · generalize (if replace then none
        else g.conflict? (Text.lowercase r.name) (r.aliases ++ aliases)) = conflict
      cases conflict <;> rfl

theorem after_eq_ruling (g : Registry) (r : Renderer) (aliases : List String) (replace : Bool) :
    g.after (.register (.renderer r) aliases replace) =
      if g.ruling r aliases replace = .ok true then g.enter r aliases else g := by
  rw [after, attempt, register_eq_ruling]
  cases g.ruling r aliases replace with
  | error e => rfl
  | ok enters => cases enters <;> rfl

/-- Two registries agree on some keys: on whether these are languages and on where they lead as
aliases. -/
def Agree (g g' : Registry) (keys : List String) : Prop :=
  ∀ key ∈ keys, g.renderers.has key = g'.renderers.has key ∧
    g.aliases.get? key = g'.aliases.get? key

/-- Where two registries agree on some names, these have the same conflict. -/
theorem Agree.conflict?_eq {key : String} {names : List String}
    (agree : Agree g g' (names.map Text.lowercase)) :
    g.conflict? key names = g'.conflict? key names := by
  induction names with
  | nil => rfl
  | cons first rest ih =>
    obtain ⟨⟨languages, leads⟩, later⟩ := List.forall_mem_cons.mp agree
    rw [conflict?_cons, conflict?_cons, ih later, objection?, objection?, conflict?, conflict?,
      languages, leads]
    rfl

/-- A registration is decided by what the registry says about the keys of the renderer. -/
theorem Agree.ruling_eq (agree : Agree g g' (keysOf r aliases)) :
    g.ruling r aliases replace = g'.ruling r aliases replace := by
  obtain ⟨⟨language, -⟩, later⟩ := List.forall_mem_cons.mp agree
  rw [ruling, ruling, language, Agree.conflict?_eq later]

/-! ### What a registration writes -/

/-- Entering a renderer changes nothing on other keys. -/
theorem agree_enter (apart : keys.Disjoint (keysOf r aliases)) :
    Agree (g.enter r aliases) g keys := by
  intro key mem
  have outside : key ∉ keysOf r aliases := fun entered => apart mem entered
  exact ⟨renderers_has_enter_of_not_mem outside, aliases_get?_enter_of_not_mem outside⟩

/-- A registration changes nothing under keys that the renderer does not have. -/
theorem agree_after (apart : keys.Disjoint (keysOf r aliases)) :
    Agree (g.after (.register (.renderer r) aliases replace)) g keys := by
  rw [after_eq_ruling]
  split
  · exact agree_enter apart
  · exact fun _ _ => ⟨rfl, rfl⟩

/-! ### Registries with the same entries -/

/-- The two registries have the same entries, in whatever order. -/
structure Alike (g g' : Registry) : Prop where
  renderers : g.renderers.Perm g'.renderers
  aliases : g.aliases.Perm g'.aliases

theorem Alike.refl (g : Registry) : g.Alike g :=
  ⟨.refl _, .refl _⟩

section Alike

variable (alike : g.Alike g')
include alike

theorem Alike.languages_eq : g.languages = g'.languages :=
  sorted_eq_of_perm (alike.renderers.map _)

theorem Alike.aliasesOf_eq (language : String) : g.aliasesOf language = g'.aliasesOf language :=
  sorted_eq_of_perm ((alike.aliases.filter _).map _)

theorem Alike.aliasesFor_eq (name? : Option String) : g.aliasesFor name? = g'.aliasesFor name? := by
  cases name? with
  | none => rfl
  | some name => rw [aliasesFor, aliasesFor, alike.aliasesOf_eq]

variable (h : g.Coherent)
include h

theorem Alike.resolve?_eq (name? : Option String) : g.resolve? name? = g'.resolve? name? := by
  rw [resolve?, resolve?, Assoc.has, Assoc.has,
    Assoc.get?_eq_of_perm h.distinct_renderers alike.renderers,
    Assoc.get?_eq_of_perm h.distinct_aliases alike.aliases]

/-- A name leads to the same renderer, or is refused with the same words. -/
theorem Alike.get_eq (name? : Option String) : g.get name? = g'.get name? := by
  rw [get, get, alike.resolve?_eq h, alike.languages_eq]
  cases g'.resolve? name? with
  | none => rfl
  | some key =>
    dsimp only
    rw [Assoc.get?_eq_of_perm h.distinct_renderers alike.renderers]

theorem Alike.info_eq (name? : Option String) : g.info name? = g'.info name? := by
  have aliases_eq : g.aliasesOf = g'.aliasesOf := funext alike.aliasesOf_eq
  rw [info, info, alike.get_eq h, aliases_eq]

end Alike

/-- Two renderers whose keys do not meet can be entered in either order. -/
theorem Coherent.alike_enter (h : g.Coherent)
    (apart : (keysOf r aliases).Disjoint (keysOf s others)) :
    ((g.enter r aliases).enter s others).Alike ((g.enter s others).enter r aliases) := by
  have distinct : ∀ (first second : Renderer) (names names' : List String),
      ((g.enter first names).enter second names').renderers.keys.Nodup ∧
        ((g.enter first names).enter second names').aliases.keys.Nodup := by
    intro first second names names'
    constructor
    · exact Assoc.nodup_put (Assoc.nodup_put h.distinct_renderers _ _) _ _
    · exact nodup_withAliases (nodup_withAliases h.distinct_aliases _ _) _ _
  constructor
  · apply Assoc.perm_of_get?_eq (distinct _ _ _ _).1 (distinct _ _ _ _).1
    intro key
    have names : Text.lowercase r.name ≠ Text.lowercase s.name := by
      intro same
      exact apart (mem_keysOf.mpr (.inl rfl)) (mem_keysOf.mpr (.inl same))
    simp only [renderers_get?_enter]
    by_cases own : Text.lowercase s.name = key
    · simp [own, own ▸ names]
    · simp [own]
  · apply Assoc.perm_of_get?_eq (distinct _ _ _ _).2 (distinct _ _ _ _).2
    intro key
    simp only [aliases_get?_enter]
    by_cases given : key ∈ (r.aliases ++ aliases).map Text.lowercase
    · have elsewhere : key ∉ (s.aliases ++ others).map Text.lowercase := by
        intro mem
        exact apart (mem_keysOf.mpr (.inr given)) (mem_keysOf.mpr (.inr mem))
      simp only [elsewhere, and_false, if_false]
    · simp only [given, and_false, if_false]

/-! ### Two registrations -/

/-- What a call comes to, apart from the registry that it leaves. -/
def outcome (g : Registry) (change : Change) : Except RegistryError Unit :=
  (g.attempt change).map fun _ => ()

theorem outcome_register (g : Registry) (r : Renderer) (aliases : List String) (replace : Bool) :
    g.outcome (.register (.renderer r) aliases replace) =
      (g.ruling r aliases replace).map fun _ => () := by
  rw [outcome, attempt, register_eq_ruling]
  cases g.ruling r aliases replace <;> rfl

/-- It does not matter which of two calls comes first. -/
structure Commute (g : Registry) (a b : Change) : Prop where
  /-- Each call returns, or fails with the same error, as it does alone. -/
  first : (g.after b).outcome a = g.outcome a
  second : (g.after a).outcome b = g.outcome b
  /-- The dictionaries have the same entries. -/
  alike : ((g.after a).after b).Alike ((g.after b).after a)
  /-- So whatever is looked up is the same. -/
  get : ∀ name?, ((g.after a).after b).get name? = ((g.after b).after a).get name?
  languages : ((g.after a).after b).languages = ((g.after b).after a).languages
  aliasesFor : ∀ name?,
    ((g.after a).after b).aliasesFor name? = ((g.after b).after a).aliasesFor name?
  info : ∀ name?, ((g.after a).after b).info name? = ((g.after b).after a).info name?

/-- Registrations without a common key may be made in either order. -/
theorem Coherent.alike_after (h : g.Coherent)
    (apart : (keysOf r aliases).Disjoint (keysOf s others)) (replace replace' : Bool) :
    ((g.after (.register (.renderer r) aliases replace)).after
        (.register (.renderer s) others replace')).Alike
      ((g.after (.register (.renderer s) others replace')).after
        (.register (.renderer r) aliases replace)) := by
  have first : (g.after (.register (.renderer s) others replace')).ruling r aliases replace =
      g.ruling r aliases replace := (agree_after apart).ruling_eq
  have second : (g.after (.register (.renderer r) aliases replace)).ruling s others replace' =
      g.ruling s others replace' := (agree_after (List.disjoint_symm apart)).ruling_eq
  rw [after_eq_ruling (Registry.after _ _), second, after_eq_ruling (Registry.after _ _), first,
    after_eq_ruling, after_eq_ruling]
  by_cases entersFirst : g.ruling r aliases replace = .ok true
  · by_cases entersSecond : g.ruling s others replace' = .ok true
    · simp only [entersFirst, entersSecond, if_true]
      exact h.alike_enter apart
    · simp only [entersFirst, entersSecond, if_true, if_false]
      exact .refl _
  · simp only [entersFirst, if_false]
    exact .refl _

/-- After any history of calls, two registrations of renderers that share no key, in whatever way
each of them goes, can be made in either order. -/
theorem registrations_commute {changes : List Change} {r s : Renderer}
    {aliases others : List String} (apart : (keysOf r aliases).Disjoint (keysOf s others))
    (replace replace' : Bool) :
    (ofChanges changes).Commute (.register (.renderer r) aliases replace)
      (.register (.renderer s) others replace') := by
  have h := coherent_ofChanges changes
  have alike := h.alike_after apart replace replace'
  have coherent := (h.after (.register (.renderer r) aliases replace)).after
    (.register (.renderer s) others replace')
  refine ⟨?_, ?_, alike, alike.get_eq coherent, alike.languages_eq, alike.aliasesFor_eq,
    alike.info_eq coherent⟩
  · rw [outcome_register, outcome_register, (agree_after apart).ruling_eq]
  · rw [outcome_register, outcome_register, (agree_after (List.disjoint_symm apart)).ruling_eq]

/-- A language that takes over an alias and redirects another one, and one that is refused for an
alias of its own. -/
theorem registrations_commute_script :
    (keysOf script ["VBNet"]).Disjoint (keysOf blankEnded ["Python"]) ∧
      (ofChanges bundledHistory).outcome (.register (.renderer blankEnded) ["Python"] false) =
        .error (.aliasIsLanguage "Python") ∧
      (ofChanges bundledHistory).Commute (.register (.renderer script) ["VBNet"] true)
        (.register (.renderer blankEnded) ["Python"] false) := by
  have apart : (keysOf script ["VBNet"]).Disjoint (keysOf blankEnded ["Python"]) := by
    rw [List.disjoint_left]
    decide +kernel
  exact ⟨apart, by rfl, registrations_commute apart true false⟩

end CodeBehind.Registry
