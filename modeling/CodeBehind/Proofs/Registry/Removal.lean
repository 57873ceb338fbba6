import CodeBehind.Proofs.Registry.Lookup

/-!
Taking a language out again.

Removing a language takes out its renderer and every alias that leads to it. Of an unknown language
there is neither (`Coherent.without_of_unknown`), and entering a new one overwrites no alias of
another language (`filter_withAliases`). So what was entered without replacing anything is taken out
again without a trace (`without_enter`), and unregistering a new language right after its
registration gives back the registry as it was, down to the order of its entries
(`unregister_register`). This holds of a language whose name is an alias of another one, too: the
alias is hidden for a while and comes to light again (`unregister_script`).
-/

namespace CodeBehind.Registry

variable {g : Registry} {r : Renderer} {aliases : List String} {key : String}
  {name? : Option String}

/-- Names that lead to no other language add no alias but those of the language itself. -/
theorem filter_withAliases {entries : Assoc String} {names : List String}
    (free : ∀ synonym ∈ names, Text.lowercase synonym = key ∨
      ∀ language, entries.get? (Text.lowercase synonym) = some language → language = key) :
    (withAliases entries key names).filter (·.2 ≠ key) = entries.filter (·.2 ≠ key) := by
  induction names generalizing entries with
  | nil => rfl
  | cons first rest ih =>
    obtain ⟨here, later⟩ := List.forall_mem_cons.mp free
    have step : withAliases entries key (first :: rest) =
        withAliases (withAliases entries key [first]) key rest := rfl
    rw [step]
    by_cases own : Text.lowercase first = key
    · have unchanged : withAliases entries key [first] = entries := if_pos own
      rw [unchanged]
      exact ih later
    · have put : withAliases entries key [first] = entries.put (Text.lowercase first) key :=
        if_neg own
      rw [put, ih, Assoc.filter_put (here.resolve_left own)]
      -- the alias just given leads to the language itself
      intro synonym mem
      refine (later synonym mem).imp_right ?_
      intro only language found
      rw [Assoc.get?_put] at found
      split at found
      · exact (Option.some.inj found).symm
      · exact only language found

/-- Taking a language out takes out what its registration entered. -/
theorem without_enter
    (unopposed : g.conflict? (Text.lowercase r.name) (r.aliases ++ aliases) = none) :
    (g.enter r aliases).without (Text.lowercase r.name) = g.without (Text.lowercase r.name) := by
  have free : ∀ synonym ∈ r.aliases ++ aliases, Text.lowercase synonym = Text.lowercase r.name ∨
      ∀ language, g.aliases.get? (Text.lowercase synonym) = some language →
        language = Text.lowercase r.name := by
    intro synonym mem
    have allowed := objection?_eq_none_iff.mp (conflict?_eq_none_iff.mp unopposed synonym mem)
    exact allowed.imp_right And.right
  rw [without, without, enter]
  dsimp only
  rw [Assoc.erase_put, filter_withAliases free]

/-- Of an unknown language there is nothing to take out. -/
theorem Coherent.without_of_unknown (h : g.Coherent) (unknown : g.renderers.has key = false) :
    g.without key = g := by
  have unled : g.aliases.filter (·.2 ≠ key) = g.aliases := by
    rw [List.filter_eq_self]
    rintro ⟨synonym, language⟩ mem
    rw [decide_eq_true_iff]
    rintro rfl
    have known := h.leads (Assoc.get?_of_mem h.distinct_aliases mem)
    rw [unknown] at known
    cases known
  rw [Registry.without, Assoc.erase_of_not_has unknown, unled]

/-- Removing a name that leads to a language removes this language. -/
theorem unregister_of_resolved (found : g.resolve? name? = some key) :
    g.unregister name? = .ok (g.without key) := by
  unfold unregister
  rw [found]
  rfl

/-- A name that leads nowhere is taken for the key of a language. -/
theorem unregister_of_unresolved {name : String} (missing : g.resolve? (some name) = none) :
    g.unregister (some name) = .ok (g.without (Text.lowercase name)) := by
  unfold unregister
  rw [missing]
  rfl

/-- A new language can be taken out again under any name that leads to it. -/
theorem Coherent.unregister_enter (h : g.Coherent)
    (new : g.renderers.has (Text.lowercase r.name) = false)
    (unopposed : g.conflict? (Text.lowercase r.name) (r.aliases ++ aliases) = none)
    (given : lookupKey name? ∈ keysOf r aliases) :
    (g.enter r aliases).unregister name? = .ok g := by
  have resolved : (g.enter r aliases).resolve? name? = some (Text.lowercase r.name) := by
    rw [resolve?_eq]
    exact (h.target?_enter_iff new unopposed).mpr given
  rw [unregister_of_resolved resolved, without_enter unopposed, h.without_of_unknown new]

/-- After any history of calls, registering a new language without replacing anything and
unregistering it by its name leaves the registry as it was, entry by entry. -/
theorem unregister_register {changes : List Change} {r : Renderer} {aliases : List String}
    {changed : Registry} (stripped : Text.strip r.name = r.name)
    (new : (ofChanges changes).renderers.has (Text.lowercase r.name) = false)
    (returned : (ofChanges changes).register (.renderer r) aliases false = .ok changed) :
    changed.unregister (some r.name) = .ok (ofChanges changes) := by
  obtain ⟨-, unopposed, rfl⟩ := (register_eq_ok_of_new new).mp returned
  apply (coherent_ofChanges changes).unregister_enter new unopposed
  rw [lookupKey_of_strip stripped]
  exact List.mem_cons_self

/-- A language named like an alias of a bundled one comes and goes. -/
theorem unregister_script :
    (ofChanges bundledHistory).aliases.get? "cs" = some "csharp" ∧
      (ofChanges bundledHistory).register (.renderer script) ["CSX", "cs"] false =
        .ok ((ofChanges bundledHistory).enter script ["CSX", "cs"]) ∧
      ((ofChanges bundledHistory).enter script ["CSX", "cs"]).unregister (some "cs") =
        .ok (ofChanges bundledHistory) := by
  have new : (ofChanges bundledHistory).renderers.has (Text.lowercase script.name) = false := by
    decide +kernel
  have returned : (ofChanges bundledHistory).register (.renderer script) ["CSX", "cs"] false =
      .ok ((ofChanges bundledHistory).enter script ["CSX", "cs"]) :=
    (register_eq_ok_of_new new).mpr ⟨by decide, by rfl, rfl⟩
  exact ⟨by decide +kernel, returned, unregister_register (by decide +kernel) new returned⟩

end CodeBehind.Registry
