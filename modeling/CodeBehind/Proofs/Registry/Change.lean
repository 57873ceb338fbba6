import CodeBehind.Registry
import CodeBehind.Proofs.Assoc

/-!
Calls that change a registry.

`Registration` and `Removal` say once what a call can come to, guards included. A history of calls
(`ofChanges`) is made of these: each call leaves the registry as it is, enters one renderer
(`after_register`) or takes one language out (`after_unregister`). What is found in a changed
registry is told by its dictionaries (`aliases_get?_enter`, `aliases_get?_without`), and what stands
against a registration by `conflict?_eq_none_iff`. A renderer is entered under its keys (`keysOf`)
and changes nothing elsewhere; a new language is entered when nothing stands against it
(`register_eq_ok_of_new`).
-/

namespace CodeBehind.Registry

/-! ### Calls and histories -/

/-- A call that may change a registry. -/
inductive Change where
  | register (candidate : Candidate) (aliases : List String) (replace : Bool)
  | unregister (name? : Option String)

def attempt (g : Registry) : Change → Except RegistryError Registry
  | .register candidate aliases replace => g.register candidate aliases replace
  | .unregister name? => g.unregister name?

/-- The registry after a call. One that fails leaves everything as it was. -/
def after (g : Registry) (change : Change) : Registry :=
  match g.attempt change with
  | .ok changed => changed
  | .error _ => g

def ofChanges (changes : List Change) : Registry :=
  changes.foldl after empty

theorem ofChanges_concat (changes : List Change) (change : Change) :
    ofChanges (changes ++ [change]) = (ofChanges changes).after change := by
  rw [ofChanges, List.foldl_concat]
  rfl

/-! ### Looking up -/

def lookupKey (name? : Option String) : String :=
  Text.lowercase (Text.strip (name?.getD ""))

/-- The language that a key leads to: itself, or the one that it is an alias of. -/
def target? (g : Registry) (key : String) : Option String :=
  if g.renderers.has key then some key else g.aliases.get? key

variable {g : Registry} {key : String} {name? : Option String}

/-- A name is looked up by its key. -/
theorem resolve?_eq (g : Registry) (name? : Option String) :
    g.resolve? name? = g.target? (lookupKey name?) :=
  rfl

theorem target?_of_has (h : g.renderers.has key = true) : g.target? key = some key :=
  if_pos h

theorem target?_of_not_has (h : g.renderers.has key = false) :
    g.target? key = g.aliases.get? key :=
  if_neg (Bool.eq_false_iff.mp h)

theorem not_has_of_target? (missing : g.target? key = none) : g.renderers.has key = false := by
  cases known : g.renderers.has key with
  | false => rfl
  | true =>
    rw [target?_of_has known] at missing
    cases missing

theorem isSupported_eq_false_iff : g.isSupported name? = false ↔ g.resolve? name? = none := by
  rw [isSupported, Option.isSome_eq_false_iff, Option.isNone_iff_eq_none]

/-- A renderer is found where a name leads to its language. -/
theorem get_eq_ok {r : Renderer} :
    g.get name? = .ok r ↔
      ∃ key, g.resolve? name? = some key ∧ g.renderers.get? key = some r := by
  rw [get]
  cases resolved : g.resolve? name? with
  | none => simp
  | some key =>
    cases found : g.renderers.get? key with
    | none => simp [found]
    | some renderer => simp [found]

/-! ### Registering -/

/-- Why a language cannot have a further name. -/
def objection? (g : Registry) (key synonym : String) : Option RegistryError :=
  g.conflict? key [synonym]

/-- The first further name that cannot be given is the conflict. -/
theorem conflict?_cons (g : Registry) (key synonym : String) (rest : List String) :
    g.conflict? key (synonym :: rest) = (g.objection? key synonym).or (g.conflict? key rest) := by
  rw [objection?, conflict?, conflict?]
  split
  · rfl
  · split
    · rfl
    · split
      · split <;> rfl
      · rfl

/-- A further name can be given when it is the language's own, or no language yet and no alias of
another one. -/
theorem objection?_eq_none_iff {synonym : String} :
    g.objection? key synonym = none ↔
      Text.lowercase synonym = key ∨
        g.renderers.has (Text.lowercase synonym) = false ∧
          ∀ language, g.aliases.get? (Text.lowercase synonym) = some language → language = key := by
  rw [objection?, conflict?]
  split
  · next own => simp [own, conflict?]
  · next other =>
    split
    · next taken => simp [other, taken]
    · next free =>
      cases g.aliases.get? (Text.lowercase synonym) with
      | none => simp [free, conflict?]
      | some language => by_cases same : language = key <;> simp [other, free, same, conflict?]

/-- Nothing stands against some further names when nothing stands against any of them. -/
theorem conflict?_eq_none_iff {names : List String} :
    g.conflict? key names = none ↔ ∀ synonym ∈ names, g.objection? key synonym = none := by
  induction names with
  | nil => simp [conflict?]
  | cons synonym rest ih => rw [conflict?_cons, Option.or_eq_none_iff, ih, List.forall_mem_cons]

/-- Every further name leads to the language, its own key apart, and all else is as before. -/
theorem get?_withAliases (aliases : Assoc String) (key : String) (names : List String)
    (other : String) :
    (withAliases aliases key names).get? other =
      if other ≠ key ∧ other ∈ names.map Text.lowercase then some key else aliases.get? other := by
  induction names generalizing aliases with
  | nil => simp [withAliases]
  | cons synonym rest ih =>
    have step : withAliases aliases key (synonym :: rest) =
        withAliases (if Text.lowercase synonym = key then aliases
          else aliases.put (Text.lowercase synonym) key) key rest := rfl
    rw [step, ih]
    by_cases own : Text.lowercase synonym = key
    · -- the language's own name changes nothing, in whatever spelling
      rw [if_pos own]
      grind
    · rw [if_neg own, Assoc.get?_put]
      grind

/-- Entering a renderer puts it under its own key and leaves the others. -/
theorem renderers_get?_enter (g : Registry) (r : Renderer) (aliases : List String) (key : String) :
    (g.enter r aliases).renderers.get? key =
      if Text.lowercase r.name = key then some r else g.renderers.get? key :=
  Assoc.get?_put _ _ _ _

theorem renderers_has_enter (g : Registry) (r : Renderer) (aliases : List String) (key : String) :
    (g.enter r aliases).renderers.has key = (Text.lowercase r.name == key || g.renderers.has key) :=
  Assoc.has_put _ _ _ _

/-- Entering a renderer lets its further names lead to it, its own name apart. -/
theorem aliases_get?_enter (g : Registry) (r : Renderer) (aliases : List String) (key : String) :
    (g.enter r aliases).aliases.get? key =
      if key ≠ Text.lowercase r.name ∧ key ∈ (r.aliases ++ aliases).map Text.lowercase then
        some (Text.lowercase r.name)
      else g.aliases.get? key :=
  get?_withAliases _ _ _ _

/-- The keys that a registration enters: those of the name and of the further names. -/
def keysOf (r : Renderer) (aliases : List String) : List String :=
  (r.name :: (r.aliases ++ aliases)).map Text.lowercase

section Keys

variable {r : Renderer} {aliases : List String}

/-- The keys of a registration are those of its name and of its further names. -/
theorem mem_keysOf :
    key ∈ keysOf r aliases ↔
      key = Text.lowercase r.name ∨ key ∈ (r.aliases ++ aliases).map Text.lowercase :=
  List.mem_cons

/-- Entering a renderer makes no other key a language. -/
theorem renderers_has_enter_of_not_mem (h : key ∉ keysOf r aliases) :
    (g.enter r aliases).renderers.has key = g.renderers.has key := by
  have other : Text.lowercase r.name ≠ key := by
    rintro rfl
    exact h (mem_keysOf.mpr (.inl rfl))
  rw [renderers_has_enter, beq_eq_false_iff_ne.mpr other, Bool.false_or]

/-- Entering a renderer leads no other key anywhere. -/
theorem aliases_get?_enter_of_not_mem (h : key ∉ keysOf r aliases) :
    (g.enter r aliases).aliases.get? key = g.aliases.get? key := by
  rw [aliases_get?_enter, if_neg]
  rintro ⟨-, given⟩
  exact h (mem_keysOf.mpr (.inr given))

/-- Keys that are not entered lead where they led before. -/
theorem target?_enter_of_not_mem (h : key ∉ keysOf r aliases) :
    (g.enter r aliases).target? key = g.target? key := by
  rw [target?, target?, renderers_has_enter_of_not_mem h, aliases_get?_enter_of_not_mem h]

end Keys

theorem nodup_withAliases {aliases : Assoc String} (distinct : aliases.keys.Nodup) (key : String)
    (names : List String) : (withAliases aliases key names).keys.Nodup := by
  induction names generalizing aliases with
  | nil => exact distinct
  | cons synonym rest ih =>
    refine ih ?_
    dsimp only
    split
    · exact distinct
    · exact Assoc.nodup_put distinct _ _

/-- What a registration can come to. -/
inductive Registration (g : Registry) (aliases : List String) (replace : Bool) :
    Candidate → Except RegistryError Registry → Prop where
  | foreign : Registration g aliases replace .foreign (.error .notARenderer)
  | nameless {r : Renderer} (unnamed : r.name = "") :
    Registration g aliases replace (.renderer r) (.error .noName)
  | skipped {r : Renderer} (named : r.name ≠ "")
    (known : g.renderers.has (Text.lowercase r.name) = true) (kept : replace = false) :
    Registration g aliases replace (.renderer r) (.ok g)
  | refused {r : Renderer} {e : RegistryError} (named : r.name ≠ "")
    (new : g.renderers.has (Text.lowercase r.name) = false) (kept : replace = false)
    (conflict : g.conflict? (Text.lowercase r.name) (r.aliases ++ aliases) = some e) :
    Registration g aliases replace (.renderer r) (.error e)
  | entered {r : Renderer} (named : r.name ≠ "")
    (free : replace = false → g.renderers.has (Text.lowercase r.name) = false ∧
      g.conflict? (Text.lowercase r.name) (r.aliases ++ aliases) = none) :
    Registration g aliases replace (.renderer r) (.ok (g.enter r aliases))

/-- Registering comes to one of the ways to register. -/
theorem registration (g : Registry) (candidate : Candidate) (aliases : List String)
    (replace : Bool) :
    g.Registration aliases replace candidate (g.register candidate aliases replace) := by
  cases candidate with
  | foreign => exact .foreign
  | renderer r =>
    rw [register]
    dsimp only
    by_cases unnamed : r.name.isEmpty = true
    · rw [if_pos unnamed]
      exact .nameless (String.isEmpty_iff.mp unnamed)
    · rw [if_neg unnamed]
      have named : r.name ≠ "" := mt String.isEmpty_iff.mpr unnamed
      cases replace with
      | true =>
        rw [Bool.not_true, Bool.and_false]
        exact .entered named (by simp)
      | false =>
        cases known : g.renderers.has (Text.lowercase r.name) with
        | true => exact .skipped named known rfl
        | false =>
          cases conflict : g.conflict? (Text.lowercase r.name) (r.aliases ++ aliases) with
          | none => exact .entered named fun _ => ⟨known, conflict⟩
          | some e => exact .refused named known rfl conflict

/-- A new language that is to replace nothing is registered by entering its renderer, if that has a
name and nothing stands against its further names. -/
theorem register_eq_ok_of_new {r : Renderer} {aliases : List String} {changed : Registry}
    (new : g.renderers.has (Text.lowercase r.name) = false) :
    g.register (.renderer r) aliases false = .ok changed ↔
      r.name ≠ "" ∧ g.conflict? (Text.lowercase r.name) (r.aliases ++ aliases) = none ∧
        changed = g.enter r aliases := by
  have course := g.registration (.renderer r) aliases false
  generalize g.register (.renderer r) aliases false = result at course ⊢
  cases course with
  | nameless unnamed => simp [unnamed]
  | skipped _ known => simp [new] at known
  | refused _ _ _ conflict => simp [conflict]
  | entered named free => simp [named, (free rfl).2, eq_comm]

theorem after_of_register {changed : Registry} {candidate : Candidate} {aliases : List String}
    {replace : Bool} (h : g.register candidate aliases replace = .ok changed) :
    g.after (.register candidate aliases replace) = changed := by
  rw [after, attempt, h]

/-- A registration leaves a registry as it is or enters one renderer. -/
theorem after_register (g : Registry) (candidate : Candidate) (aliases : List String)
    (replace : Bool) :
    g.after (.register candidate aliases replace) = g ∨
      ∃ r, candidate = .renderer r ∧ r.name ≠ "" ∧
        (replace = false → g.renderers.has (Text.lowercase r.name) = false ∧
          g.conflict? (Text.lowercase r.name) (r.aliases ++ aliases) = none) ∧
        g.register candidate aliases replace = .ok (g.enter r aliases) := by
  have course := g.registration candidate aliases replace
  rw [after, attempt]
  generalize g.register candidate aliases replace = result at course ⊢
  cases course with
  | foreign => exact .inl rfl
  | nameless => exact .inl rfl
  | skipped => exact .inl rfl
  | refused => exact .inl rfl
  | entered named free => exact .inr ⟨_, rfl, named, free, rfl⟩

/-! ### Removing -/

/-- The registry without a language and the aliases that lead to it. -/
def without (g : Registry) (key : String) : Registry :=
  { renderers := g.renderers.erase key, aliases := g.aliases.filter (·.2 ≠ key) }

/-- A language that is removed is not found any more, and the others stay. -/
theorem renderers_get?_without (g : Registry) (key other : String) :
    (g.without key).renderers.get? other = if key = other then none else g.renderers.get? other :=
  Assoc.get?_erase _ _ _

theorem renderers_has_without (g : Registry) (key other : String) :
    (g.without key).renderers.has other = (key != other && g.renderers.has other) :=
  Assoc.has_erase _ _ _

/-- With a language, the aliases go that lead to it, and no others. -/
theorem aliases_get?_without (distinct : g.aliases.keys.Nodup) {key synonym language : String} :
    (g.without key).aliases.get? synonym = some language ↔
      g.aliases.get? synonym = some language ∧ language ≠ key := by
  rw [without, Assoc.get?_filter distinct, Option.filter_eq_some_iff, decide_eq_true_iff]

/-- What a removal can come to. -/
inductive Removal (g : Registry) : Option String → Except RegistryError Registry → Prop where
  | known {name? : Option String} {key : String} (found : g.resolve? name? = some key) :
    Removal g name? (.ok (g.without key))
  | unknown {name : String} (missing : g.resolve? (some name) = none) :
    Removal g (some name) (.ok (g.without (Text.lowercase name)))
  | nameless (missing : g.resolve? none = none) : Removal g none (.error .nameless)

/-- Removing comes to one of the ways to remove. -/
theorem removal (g : Registry) (name? : Option String) :
    g.Removal name? (g.unregister name?) := by
  unfold unregister
  cases found : g.resolve? name? with
  | some key => exact .known found
  | none =>
    cases name? with
    | none => exact .nameless found
    | some name => exact .unknown found

/-- A removal leaves a registry as it is or takes one language out. -/
theorem after_unregister (g : Registry) (name? : Option String) :
    g.after (.unregister name?) = g ∨ ∃ key, g.after (.unregister name?) = g.without key := by
  have course := g.removal name?
  rw [after, attempt]
  generalize g.unregister name? = result at course ⊢
  cases course with
  | known => exact .inr ⟨_, rfl⟩
  | unknown => exact .inr ⟨_, rfl⟩
  | nameless => exact .inl rfl

end CodeBehind.Registry
