import CodeBehind.Proofs.Registry.Change

/-!
What a refused registration leaves behind.

`enroll` is a registration as a procedure on a registry: it holds one further name after the other
against the registry, then puts the renderer in its place, and then enters one further name after
the other. What it has changed stays changed when it fails. It comes to the same result and the same
registry as `register` (`enroll_on`).

* `Clashes`, `Refused`: what stands against a further name, and against a registration.
* `conflict?_eq_some_iff`: the complaint is about the first further name that something stands
  against.
* `enroll_enrolls`: a registration fails exactly when it is refused, and a registration that fails
  or is skipped has changed nothing.
-/

namespace CodeBehind.Registry

variable {g : Registry} {key synonym : String} {e : RegistryError}

/-! ### What stands against a further name -/

/-- The further name is a language, or leads to a language other than the one under `key`. -/
def Clashes (g : Registry) (key synonym : String) : Prop :=
  Text.lowercase synonym ≠ key ∧
    (g.renderers.has (Text.lowercase synonym) = true ∨
      ∃ language, g.aliases.get? (Text.lowercase synonym) = some language ∧ language ≠ key)

/-- The complaint about a further name tells the name, and the language that has it already. -/
inductive Complaint (g : Registry) (key synonym : String) : RegistryError → Prop where
  | language (apart : Text.lowercase synonym ≠ key)
    (known : g.renderers.has (Text.lowercase synonym) = true) :
    Complaint g key synonym (.aliasIsLanguage synonym)
  | taken {language : String} (apart : Text.lowercase synonym ≠ key)
    (free : g.renderers.has (Text.lowercase synonym) = false)
    (leads : g.aliases.get? (Text.lowercase synonym) = some language) (other : language ≠ key) :
    Complaint g key synonym (.aliasTaken synonym language)

/-- A further name clashes if there is a complaint about it. -/
theorem clashes_iff : g.Clashes key synonym ↔ ∃ e, g.Complaint key synonym e := by
  constructor
  · rintro ⟨apart, known⟩
    cases free : g.renderers.has (Text.lowercase synonym) with
    | true => exact ⟨_, .language apart free⟩
    | false =>
      obtain ⟨language, leads, other⟩ := known.resolve_left (by simp [free])
      exact ⟨_, .taken apart free leads other⟩
  · rintro ⟨e, complaint⟩
    cases complaint with
    | language apart known => exact ⟨apart, .inl known⟩
    | taken apart free leads other => exact ⟨apart, .inr ⟨_, leads, other⟩⟩

/-- The description of a complaint names the further name as it was given. -/
theorem Complaint.description?_eq (complaint : g.Complaint key synonym e) :
    ∃ reason, e.fault.description? = some ("Alias '" ++ synonym ++ "' " ++ reason) := by
  cases complaint with
  | language =>
    have split : "' conflicts with existing primary language" =
        "' " ++ "conflicts with existing primary language" := by decide +kernel
    refine ⟨"conflicts with existing primary language", ?_⟩
    change some ("Alias '" ++ synonym ++ "' conflicts with existing primary language") = _
    rw [split, ← String.append_assoc]
  | @taken language =>
    have split : "' already points to '" = "' " ++ "already points to '" := by decide +kernel
    refine ⟨"already points to '" ++ language ++ "'", ?_⟩
    change some ("Alias '" ++ synonym ++ "' already points to '" ++ language ++ "'") = _
    rw [split]
    simp only [String.append_assoc]

/-- The objection to a further name is the complaint about it. -/
theorem objection?_eq_some_iff : g.objection? key synonym = some e ↔ g.Complaint key synonym e := by
  rw [objection?, conflict?]
  constructor
  · intro objection
    split at objection
    · cases objection
    · next apart =>
      split at objection
      · next known =>
        cases objection
        exact .language apart known
      · next free =>
        split at objection
        · next language leads =>
          split at objection
          · cases objection
          · next other =>
            cases objection
            exact .taken apart (Bool.eq_false_iff.mpr free) leads other
        · cases objection
  · intro complaint
    cases complaint with
    | language apart known => simp [apart, known]
    | taken apart free leads other => simp [apart, free, leads, other]

theorem objection?_eq_none_iff_not_clashes :
    g.objection? key synonym = none ↔ ¬ g.Clashes key synonym := by
  rw [clashes_iff]
  cases objection : g.objection? key synonym with
  | none =>
    have unopposed : ∀ e, ¬ g.Complaint key synonym e := by
      intro e complaint
      rw [objection?_eq_some_iff.mpr complaint] at objection
      cases objection
    simpa using unopposed
  | some e => simpa using ⟨e, objection?_eq_some_iff.mp objection⟩

/-- The complaint about some further names is about the first one that something stands against. -/
theorem conflict?_eq_some_iff {names : List String} :
    g.conflict? key names = some e ↔
      ∃ before synonym after, names = before ++ synonym :: after ∧
        (∀ s ∈ before, ¬ g.Clashes key s) ∧ g.Complaint key synonym e := by
  induction names with
  | nil => simp [conflict?]
  | cons first rest ih =>
    rw [conflict?_cons]
    cases objection : g.objection? key first with
    | some found =>
      have complaint := objection?_eq_some_iff.mp objection
      rw [Option.some_or]
      constructor
      · intro same
        cases same
        exact ⟨[], first, rest, rfl, by simp, complaint⟩
      · rintro ⟨before, synonym, after, split, unopposed, other⟩
        cases before with
        | nil =>
          cases split
          rw [← objection, objection?_eq_some_iff]
          exact other
        | cons _ before =>
          cases split
          exact absurd (clashes_iff.mpr ⟨_, complaint⟩) (unopposed first List.mem_cons_self)
    | none =>
      have free := objection?_eq_none_iff_not_clashes.mp objection
      rw [Option.none_or, ih]
      constructor
      · rintro ⟨before, synonym, after, rfl, unopposed, complaint⟩
        exact ⟨first :: before, synonym, after, rfl,
          List.forall_mem_cons.mpr ⟨free, unopposed⟩, complaint⟩
      · rintro ⟨before, synonym, after, split, unopposed, complaint⟩
        cases before with
        | nil =>
          cases split
          exact absurd (clashes_iff.mpr ⟨_, complaint⟩) free
        | cons _ before =>
          cases split
          exact ⟨before, synonym, after, rfl, (List.forall_mem_cons.mp unopposed).2, complaint⟩

/-! ### Registering in place -/

/-- A procedure on a registry, which may fail half-way. -/
abbrev Procedure := ExceptT RegistryError (StateM Registry)

namespace Procedure

def current : Procedure Registry :=
  MonadState.get

/-- What a procedure comes to on a registry, and the registry as it leaves it. -/
def on {α : Type} (x : Procedure α) (g : Registry) : Except RegistryError α × Registry :=
  x.run.run g

end Procedure

open Procedure (current)

def checkSynonym (key : String) (replace : Bool) (synonym : String) : Procedure Unit :=
  if Text.lowercase synonym = key ∨ replace = true then pure ()
  else do
    let g ← current
    if g.renderers.has (Text.lowercase synonym) then throw (.aliasIsLanguage synonym)
    else
      match g.aliases.get? (Text.lowercase synonym) with
      | some language => if language = key then pure () else throw (.aliasTaken synonym language)
      | none => pure ()

/-- Enters a further name, unless it is the language's own. -/
def enterSynonym (key synonym : String) : Procedure Unit :=
  if Text.lowercase synonym = key then pure ()
  else modify fun g => { g with aliases := g.aliases.put (Text.lowercase synonym) key }

/-- Registers a candidate, step by step. -/
def enroll (candidate : Candidate) (aliases : List String) (replace : Bool) : Procedure Unit :=
  match candidate with
  | .foreign => throw .notARenderer
  | .renderer r =>
    if r.name.isEmpty then throw .noName
    else do
      let key := Text.lowercase r.name
      if (← current).renderers.has key && !replace then pure ()
      else
        (r.aliases ++ aliases).forM (checkSynonym key replace)
        modify fun g => { g with renderers := g.renderers.put key r }
        (r.aliases ++ aliases).forM (enterSynonym key)

def verdict : Option RegistryError → Except RegistryError Unit
  | some e => .error e
  | none => .ok ()

section Steps

variable {α β : Type}

@[simp] theorem on_pure (a : α) (g : Registry) : (pure a : Procedure α).on g = (.ok a, g) := rfl

@[simp] theorem on_throw (e : RegistryError) (g : Registry) :
    (throw e : Procedure α).on g = (.error e, g) := rfl

@[simp] theorem on_modify (f : Registry → Registry) (g : Registry) :
    (modify f : Procedure Unit).on g = (.ok (), f g) := rfl

@[simp] theorem on_current_bind (next : Registry → Procedure β) (g : Registry) :
    (current >>= next).on g = (next g).on g := rfl

/-- A procedure that returned goes on with the registry that it left. -/
theorem on_bind_of_ok {x : Procedure α} {a : α} {g' : Registry} (h : x.on g = (.ok a, g'))
    (next : α → Procedure β) : (x >>= next).on g = (next a).on g' := by
  have run_eq : x.run g = (.ok a, g') := h
  change (ExceptT.bindCont next (x.run g).1) (x.run g).2 = _
  rw [run_eq]
  rfl

/-- A procedure that failed leaves the registry as it is then. -/
theorem on_bind_of_error {x : Procedure α} {g' : Registry} (h : x.on g = (.error e, g'))
    (next : α → Procedure β) : (x >>= next).on g = (.error e, g') := by
  have run_eq : x.run g = (.error e, g') := h
  change (ExceptT.bindCont next (x.run g).1) (x.run g).2 = _
  rw [run_eq]
  rfl

/-- Checking a further name changes nothing, whatever comes of it. -/
theorem checkSynonym_on (g : Registry) (key : String) (replace : Bool) (synonym : String) :
    (checkSynonym key replace synonym).on g =
      (verdict (if replace then none else g.objection? key synonym), g) := by
  cases replace with
  | true => simp [checkSynonym, verdict]
  | false =>
    rw [checkSynonym, objection?, conflict?]
    by_cases own : Text.lowercase synonym = key
    · simp [own, conflict?, verdict]
    · cases known : g.renderers.has (Text.lowercase synonym) with
      | true => simp [own, known, verdict]
      | false =>
        cases leads : g.aliases.get? (Text.lowercase synonym) with
        | none => simp [own, known, leads, conflict?, verdict]
        | some language =>
          by_cases same : language = key <;> simp [own, known, leads, same, conflict?, verdict]

/-- So does checking one further name after the other, up to the first complaint. -/
theorem checkSynonyms_on (g : Registry) (key : String) (replace : Bool) (names : List String) :
    (names.forM (checkSynonym key replace)).on g =
      (verdict (if replace then none else g.conflict? key names), g) := by
  induction names with
  | nil => cases replace <;> rfl
  | cons first rest ih =>
    have step : (first :: rest).forM (checkSynonym key replace) =
        (checkSynonym key replace first >>= fun _ => rest.forM (checkSynonym key replace)) := rfl
    have here := checkSynonym_on g key replace first
    rw [step]
    cases replace with
    | true =>
      rw [on_bind_of_ok here, ih]
      rfl
    | false =>
      rw [conflict?_cons]
      cases objection : g.objection? key first with
      | none =>
        rw [objection] at here
        rw [on_bind_of_ok here, ih]
        rfl
      | some e =>
        rw [objection] at here
        rw [on_bind_of_error here]
        rfl

theorem enterSynonym_on (g : Registry) (key synonym : String) :
    (enterSynonym key synonym).on g =
      (.ok (), { g with aliases := withAliases g.aliases key [synonym] }) := by
  rw [enterSynonym]
  by_cases own : Text.lowercase synonym = key <;> simp [own, withAliases]

/-- Entering further names one after the other is entering them together. -/
theorem enterSynonyms_on (g : Registry) (key : String) (names : List String) :
    (names.forM (enterSynonym key)).on g =
      (.ok (), { g with aliases := withAliases g.aliases key names }) := by
  induction names generalizing g with
  | nil => rfl
  | cons first rest ih =>
    have step : (first :: rest).forM (enterSynonym key) =
        (enterSynonym key first >>= fun _ => rest.forM (enterSynonym key)) := rfl
    rw [step, on_bind_of_ok (enterSynonym_on g key first), ih]
    rfl

/-- Step by step a registration comes to what `register` comes to. -/
theorem enroll_on (g : Registry) (candidate : Candidate) (aliases : List String) (replace : Bool) :
    (enroll candidate aliases replace).on g =
      ((g.register candidate aliases replace).map fun _ => (),
        g.after (.register candidate aliases replace)) := by
  rw [after, attempt]
  cases candidate with
  | foreign => rfl
  | renderer r =>
    rw [enroll, register]
    by_cases unnamed : r.name.isEmpty = true
    · rw [if_pos unnamed, if_pos unnamed]
      rfl
    · rw [if_neg unnamed, if_neg unnamed, on_current_bind]
      dsimp only
      by_cases skipped : (g.renderers.has (Text.lowercase r.name) && !replace) = true
      · rw [if_pos skipped, if_pos skipped]
        rfl
      · rw [if_neg skipped, if_neg skipped]
        have checked := checkSynonyms_on g (Text.lowercase r.name) replace (r.aliases ++ aliases)
        generalize (if replace then none
          else g.conflict? (Text.lowercase r.name) (r.aliases ++ aliases)) = found at checked ⊢
        cases found with
        | some e =>
          rw [on_bind_of_error checked]
          rfl
        | none =>
          rw [on_bind_of_ok checked, on_bind_of_ok (on_modify _ _), enterSynonyms_on]
          rfl

end Steps

/-! ### Refusals -/

/-- What a registration is refused for: the candidate is no renderer or has no name, or it is a new
language that is to replace nothing and one of its further names is taken. -/
def Refused (g : Registry) (aliases : List String) (replace : Bool) : Candidate → Prop
  | .foreign => True
  | .renderer r =>
    r.name = "" ∨
      g.renderers.has (Text.lowercase r.name) = false ∧ replace = false ∧
        ∃ synonym ∈ r.aliases ++ aliases, g.Clashes (Text.lowercase r.name) synonym

/-- The refusals with what they tell. Of several further names that are taken, the first one counts,
those of the renderer coming before those of the call. -/
inductive Refusal (g : Registry) (aliases : List String) (replace : Bool) :
    Candidate → RegistryError → Prop where
  | foreign : Refusal g aliases replace .foreign .notARenderer
  | nameless {r : Renderer} (unnamed : r.name = "") :
    Refusal g aliases replace (.renderer r) .noName
  | clash {r : Renderer} {before after : List String} {synonym : String} {e : RegistryError}
    (named : r.name ≠ "") (new : g.renderers.has (Text.lowercase r.name) = false)
    (kept : replace = false) (names : r.aliases ++ aliases = before ++ synonym :: after)
    (first : ∀ s ∈ before, ¬ g.Clashes (Text.lowercase r.name) s)
    (complaint : g.Complaint (Text.lowercase r.name) synonym e) :
    Refusal g aliases replace (.renderer r) e

section Refusals

variable {candidate : Candidate} {aliases : List String} {replace : Bool}

/-- A conflict of a new language refuses it. -/
theorem Refusal.of_conflict {r : Renderer} (named : r.name ≠ "")
    (new : g.renderers.has (Text.lowercase r.name) = false) (kept : replace = false)
    (conflict : g.conflict? (Text.lowercase r.name) (r.aliases ++ aliases) = some e) :
    g.Refusal aliases replace (.renderer r) e := by
  obtain ⟨before, synonym, after, names, first, complaint⟩ := conflict?_eq_some_iff.mp conflict
  exact .clash named new kept names first complaint

/-- A registration fails with an error exactly when this is the refusal. -/
theorem register_eq_error_iff :
    g.register candidate aliases replace = .error e ↔ g.Refusal aliases replace candidate e := by
  have course := g.registration candidate aliases replace
  generalize g.register candidate aliases replace = result at course
  constructor
  · rintro rfl
    cases course with
    | foreign => exact .foreign
    | nameless unnamed => exact .nameless unnamed
    | refused named new kept conflict => exact .of_conflict named new kept conflict
  · intro refusal
    cases refusal with
    | foreign =>
      cases course
      rfl
    | nameless unnamed =>
      cases course with
      | nameless => rfl
      | skipped named => exact absurd unnamed named
      | refused named => exact absurd unnamed named
      | entered named => exact absurd unnamed named
    | clash named new kept names first complaint =>
      have conflict := conflict?_eq_some_iff.mpr ⟨_, _, _, names, first, complaint⟩
      cases course with
      | nameless unnamed => exact absurd unnamed named
      | skipped _ known => rw [new] at known; cases known
      | refused _ _ _ other => rw [Option.some.inj (other.symm.trans conflict)]
      | entered _ free => rw [(free kept).2] at conflict; cases conflict

/-- There is a refusal exactly for what is to be refused. -/
theorem exists_refusal_iff :
    (∃ e, g.Refusal aliases replace candidate e) ↔ g.Refused aliases replace candidate := by
  constructor
  · rintro ⟨e, refusal⟩
    cases refusal with
    | foreign => exact trivial
    | nameless unnamed => exact .inl unnamed
    | clash _ new kept names _ complaint =>
      refine .inr ⟨new, kept, _, ?_, clashes_iff.mpr ⟨e, complaint⟩⟩
      rw [names]
      simp
  · intro refused
    cases candidate with
    | foreign => exact ⟨_, .foreign⟩
    | renderer r =>
      by_cases unnamed : r.name = ""
      · exact ⟨_, .nameless unnamed⟩
      · obtain ⟨new, kept, synonym, mem, clashes⟩ := refused.resolve_left unnamed
        cases conflict : g.conflict? (Text.lowercase r.name) (r.aliases ++ aliases) with
        | some e => exact ⟨e, .of_conflict unnamed new kept conflict⟩
        | none =>
          have free := conflict?_eq_none_iff.mp conflict synonym mem
          exact absurd clashes (objection?_eq_none_iff_not_clashes.mp free)

/-- Every refusal is of the registry's own kind of fault. -/
theorem Refusal.kind_eq (refusal : g.Refusal aliases replace candidate e) :
    e.fault.kind = .registry := by
  cases refusal with
  | foreign => rfl
  | nameless => rfl
  | clash _ _ _ _ _ complaint => cases complaint <;> rfl

end Refusals

/-- How a registration in place can go. -/
structure Enrolls (g : Registry) (candidate : Candidate) (aliases : List String) (replace : Bool)
    (call : Except RegistryError Unit × Registry) : Prop where
  /-- It fails exactly when it is refused. -/
  fails : (∃ e, call.1 = .error e) ↔ g.Refused aliases replace candidate
  /-- The error is a fault of the registry and tells the refusal. -/
  tells : ∀ e, call.1 = .error e ↔ g.Refusal aliases replace candidate e
  kind : ∀ e, call.1 = .error e → e.fault.kind = .registry
  /-- A renderer with a name is refused for the first of its further names that is taken, and the
  description of the fault names it. -/
  names : ∀ r e, candidate = .renderer r → r.name ≠ "" → call.1 = .error e →
    ∃ before synonym after reason, r.aliases ++ aliases = before ++ synonym :: after ∧
      (∀ s ∈ before, ¬ g.Clashes (Text.lowercase r.name) s) ∧
      g.Clashes (Text.lowercase r.name) synonym ∧
      e.fault.description? = some ("Alias '" ++ synonym ++ "' " ++ reason)
  /-- A registration that fails leaves both dictionaries as they were. -/
  keeps : ∀ e, call.1 = .error e → call.2 = g
  /-- So does one of a language that is there already, unless it is to be replaced. -/
  skips : ∀ r, candidate = .renderer r → r.name ≠ "" →
    g.renderers.has (Text.lowercase r.name) = true → replace = false → call = (.ok (), g)
  /-- It comes to what `register` comes to. -/
  agrees : call.1 = (g.register candidate aliases replace).map fun _ => ()

/-- In any state of a registry, a registration is refused as a whole or goes through: it fails for
the refusals and nothing else, and when it fails, or leaves out a language that is there already, it
has changed nothing. -/
theorem enroll_enrolls (g : Registry) (candidate : Candidate) (aliases : List String)
    (replace : Bool) :
    g.Enrolls candidate aliases replace ((enroll candidate aliases replace).on g) := by
  rw [enroll_on]
  have error_iff : ∀ e, (g.register candidate aliases replace).map (fun _ => ()) = .error e ↔
      g.Refusal aliases replace candidate e := by
    intro e
    rw [← register_eq_error_iff]
    cases g.register candidate aliases replace <;> simp [Except.map]
  refine ⟨?_, error_iff, fun e failed => ((error_iff e).mp failed).kind_eq, ?_, ?_, ?_, rfl⟩
  · simp only [error_iff]
    exact exists_refusal_iff
  · rintro r e rfl named failed
    cases (error_iff e).mp failed with
    | nameless unnamed => exact absurd unnamed named
    | clash _ _ _ names first complaint =>
      obtain ⟨reason, told⟩ := complaint.description?_eq
      exact ⟨_, _, _, reason, names, first, clashes_iff.mpr ⟨e, complaint⟩, told⟩
  · intro e failed
    rw [after, attempt, register_eq_error_iff.mpr ((error_iff e).mp failed)]
  · rintro r rfl named known kept
    have course := g.registration (.renderer r) aliases replace
    rw [after, attempt]
    generalize g.register (.renderer r) aliases replace = result at course ⊢
    cases course with
    | nameless unnamed => exact absurd unnamed named
    | skipped => rfl
    | refused _ new => rw [new] at known; cases known
    | entered _ free => rw [(free kept).1] at known; cases known

end CodeBehind.Registry
