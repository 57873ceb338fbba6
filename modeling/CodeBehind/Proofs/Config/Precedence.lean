import CodeBehind.Proofs.Config.Layers

/-!
Which layer of a configuration counts.

A text setting is what the overrides say, or else the file, or else the standard configuration
(`get?_of_layered`). A further setting may stand in four places: by itself or inside the value for
further settings, in the overrides or in the file. One that stands by itself counts before all that
stand inside, and of the values for further settings only one is used (`custom_of_layered`). So an
override counts unless it stands inside and the file has another value by itself.
-/

namespace CodeBehind.Config

variable {nesting : Nat} {disk : Disk} {path? : Option String} {fromFile overrides : Assoc Value}
  {c : Config}

/-! ### The value for further settings -/

def inside (custom? : Option Value) : Assoc Value :=
  match custom? with
  | some (.object fields) => fields
  | _ => []

/-- The value for further settings is an object if there is one. -/
def IsNested (custom? : Option Value) : Prop :=
  ∀ v, custom? = some v → ∃ fields, v = .object fields

theorem IsNested.or {custom? other? : Option Value} (h : IsNested custom?) (h' : IsNested other?) :
    IsNested (custom?.or other?) := by
  cases custom? with
  | none => exact h'
  | some v => exact h

theorem IsNested.or_standard {custom? : Option Value} (h : IsNested custom?) :
    custom?.or (some (.object [])) = some (.object (inside custom?)) := by
  cases custom? with
  | none => rfl
  | some v =>
    obtain ⟨fields, rfl⟩ := h v rfl
    rfl

/-- The unknown settings are put on top of those in the value for further settings. -/
theorem IsNested.basis_eq {custom? : Option Value} (h : IsNested custom?) :
    basis custom? = .object (inside custom?) := by
  cases custom? with
  | none => rfl
  | some v =>
    obtain ⟨fields, rfl⟩ := h v rfl
    cases fields <;> rfl

section Layered

variable (distinct : overrides.keys.Nodup) (distinct' : fromFile.keys.Nodup)
  (loaded : layered fromFile overrides = .ok c)
include distinct distinct' loaded

/-- A setting is what the overrides say, else what the file says, else the standard one. -/
theorem get?_of_layered :
    ∀ name ∈ textFields, c.settings.get? name =
      (said? fromFile overrides name).or (standard.settings.get? name) := by
  intro name mem
  obtain ⟨collected, collected_eq, rfl⟩ := ofSettings_eq_ok loaded
  have field : name ∈ fields := List.mem_append_left _ mem
  have other : name ≠ customField := by
    rintro rfl
    revert mem
    decide
  rw [get?_settings_ofFields _ name field,
    get?_collect distinct distinct' collected_eq (isField_iff.mpr field) other,
    get?_layers distinct distinct', Option.or_assoc, Option.or_self]

/-- A further setting is what is said under its own name, or else what stands inside the value for
further settings. -/
theorem custom_of_layered (nested : IsNested (said? fromFile overrides customField)) :
    ∃ further : Assoc Value, c.custom = .object further ∧ ∀ name, isField name = false →
      further.get? name = (said? fromFile overrides name).or
        ((inside (said? fromFile overrides customField)).get? name) := by
  obtain ⟨collected, collected_eq, rfl⟩ := ofSettings_eq_ok loaded
  rcases collect_layers_cases distinct distinct' collected_eq with
    ⟨none, rfl⟩ | ⟨-, v, extended, rfl⟩
  · refine ⟨inside (said? fromFile overrides customField), ?_, ?_⟩
    · have empty : standard.settings.get? customField = some (.object []) := rfl
      have found := get?_layers distinct distinct' customField
      rw [empty, nested.or_standard] at found
      rw [ofFields, found]
      rfl
    · intro name field
      have unsaid : said? fromFile overrides name = Option.none := by
        by_contra some_said
        exact none ⟨name, field, Option.ne_none_iff_isSome.mp some_said⟩
      rw [unsaid, Option.none_or]
  · rw [nested.basis_eq] at extended
    cases extended
    refine ⟨(inside (said? fromFile overrides customField)).merge
      (furtherOf (layers fromFile overrides)), ?_, ?_⟩
    · rw [ofFields]
      dsimp only
      rw [Assoc.get?_put, if_pos rfl]
      rfl
    · intro name field
      have distinct_further : (furtherOf (layers fromFile overrides)).keys.Nodup :=
        Assoc.nodup_filter (nodup_layers _ _) _
      rw [Assoc.get?_merge distinct_further, get?_further distinct distinct', field]
      rfl

end Layered

/-! ### Overrides -/

/-- What the overrides say of a further setting, by itself or else inside their value for further
settings. -/
def overriding? (overrides : Assoc Value) (name : String) : Option Value :=
  (overrides.get? name).or ((inside (overrides.get? customField)).get? name)

/-- A text setting is taken from the overrides, or else from the file, or else from the standard
configuration. A further setting is taken from the overrides where it stands by itself, or else
from the file where it stands by itself, or else from inside the value for further settings, which
is that of the overrides if they have one. So what the overrides say of a further setting counts
exactly if they say it by itself or the file does not say otherwise by itself; where they say
nothing, the file counts where it says something by itself. -/
theorem load_overridden (file : fileSettings nesting disk path? = .ok fromFile)
    (distinct : overrides.keys.Nodup) (nestedFile : IsNested (fromFile.get? customField))
    (nestedOverrides : IsNested (overrides.get? customField))
    (loaded : load nesting disk path? overrides = .ok c) :
    (∀ name ∈ textFields, c.settings.get? name =
      (overrides.get? name).or ((fromFile.get? name).or (standard.settings.get? name))) ∧
    ∃ further : Assoc Value, c.custom = .object further ∧ ∀ name, isField name = false →
      further.get? name =
        (overrides.get? name).or ((fromFile.get? name).or
          ((inside ((overrides.get? customField).or (fromFile.get? customField))).get? name)) ∧
      (∀ v, overriding? overrides name = some v →
        (further.get? name = some v ↔
          (overrides.get? name).isSome = true ∨ ∀ w, fromFile.get? name = some w → w = v)) ∧
      (overriding? overrides name = none → ∀ w, fromFile.get? name = some w →
        further.get? name = some w) := by
  rw [load_eq, file] at loaded
  have distinct' := nodup_of_fileSettings file
  constructor
  · intro name mem
    rw [get?_of_layered distinct distinct' loaded name mem, said?, Option.or_assoc]
  · obtain ⟨further, custom, found⟩ :=
      custom_of_layered distinct distinct' loaded (nestedOverrides.or nestedFile)
    refine ⟨further, custom, fun name field => ?_⟩
    have places := found name field
    rw [said?, said?, Option.or_assoc] at places
    refine ⟨places, ?_, ?_⟩
    · intro v overriding
      rw [places]
      rw [overriding?] at overriding
      cases direct : overrides.get? name with
      | some u => simpa [direct] using overriding
      | none =>
        rw [direct, Option.none_or] at overriding
        -- the value for further settings is that of the overrides, since something stands in it
        have used : inside ((overrides.get? customField).or (fromFile.get? customField)) =
            inside (overrides.get? customField) := by
          cases held : overrides.get? customField with
          | none =>
            rw [held] at overriding
            cases overriding
          | some u => rfl
        rw [used, overriding]
        cases fromFile.get? name <;> simp
    · intro silent w byItself
      rw [overriding?, Option.or_eq_none_iff] at silent
      rw [places, silent.1, byItself]
      rfl

/-! ### An override that does not count -/

def editorDisk : Disk :=
  onlyFile (Text.Utf8.encode (Json.print (.object [("editor", .text "rider")])).toList)

/-- Overrides with the same further setting inside their value for these. -/
def editorOverrides : Assoc Value :=
  [("custom", .object [("editor", .text "vs")])]

theorem fileSettings_editorDisk :
    fileSettings usualNesting editorDisk (some "c.json") = .ok [("editor", .text "rider")] := by
  have named : "c.json" ≠ "" := by decide
  rw [fileSettings_of_named _ _ named, editorDisk, readSettings_of_holds (holds_onlyFile _)]
  apply parse_encode
  exact Json.readsBack_of_numbers (by decide) (by decide) (List.forall_mem_nil _)

/-- The file wins over what stands inside the overrides' value for further settings. -/
theorem load_editorDisk :
    load usualNesting editorDisk (some "c.json") editorOverrides =
      .ok { standard with custom := .object [("editor", .text "rider")] } := by
  rw [load_eq, fileSettings_editorDisk]
  rfl

theorem isNested_editorOverrides : IsNested (editorOverrides.get? customField) := by
  rintro v ⟨⟩
  exact ⟨_, rfl⟩

theorem load_overridden_editor :
    ∃ c, load usualNesting editorDisk (some "c.json") editorOverrides = .ok c ∧
      c.settings.get? "framework_name" = some (.text "SpecFlow") ∧
      ∃ further : Assoc Value, c.custom = .object further ∧
        further.get? "editor" = some (.text "rider") := by
  obtain ⟨texts, further, custom, found⟩ := load_overridden fileSettings_editorDisk (by decide)
    (fun _ missing => by cases missing) isNested_editorOverrides load_editorDisk
  refine ⟨_, load_editorDisk, texts "framework_name" (by decide), further, custom, ?_⟩
  exact (found "editor" (by decide)).1

/-- Overrides do not always win for a further setting. -/
theorem not_forall_overridden :
    ¬ ∀ (nesting : Nat) (disk : Disk) (path? : Option String) (fromFile overrides : Assoc Value)
        (c : Config) (name : String) (v : Value),
      fileSettings nesting disk path? = .ok fromFile → overrides.keys.Nodup →
      IsNested (fromFile.get? customField) → IsNested (overrides.get? customField) →
      load nesting disk path? overrides = .ok c → isField name = false →
      overriding? overrides name = some v →
      ∃ further : Assoc Value, c.custom = .object further ∧ further.get? name = some v := by
  intro overridden
  obtain ⟨further, custom, found⟩ := overridden _ editorDisk (some "c.json") _ editorOverrides _
    "editor" (.text "vs") fileSettings_editorDisk (by decide) (fun _ missing => by cases missing)
    isNested_editorOverrides load_editorDisk (by decide) rfl
  cases custom
  have differ : "rider" ≠ "vs" := by decide
  exact differ (Value.text.inj (Option.some.inj found))

end CodeBehind.Config
