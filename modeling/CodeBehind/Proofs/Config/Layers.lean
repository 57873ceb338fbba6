import CodeBehind.Proofs.Config.Storage
import CodeBehind.Proofs.Json.Names
import CodeBehind.Proofs.Outcome

/-!
Configurations in layers.

A configuration is loaded from the settings of a file, if one is given, and from overrides on top of
them (`load_eq`). Each name is looked up in the overrides, then in the file, then in the standard
configuration (`get?_layers`). Then the further settings are put into the value for these, and what
is found under the other names stays (`get?_collect`).
-/

namespace CodeBehind.Config

variable {nesting : Nat} {disk : Disk} {path? : Option String}
  {fromFile overrides given : Assoc Value} {name : String}

/-! ### The layers -/

def fileSettings (nesting : Nat) (disk : Disk) (path? : Option String) :
    Except Fault (Assoc Value) :=
  match path? with
  | none | some "" => .ok []
  | some path => readSettings nesting disk path

theorem fileSettings_of_named (nesting : Nat) (disk : Disk) {path : String} (named : path ≠ "") :
    fileSettings nesting disk (some path) = readSettings nesting disk path := by
  unfold fileSettings
  split
  · next absent => cases absent
  · next empty => exact absurd (Option.some.inj empty) named
  · next same =>
    cases same
    rfl

/-- Loading is reading the file, if there is one, and then putting the overrides on top. -/
theorem load_eq (nesting : Nat) (disk : Disk) (path? : Option String) (overrides : Assoc Value) :
    load nesting disk path? overrides =
      fileSettings nesting disk path? >>= fun settings => layered settings overrides := by
  cases path? with
  | none => rfl
  | some path =>
    by_cases named : path = ""
    · rw [named]
      rfl
    · rw [load_of_named disk named, fileSettings_of_named nesting disk named]

/-! ### The file -/

/-- The file at a path is named as a configuration file and can be read as these octets. -/
structure Holds (disk : Disk) (path : String) (octets : List UInt8) : Prop where
  named : Text.lowercase (Path.extension (Path.tidy path)) = fileExtension
  held : disk.read (Path.tidy path) = .ok octets

variable {path : String} {octets : List UInt8}

/-- Reading a file that is there and has the right name is reading its octets. -/
theorem readSettings_of_holds (h : Holds disk path octets) :
    readSettings nesting disk path = parse nesting (Path.tidy path) octets := by
  rw [readSettings]
  simp only [Disk.exists_of_read h.held, h.held, Except.mapError, bind, Except.bind, h.named]
  rfl

/-- The settings come from octets that the path holds, unless the path is too long to ask about; all
else is a configuration fault. -/
theorem readSettings_cases (nesting : Nat) (disk : Disk) (path : String) :
    (∃ octets, Holds disk path octets) ∨
      disk.exists? (Path.tidy path) = .error .nameTooLong ∧
        readSettings nesting disk path = .error (AccessError.nameTooLong.fault (Path.tidy path)) ∨
      ∃ text, readSettings nesting disk path = .error (.config text) := by
  cases there : disk.exists? (Path.tidy path) with
  | error e =>
    obtain rfl := Disk.eq_nameTooLong_of_exists? there
    refine .inr (.inl ⟨rfl, ?_⟩)
    rw [readSettings]
    simp only [there]
    rfl
  | ok found =>
    cases found with
    | false =>
      refine .inr (.inr ⟨"Configuration file not found: " ++ Path.tidy path, ?_⟩)
      rw [readSettings]
      simp only [there]
      rfl
    | true =>
      by_cases named : Text.lowercase (Path.extension (Path.tidy path)) = fileExtension
      · cases held : disk.read (Path.tidy path) with
        | ok octets => exact .inl ⟨octets, named, held⟩
        | error e =>
          have system := Disk.isSystem_of_read there held
          refine .inr (.inr ⟨"Failed to load configuration file " ++ Path.tidy path ++ ": " ++
            (e.fault (Path.tidy path)).description?.getD "", ?_⟩)
          rw [readSettings]
          simp only [there, held, Except.mapError, bind, Except.bind, named, refused, system]
          rfl
      · refine .inr (.inr ⟨"Configuration file must be JSON: " ++ Path.tidy path, ?_⟩)
        rw [readSettings]
        simp only [there, Except.mapError, bind, Except.bind]
        rw [if_neg (by decide), if_pos named]
        rfl

def onlyFile (octets : List UInt8) : Disk where
  files := [⟨["c.json"], octets⟩]

theorem holds_onlyFile (octets : List UInt8) : Holds (onlyFile octets) "c.json" octets where
  named := by decide +kernel
  held := by rfl

/-- The names in the settings of a file are distinct. -/
theorem nodup_of_parse {settings : Assoc Value} (h : parse nesting path octets = .ok settings) :
    settings.keys.Nodup := by
  obtain ⟨text, -, read⟩ := Outcome.bind_eq_ok.mp h
  split at read
  · next found =>
    cases read
    exact Json.nodup_of_read found
  all_goals cases read

/-- A file gives no setting twice. -/
theorem nodup_of_fileSettings (h : fileSettings nesting disk path? = .ok fromFile) :
    fromFile.keys.Nodup := by
  unfold fileSettings at h
  split at h
  · cases h
    exact List.nodup_nil
  · cases h
    exact List.nodup_nil
  · next path _ =>
    rcases readSettings_cases nesting disk path with ⟨octets, holds⟩ | ⟨-, failed⟩ | ⟨text, failed⟩
    · rw [readSettings_of_holds holds] at h
      exact nodup_of_parse h
    · cases failed.symm.trans h
    · cases failed.symm.trans h

/-- A configuration has the values that were given, and else those of the standard one. -/
theorem get?_settings_ofFields (given : Assoc Value) :
    ∀ name ∈ fields, (ofFields given).settings.get? name =
      (given.get? name).or (standard.settings.get? name) := by
  have each : ∀ (value? : Option Value) (v : Value), some (value?.getD v) = value?.or (some v) := by
    intro value? v
    cases value? <;> rfl
  simp only [fields, textFields, List.cons_append, List.nil_append, List.forall_mem_cons]
  exact ⟨each _ _, each _ _, each _ _, each _ _, each _ _, List.forall_mem_nil _⟩

/-! ### Known and further settings -/

def knownOf (given : Assoc Value) : Assoc Value :=
  given.filter (isField ·.1)

def furtherOf (given : Assoc Value) : Assoc Value :=
  given.filter (!isField ·.1)

/-- Collecting leaves the known settings where they are and puts the others into one. -/
theorem collect_eq (given : Assoc Value) :
    collect given =
      if (furtherOf given).isEmpty then .ok (knownOf given)
      else
        extend (basis ((knownOf given).get? customField)) (furtherOf given) >>=
          fun v => .ok ((knownOf given).put customField v) :=
  rfl

theorem get?_knownOf (distinct : given.keys.Nodup) (name : String) :
    (knownOf given).get? name = if isField name then given.get? name else none := by
  rw [knownOf, Assoc.get?_filter distinct]
  cases field : isField name <;> cases given.get? name <;> simp [field]

theorem get?_furtherOf (distinct : given.keys.Nodup) (name : String) :
    (furtherOf given).get? name = if isField name then none else given.get? name := by
  rw [furtherOf, Assoc.get?_filter distinct]
  cases field : isField name <;> cases given.get? name <;> simp [field]

theorem knownOf_of_furtherOf_eq_nil (none : furtherOf given = []) : knownOf given = given := by
  rw [knownOf, List.filter_eq_self]
  simpa using List.filter_eq_nil_iff.mp none

/-! ### What is found -/

/-- What is said under a name: what the overrides say or else what the file says. -/
def said? (fromFile overrides : Assoc Value) (name : String) : Option Value :=
  (overrides.get? name).or (fromFile.get? name)

/-- Some name that is said is not that of a setting. -/
def HasFurther (fromFile overrides : Assoc Value) : Prop :=
  ∃ name, isField name = false ∧ (said? fromFile overrides name).isSome = true

/-- The settings of a file and overrides on top of the standard ones. -/
def layers (fromFile overrides : Assoc Value) : Assoc Value :=
  (standard.settings.merge fromFile).merge overrides

/-- Overrides on top of a file are one dictionary of settings. -/
theorem layered_eq (fromFile overrides : Assoc Value) :
    layered fromFile overrides = ofSettings (layers fromFile overrides) :=
  rfl

theorem nodup_layers (fromFile overrides : Assoc Value) :
    (layers fromFile overrides).keys.Nodup := by
  apply Assoc.nodup_merge
  apply Assoc.nodup_merge
  rw [keys_settings]
  decide

theorem isField_of_standard {v : Value} (h : standard.settings.get? name = some v) :
    isField name = true := by
  rw [isField_iff, ← keys_settings standard, ← Assoc.has_iff_mem_keys]
  exact Assoc.has_iff.mpr ⟨v, h⟩

section Distinct

variable (distinct : overrides.keys.Nodup) (distinct' : fromFile.keys.Nodup)
include distinct distinct'

/-- A name means what the overrides say, else what the file says, else what is standard. -/
theorem get?_layers (name : String) :
    (layers fromFile overrides).get? name =
      (said? fromFile overrides name).or (standard.settings.get? name) := by
  rw [layers, Assoc.get?_merge distinct, Assoc.get?_merge distinct', said?, Option.or_assoc]

/-- The further settings are what is said under names that are not those of settings. -/
theorem get?_further (name : String) :
    (furtherOf (layers fromFile overrides)).get? name =
      if isField name then none else said? fromFile overrides name := by
  rw [get?_furtherOf (nodup_layers _ _)]
  cases field : isField name with
  | true => rfl
  | false =>
    have unknown : standard.settings.get? name = none := by
      cases found : standard.settings.get? name with
      | none => rfl
      | some v => cases (isField_of_standard found).symm.trans field
    rw [get?_layers distinct distinct', unknown, Option.or_none]

/-- Some name that is said is unknown if unknown ones are left over. -/
theorem hasFurther_iff :
    HasFurther fromFile overrides ↔ furtherOf (layers fromFile overrides) ≠ [] := by
  rw [ne_eq, Assoc.eq_nil_iff, not_forall]
  refine exists_congr fun name => ?_
  rw [get?_further distinct distinct', ← Option.ne_none_iff_isSome]
  cases isField name <;> simp

/-- The further settings are put into what was said under the name for them, unless it is void. -/
theorem basis_layers :
    basis ((knownOf (layers fromFile overrides)).get? customField) =
      basis (said? fromFile overrides customField) := by
  have field : isField customField = true := rfl
  rw [get?_knownOf (nodup_layers _ _), if_pos field, get?_layers distinct distinct']
  cases said? fromFile overrides customField <;> rfl

theorem collect_of_no_further (none : ¬ HasFurther fromFile overrides) :
    collect (layers fromFile overrides) = .ok (layers fromFile overrides) := by
  have empty := not_not.mp (mt (hasFurther_iff distinct distinct').mpr none)
  rw [collect_eq, empty, knownOf_of_furtherOf_eq_nil empty]
  rfl

theorem collect_of_further (further : HasFurther fromFile overrides) :
    collect (layers fromFile overrides) =
      extend (basis (said? fromFile overrides customField))
          (furtherOf (layers fromFile overrides)) >>=
        fun v => .ok ((knownOf (layers fromFile overrides)).put customField v) := by
  have some_further := (hasFurther_iff distinct distinct').mp further
  rw [collect_eq, if_neg (by simpa using some_further), basis_layers distinct distinct']

section Collected

variable {collected : Assoc Value} (h : collect (layers fromFile overrides) = .ok collected)
include h

/-- Collecting changes nothing, or puts the further settings into one value. -/
theorem collect_layers_cases :
    ¬ HasFurther fromFile overrides ∧ collected = layers fromFile overrides ∨
      HasFurther fromFile overrides ∧ ∃ v,
        extend (basis (said? fromFile overrides customField))
          (furtherOf (layers fromFile overrides)) = .ok v ∧
        collected = (knownOf (layers fromFile overrides)).put customField v := by
  by_cases further : HasFurther fromFile overrides
  · rw [collect_of_further distinct distinct' further] at h
    obtain ⟨v, extended, same⟩ := Outcome.bind_eq_ok.mp h
    exact .inr ⟨further, v, extended, (Except.ok.inj same).symm⟩
  · rw [collect_of_no_further distinct distinct' further] at h
    exact .inl ⟨further, (Except.ok.inj h).symm⟩

/-- Collecting changes no setting but the one for further settings. -/
theorem get?_collect (field : isField name = true) (other : name ≠ customField) :
    collected.get? name = (layers fromFile overrides).get? name := by
  rcases collect_layers_cases distinct distinct' h with ⟨-, rfl⟩ | ⟨-, v, -, rfl⟩
  · rfl
  · rw [Assoc.get?_put, if_neg (Ne.symm other), get?_knownOf (nodup_layers _ _), if_pos field]

end Collected

end Distinct

end CodeBehind.Config
