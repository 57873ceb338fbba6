import CodeBehind.Proofs.Config.Layers

/-!
What loading a configuration comes to.

A configuration that is loaded should have texts for its four settings, one of the line endings, and
a dictionary of further settings (`IsAdmissible`), and all trouble should be a configuration fault
(`IsProper`). The checks see to the four settings (`checked_eq_ok_iff`). They do not look at the
value for further settings, nor is all trouble with a file taken for a configuration fault.
`FileLapse` and `SettingsLapse` list these cases, and `load_isProper_iff` says that there are no
others.
-/

namespace CodeBehind

/-! ### Faults of dictionaries -/

namespace Fault

def IsBuiltin (f : Fault) : Prop :=
  f.kind.home = "builtins"

theorem IsBuiltin.kind_ne {f : Fault} (h : IsBuiltin f) : f.kind ≠ .config := by
  have apart : "builtins" ≠ FaultKind.config.home := by decide +kernel
  intro same
  rw [IsBuiltin, same] at h
  exact apart h.symm

end Fault

namespace Entries

open Fault (IsBuiltin)

variable {v : Value} {f : Fault}

theorem isBuiltin_of_checkKey (h : checkKey v = .error f) : IsBuiltin f := by
  unfold checkKey at h
  split at h <;> cases h
  all_goals rfl

theorem isBuiltin_of_pair {i : Nat} (h : pair i v = .error f) : IsBuiltin f := by
  unfold pair at h
  split at h
  · next key x _ =>
    rcases Outcome.bind_eq_error.mp h with bad | ⟨_, -, done⟩
    · exact isBuiltin_of_checkKey bad
    · cases done
  · cases h
    rfl
  · cases h
    rfl

theorem isBuiltin_of_pairs {i : Nat} {vs : List Value} (h : pairs i vs = .error f) :
    IsBuiltin f := by
  induction vs generalizing i with
  | nil => cases h
  | cons v rest ih =>
    rcases Outcome.bind_eq_error.mp h with here | ⟨entry, -, h⟩
    · exact isBuiltin_of_pair here
    · rcases Outcome.bind_eq_error.mp h with later | ⟨_, -, done⟩
      · exact ih later
      · cases done

/-- What fails in making a dictionary fails with a built-in fault. -/
theorem isBuiltin_of_ofValue (h : ofValue v = .error f) : IsBuiltin f := by
  unfold ofValue at h
  split at h
  · cases h
  · cases h
  · split at h
    · rcases Outcome.bind_eq_error.mp h with bad | ⟨_, -, done⟩
      · exact isBuiltin_of_pairs bad
      · cases done
    · cases h
      rfl

end Entries

namespace Config

variable {nesting : Nat} {disk : Disk} {path? : Option String} {path : String}
  {fromFile overrides given : Assoc Value} {f : Fault}

/-! ### The file -/

/-- A text of JSON is beyond what is read: a number in it has too many digits, or its brackets nest
too deeply. -/
inductive IsBeyond : Json.Cause → Prop where
  | digits (count : Nat) : IsBeyond (.tooManyDigits count)
  | nesting (container : String) : IsBeyond (.tooDeep container)

/-- Trouble with a file that is no configuration fault. -/
inductive FileLapse (nesting : Nat) (disk : Disk) (path : String) : Prop where
  /-- The path is too long to ask whether anything is there. -/
  | tooLong (refused : disk.exists? (Path.tidy path) = .error .nameTooLong)
  /-- The file is not UTF-8. -/
  | undecodable {octets : List UInt8} {e : Text.Utf8.DecodeError} (holds : Holds disk path octets)
    (refused : Text.Utf8.decode octets = .error e)
  /-- The text in the file is beyond what is read. -/
  | beyond {octets : List UInt8} {text before : List Char} {cause : Json.Cause}
    (holds : Holds disk path octets) (decoded : Text.Utf8.decode octets = .ok text)
    (refused : Json.read nesting (Text.unifyBreaks text) = .error ⟨cause, before⟩)
    (isBeyond : IsBeyond cause)

theorem isBuiltin_of_tooLong (path : String) :
    (AccessError.nameTooLong.fault path).IsBuiltin :=
  rfl

/-- Settings in octets are refused with a configuration fault, unless the octets are no text or the
text is beyond what is read. -/
theorem parse_error_iff {octets : List UInt8} :
    (∃ f, parse nesting path octets = .error f ∧ f.kind ≠ .config) ↔
      (∃ e, Text.Utf8.decode octets = .error e) ∨
        ∃ text cause before, Text.Utf8.decode octets = .ok text ∧
          Json.read nesting (Text.unifyBreaks text) = .error ⟨cause, before⟩ ∧ IsBeyond cause := by
  constructor
  · rintro ⟨f, failed, kind⟩
    rcases Outcome.bind_eq_error.mp failed with undecoded | ⟨text, decoded, failed⟩
    · obtain ⟨e, refused, -⟩ := Outcome.mapError_eq_error.mp undecoded
      exact .inl ⟨e, refused⟩
    · have decoded := Outcome.mapError_eq_ok.mp decoded
      split at failed
      · cases failed
      · cases failed
        exact absurd rfl kind
      · next count before refused =>
        exact .inr ⟨text, _, before, decoded, refused, .digits count⟩
      · next container before refused =>
        exact .inr ⟨text, _, before, decoded, refused, .nesting container⟩
      · cases failed
        exact absurd rfl kind
  · rintro (⟨e, refused⟩ | ⟨text, cause, before, decoded, refused, isBeyond⟩)
    · refine ⟨.builtin "UnicodeDecodeError" e.message, ?_, Fault.IsBuiltin.kind_ne rfl⟩
      rw [parse, refused]
      rfl
    · rw [parse, decoded]
      simp only [Except.mapError, bind, Except.bind, refused]
      cases isBeyond with
      | digits count => exact ⟨_, rfl, Fault.IsBuiltin.kind_ne rfl⟩
      | nesting container => exact ⟨_, rfl, Fault.IsBuiltin.kind_ne rfl⟩

/-- The trouble with a file that is no configuration fault is that of the list. -/
theorem fileLapse_iff : FileLapse nesting disk path ↔
    ∃ f, readSettings nesting disk path = .error f ∧ f.kind ≠ .config := by
  constructor
  · intro lapse
    cases lapse with
    | tooLong refused =>
      refine ⟨AccessError.nameTooLong.fault (Path.tidy path), ?_, (isBuiltin_of_tooLong _).kind_ne⟩
      rw [readSettings]
      simp only [refused]
      rfl
    | undecodable holds refused =>
      rw [readSettings_of_holds holds, parse_error_iff]
      exact .inl ⟨_, refused⟩
    | beyond holds decoded refused isBeyond =>
      rw [readSettings_of_holds holds, parse_error_iff]
      exact .inr ⟨_, _, _, decoded, refused, isBeyond⟩
  · rintro ⟨f, failed, kind⟩
    rcases readSettings_cases nesting disk path with
      ⟨octets, holds⟩ | ⟨refused, -⟩ | ⟨text, other⟩
    · rw [readSettings_of_holds holds] at failed
      rcases parse_error_iff.mp ⟨f, failed, kind⟩ with
        ⟨e, refused⟩ | ⟨text, cause, before, decoded, refused, isBeyond⟩
      · exact .undecodable holds refused
      · exact .beyond holds decoded refused isBeyond
    · exact .tooLong refused
    · cases failed.symm.trans other
      exact absurd rfl kind

/-- However deeply brackets may nest, there is a file in which they nest too deeply. -/
theorem fileLapse_brackets (nesting : Nat) :
    FileLapse nesting (onlyFile (Text.Utf8.encode (List.replicate (nesting + 1) '[')))
      "c.json" := by
  have unbroken : '\r' ∉ List.replicate (nesting + 1) '[' := by
    intro mem
    cases List.eq_of_mem_replicate mem
  obtain ⟨before, refused⟩ := Json.read_brackets nesting
  rw [← Text.unifyBreaks_of_not_mem unbroken] at refused
  exact .beyond (holds_onlyFile _) (Text.Utf8.decode_encode _) refused (.nesting "array")

/-! ### The checks -/

/-- Settings, by what is found under their names, with texts for the four and one of the line
endings. -/
structure IsValid (found : String → Option Value) : Prop where
  texts : ∀ name ∈ textFields, ∀ v, found name = some v → ∃ s, v = .text s
  lineEnding : ∀ s, found "line_ending" = some (.text s) → s ∈ lineEndings

/-- The checks that collected settings have to pass. -/
def checked (given : Assoc Value) : Except Fault Unit := do
  textFields.forM (checkText given)
  checkLineEnding given

/-- A configuration is made of settings that were collected and then checked. -/
theorem ofSettings_eq (given : Assoc Value) :
    ofSettings given =
      collect given >>= fun collected =>
        checked collected >>= fun _ => .ok (ofFields collected) := by
  rw [ofSettings]
  cases collect given with
  | error f => rfl
  | ok collected =>
    simp only [checked, bind, Except.bind]
    cases textFields.forM (checkText collected) <;> rfl

/-- A setting passes the check for texts unless it is given and no text. -/
theorem checkText_eq_ok_iff {name : String} :
    checkText given name = .ok () ↔ ∀ v, given.get? name = some v → ∃ s, v = .text s := by
  rw [checkText]
  split
  · next none => simp [none]
  · next s found => simp [found]
  · next v other found => simpa [found] using other

/-- A line ending passes its check unless it is a text and not one of those that there are. -/
theorem checkLineEnding_eq_ok_iff :
    checkLineEnding given = .ok () ↔
      ∀ s, given.get? "line_ending" = some (.text s) → s ∈ lineEndings := by
  rw [checkLineEnding]
  split
  · next s found => simp [found]
  · next other => simpa using fun s found => absurd found (other s)

/-- The checks pass exactly on valid settings. -/
theorem checked_eq_ok_iff : checked given = .ok () ↔ IsValid given.get? := by
  have both : checked given = .ok () ↔ textFields.forM (checkText given) = .ok () ∧
      checkLineEnding given = .ok () := by
    rw [checked, Outcome.bind_eq_ok]
    constructor
    · rintro ⟨⟨⟩, texts, line⟩
      exact ⟨texts, line⟩
    · rintro ⟨texts, line⟩
      exact ⟨(), texts, line⟩
  rw [both, Outcome.forM_eq_ok, checkLineEnding_eq_ok_iff]
  simp only [checkText_eq_ok_iff]
  exact ⟨fun h => ⟨h.1, h.2⟩, fun h => ⟨h.1, h.2⟩⟩

/-- A check that fails is a configuration fault. -/
theorem kind_of_checked (h : checked given = .error f) : f.kind = .config := by
  rcases Outcome.bind_eq_error.mp h with texts | ⟨_, -, line⟩
  · obtain ⟨name, -, failed⟩ := Outcome.exists_of_forM texts
    unfold checkText at failed
    split at failed <;> cases failed
    rfl
  · unfold checkLineEnding at line
    split at line
    · split at line <;> cases line
      rfl
    · cases line

/-! ### The configuration -/

/-- The four settings are texts, the line ending is one of those that there are, and the further
settings are a dictionary. -/
structure IsAdmissible (c : Config) : Prop where
  frameworkName : ∃ s, c.frameworkName = .text s
  frameworkPackage : ∃ s, c.frameworkPackage = .text s
  documentationUrl : ∃ s, c.documentationUrl = .text s
  lineEnding : ∃ s ∈ lineEndings, c.lineEnding = .text s
  custom : ∃ entries, c.custom.entries? = some entries

/-- Loading fails with a configuration fault or gives an admissible configuration. -/
def IsProper (loaded : Except Fault Config) : Prop :=
  match loaded with
  | .error f => f.kind = .config
  | .ok c => c.IsAdmissible

/-- A bind is proper unless its first step fails improperly or the rest is improper. -/
theorem isProper_bind {α : Type} {x : Except Fault α} {next : α → Except Fault Config} :
    IsProper (x >>= next) ↔
      (∀ f, x = .error f → f.kind = .config) ∧ ∀ a, x = .ok a → IsProper (next a) := by
  cases x with
  | error f =>
    constructor
    · intro kind
      constructor
      · rintro _ ⟨⟩
        exact kind
      · intro _ done
        cases done
    · exact fun h => h.1 f rfl
  | ok a =>
    constructor
    · intro proper
      constructor
      · intro _ failed
        cases failed
      · rintro _ ⟨⟩
        exact proper
    · exact fun h => h.2 a rfl

theorem IsValid.exists_text {found : String → Option Value} (h : IsValid found) {name : String}
    (mem : name ∈ textFields) (usual : String) :
    ∃ s, (found name).getD (.text usual) = .text s := by
  cases said : found name with
  | none => exact ⟨usual, rfl⟩
  | some v => exact h.texts name mem v said

theorem IsValid.exists_ending {found : String → Option Value} (h : IsValid found) :
    ∃ s ∈ lineEndings, (found "line_ending").getD (.text "\n") = .text s := by
  cases said : found "line_ending" with
  | none => exact ⟨"\n", by decide, rfl⟩
  | some v =>
    obtain ⟨s, rfl⟩ := h.texts "line_ending" (by decide) v said
    exact ⟨s, h.lineEnding s said, rfl⟩

/-- Of the configurations from valid settings, those are admissible whose further settings are a
dictionary. -/
theorem isAdmissible_ofFields (h : IsValid given.get?) :
    (ofFields given).IsAdmissible ↔ ∃ entries, (ofFields given).custom.entries? = some entries := by
  constructor
  · exact fun admissible => admissible.custom
  · intro custom
    exact {
      frameworkName := h.exists_text (by decide) _
      frameworkPackage := h.exists_text (by decide) _
      documentationUrl := h.exists_text (by decide) _
      lineEnding := h.exists_ending
      custom := custom }

/-- Settings that were collected come to something proper unless they are valid and their value for
further settings is no dictionary. -/
theorem isProper_checked :
    IsProper (checked given >>= fun _ => .ok (ofFields given)) ↔
      (IsValid given.get? → ∃ entries, (ofFields given).custom.entries? = some entries) := by
  rw [isProper_bind]
  constructor
  · rintro ⟨-, admissible⟩ valid
    exact (admissible () (checked_eq_ok_iff.mpr valid)).custom
  · intro custom
    refine ⟨fun f failed => kind_of_checked failed, fun _ passed => ?_⟩
    have valid := checked_eq_ok_iff.mp passed
    exact (isAdmissible_ofFields valid).mpr (custom valid)

theorem exists_text_of_standard :
    ∀ name ∈ textFields, ∃ s, standard.settings.get? name = some (.text s) := by
  simp only [textFields, List.forall_mem_cons]
  exact ⟨⟨_, rfl⟩, ⟨_, rfl⟩, ⟨_, rfl⟩, ⟨_, rfl⟩, List.forall_mem_nil _⟩

/-- Only settings that are said can be invalid: the standard ones are valid. -/
theorem isValid_layers (distinct : overrides.keys.Nodup) (distinct' : fromFile.keys.Nodup) :
    IsValid (layers fromFile overrides).get? ↔ IsValid (said? fromFile overrides) := by
  have layer := get?_layers distinct distinct'
  constructor
  · intro valid
    constructor
    · intro name mem v said
      exact valid.texts name mem v (by rw [layer, said, Option.some_or])
    · intro s said
      exact valid.lineEnding s (by rw [layer, said, Option.some_or])
  · intro valid
    constructor
    · intro name mem v found
      rw [layer, Option.or_eq_some_iff] at found
      rcases found with said | ⟨-, usual⟩
      · exact valid.texts name mem v said
      · obtain ⟨s, text⟩ := exists_text_of_standard name mem
        exact ⟨s, Option.some.inj (usual.symm.trans text)⟩
    · intro s found
      rw [layer, Option.or_eq_some_iff] at found
      rcases found with said | ⟨-, usual⟩
      · exact valid.lineEnding s said
      · cases usual
        decide

/-- Settings that do not come to an admissible configuration and are not refused with a
configuration fault: the value for further settings is taken as it is where there are no others, and
made into a dictionary where there are. -/
inductive SettingsLapse (fromFile overrides : Assoc Value) : Prop where
  /-- There are further settings to put into a value, and it cannot be made into a dictionary. -/
  | noDictionary {v : Value} {f : Fault} (further : HasFurther fromFile overrides)
    (custom : said? fromFile overrides customField = some v) (solid : v.isVoid = false)
    (refused : Entries.ofValue v = .error f)
  /-- There are no further settings, the others are valid, and the value is no dictionary. -/
  | notDictionary {v : Value} (alone : ¬ HasFurther fromFile overrides)
    (custom : said? fromFile overrides customField = some v) (other : v.entries? = none)
    (valid : IsValid (said? fromFile overrides))

theorem extend_eq_error {dictionary : Value} {fields : Assoc Value} :
    extend dictionary fields = .error f ↔ Entries.ofValue dictionary = .error f := by
  unfold extend
  split
  · constructor <;> exact fun h => by cases h
  · rw [Outcome.bind_eq_error]
    constructor
    · rintro (refused | ⟨_, -, done⟩)
      · exact refused
      · cases done
    · exact .inl

/-- Only a value that was given and is not void cannot be made a dictionary. -/
theorem ofValue_basis_eq_error {custom? : Option Value} :
    Entries.ofValue (basis custom?) = .error f ↔
      ∃ v, custom? = some v ∧ v.isVoid = false ∧ Entries.ofValue v = .error f := by
  have empty : Entries.ofValue (.object []) ≠ .error f := fun h => by cases h
  cases custom? with
  | none => simpa [basis, Value.isVoid] using empty
  | some v =>
    cases void : v.isVoid with
    | true => simpa [basis, void] using empty
    | false => simp [basis, void]

section Layered

variable (distinct : overrides.keys.Nodup) (distinct' : fromFile.keys.Nodup)
include distinct distinct'

/-- Where there are further settings, their dictionary has to be made. -/
theorem layered_isProper_of_further (further : HasFurther fromFile overrides) :
    IsProper (layered fromFile overrides) ↔
      ∀ v f, said? fromFile overrides customField = some v → v.isVoid = false →
        Entries.ofValue v ≠ .error f := by
  rw [layered_eq, ofSettings_eq, isProper_bind]
  rw [collect_of_further distinct distinct' further]
  constructor
  · rintro ⟨kind, -⟩ v f custom solid refused
    have basis_refused := ofValue_basis_eq_error.mpr ⟨v, custom, solid, refused⟩
    have failed := kind f (Outcome.bind_eq_error.mpr (.inl (extend_eq_error.mpr basis_refused)))
    exact (Entries.isBuiltin_of_ofValue refused).kind_ne failed
  · intro made
    constructor
    · intro f failed
      rcases Outcome.bind_eq_error.mp failed with refused | ⟨_, -, done⟩
      · obtain ⟨v, custom, solid, refused⟩ :=
          ofValue_basis_eq_error.mp (extend_eq_error.mp refused)
        exact absurd refused (made v f custom solid)
      · cases done
    · intro collected done
      rw [isProper_checked]
      intro _
      obtain ⟨v, extended, same⟩ := Outcome.bind_eq_ok.mp done
      obtain ⟨d, -, entries⟩ := extend_eq_ok extended
      cases same
      rw [ofFields]
      dsimp only
      rw [Assoc.get?_put, if_pos rfl]
      exact ⟨_, entries⟩

/-- Where there are none, the value for them has to be a dictionary. -/
theorem layered_isProper_of_no_further (alone : ¬ HasFurther fromFile overrides) :
    IsProper (layered fromFile overrides) ↔
      (IsValid (said? fromFile overrides) →
        ∀ v, said? fromFile overrides customField = some v → v.entries? ≠ none) := by
  have custom : (ofFields (layers fromFile overrides)).custom =
      (said? fromFile overrides customField).getD (.object []) := by
    rw [ofFields]
    dsimp only
    rw [get?_layers distinct distinct']
    cases said? fromFile overrides customField <;> rfl
  rw [layered_eq, ofSettings_eq, collect_of_no_further distinct distinct' alone]
  change IsProper (checked (layers fromFile overrides) >>= fun _ => _) ↔ _
  rw [isProper_checked, isValid_layers distinct distinct', custom]
  refine imp_congr_right fun _ => ?_
  rw [← Option.ne_none_iff_exists']
  cases said? fromFile overrides customField with
  | none => simp [Value.entries?]
  | some v => simp

/-- Settings come to something proper unless they lapse. -/
theorem layered_isProper_iff :
    IsProper (layered fromFile overrides) ↔ ¬ SettingsLapse fromFile overrides := by
  by_cases further : HasFurther fromFile overrides
  · rw [layered_isProper_of_further distinct distinct' further]
    constructor
    · intro made lapse
      cases lapse with
      | noDictionary _ custom solid refused => exact made _ _ custom solid refused
      | notDictionary alone => exact alone further
    · exact fun none v f custom solid refused => none (.noDictionary further custom solid refused)
  · rw [layered_isProper_of_no_further distinct distinct' further]
    constructor
    · intro dictionary lapse
      cases lapse with
      | noDictionary some_further => exact further some_further
      | notDictionary _ custom other valid => exact dictionary valid _ custom other
    · exact fun none valid v custom other => none (.notDictionary further custom other valid)

end Layered

/-- Loading fails with a configuration fault or gives an admissible configuration, unless there is a
file and it lapses, or the settings in it and the overrides lapse together. -/
theorem load_isProper_iff (distinct : overrides.keys.Nodup) :
    IsProper (load nesting disk path? overrides) ↔
      (∀ path, path? = some path → path ≠ "" → ¬ FileLapse nesting disk path) ∧
        ∀ fromFile, fileSettings nesting disk path? = .ok fromFile →
          ¬ SettingsLapse fromFile overrides := by
  rw [load_eq, isProper_bind]
  refine and_congr ?_ ?_
  · constructor
    · rintro kind path rfl named lapse
      obtain ⟨f, failed, other⟩ := fileLapse_iff.mp lapse
      rw [fileSettings_of_named _ disk named] at kind
      exact other (kind f failed)
    · intro sound f failed
      by_contra other
      cases path? with
      | none => cases failed
      | some path =>
        by_cases named : path = ""
        · subst named
          cases failed
        · rw [fileSettings_of_named _ disk named] at failed
          exact sound path rfl named (fileLapse_iff.mpr ⟨f, failed, other⟩)
  · refine forall_congr' fun fromFile => imp_congr_right fun file => ?_
    rw [layered_isProper_iff distinct (nodup_of_fileSettings file)]

def numericOverrides : Assoc Value :=
  [("custom", .int 5)]

/-- A file that is not UTF-8 comes to a fault that is no configuration fault. -/
theorem load_isProper_undecodable :
    numericOverrides.keys.Nodup ∧
      ¬ IsProper (load usualNesting (onlyFile [0xFF]) (some "c.json") numericOverrides) := by
  have distinct : numericOverrides.keys.Nodup := by decide
  refine ⟨distinct, ?_⟩
  rw [load_isProper_iff distinct]
  rintro ⟨sound, -⟩
  exact sound "c.json" rfl (by decide) (.undecodable (holds_onlyFile [0xFF]) rfl)

/-- Not even a file alone or overrides alone always come to an admissible configuration or a
configuration fault. -/
theorem not_forall_isProper :
    (¬ ∀ octets, IsProper (load usualNesting (onlyFile octets) (some "c.json") [])) ∧
      ¬ ∀ overrides : Assoc Value, overrides.keys.Nodup →
        IsProper (load usualNesting {} none overrides) := by
  constructor
  · intro proper
    have failed : load usualNesting (onlyFile [0xFF]) (some "c.json") [] =
        .error (.builtin "UnicodeDecodeError"
          "'utf-8' codec can't decode byte 0xff in position 0: invalid start byte") := by
      rw [load_of_named _ (by decide), readSettings_of_holds (holds_onlyFile _)]
      rfl
    have kind := proper [0xFF]
    rw [failed] at kind
    have builtin : (Fault.builtin "UnicodeDecodeError"
        "'utf-8' codec can't decode byte 0xff in position 0: invalid start byte").IsBuiltin := rfl
    exact builtin.kind_ne kind
  · intro proper
    have loaded : load usualNesting {} none numericOverrides =
        .ok { standard with custom := .int 5 } := by
      rfl
    have admissible := proper numericOverrides (by decide)
    rw [loaded] at admissible
    obtain ⟨entries, none⟩ := IsAdmissible.custom admissible
    cases none

end Config

end CodeBehind
