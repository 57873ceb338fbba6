import CodeBehind.Config.Storage
import CodeBehind.Proofs.Disk
import CodeBehind.Proofs.Json.RoundTrip

/-!
Saving a configuration and loading it again.

A saved configuration is loaded from the settings that were saved (`load_of_save`). These tell the
four settings and the further ones apart by their names alone. Where no further setting has the name
of a setting, the configuration comes back as it was (`layered_flattened`). Where one has, what is
loaded does not even equal what was saved: whatever the further settings of the loaded configuration
have under such a name lies inside the value that was saved under `custom`
(`depth_lt_of_collect`), and no value equals a part of its own. `load_save_iff` puts the two
together. It leaves open only whether numbers read back.
-/

namespace CodeBehind

open Text (Utf8.encode)

namespace Config

/-- Two configurations are equal: each of their five values is. -/
def same (c c' : Config) : Bool :=
  c.frameworkName.same c'.frameworkName && c.frameworkPackage.same c'.frameworkPackage &&
    c.documentationUrl.same c'.documentationUrl && c.lineEnding.same c'.lineEnding &&
    c.custom.same c'.custom

/-- The four settings are texts, the line ending is one of the two, and the further settings are an
object that JSON can hold. -/
structure IsStorable (c : Config) (further : Assoc Value) : Prop where
  frameworkName : ∃ s, c.frameworkName = .text s
  frameworkPackage : ∃ s, c.frameworkPackage = .text s
  documentationUrl : ∃ s, c.documentationUrl = .text s
  lineEnding : ∃ s ∈ lineEndings, c.lineEnding = .text s
  custom : c.custom = .object further
  json : c.custom.isJson = true

/-- No further setting has the name of a setting. -/
def IsApart (further : Assoc Value) : Prop :=
  ∀ name ∈ further.keys, isField name = false

variable {c : Config} {further : Assoc Value}

theorem keys_textSettings (c : Config) : (textSettings c).keys = textFields := rfl

theorem keys_settings (c : Config) : (settings c).keys = fields := rfl

section Storable

variable (h : c.IsStorable further)
include h

theorem IsStorable.distinct : further.keys.Nodup := by
  have json := h.json
  rw [h.custom, Value.isJson, Bool.and_eq_true, decide_eq_true_eq] at json
  exact json.1

/-- A configuration that can be stored is stored as one object. -/
theorem IsStorable.flattened : c.flattened = .ok (.object (c.textSettings.merge further)) := by
  rw [Config.flattened, h.custom]

theorem IsStorable.texts : ∀ field ∈ c.textSettings, ∃ s, field.2 = .text s := by
  obtain ⟨ending, -, lineEnding⟩ := h.lineEnding
  simpa [textSettings] using
    ⟨h.frameworkName, h.frameworkPackage, h.documentationUrl, ending, lineEnding⟩

/-- A configuration that can be stored equals itself. -/
theorem IsStorable.same_self : c.same c = true := by
  have text : ∀ {v : Value}, (∃ s, v = .text s) → v.same v = true := by
    rintro v ⟨s, rfl⟩
    exact Value.same_self _ rfl
  obtain ⟨ending, -, lineEnding⟩ := h.lineEnding
  rw [same, text h.frameworkName, text h.frameworkPackage, text h.documentationUrl,
    text ⟨ending, lineEnding⟩, Value.same_self c.custom h.json]
  rfl

/-- What is saved nests no deeper than the settings do. -/
theorem IsStorable.nesting_le : (Value.object (c.textSettings.merge further)).nesting ≤
    (Value.object c.settings).nesting := by
  have own : c.custom.nesting ≤ Value.nestingOfFields c.settings :=
    Value.nestingOfFields_le_iff.mp (Nat.le_refl _) (customField, c.custom)
      (List.mem_append_right _ (List.mem_singleton_self _))
  rw [h.custom] at own
  refine Nat.succ_le_succ (Value.nestingOfFields_le_iff.mpr fun field mem => ?_)
  rcases Assoc.mem_of_mem_merge mem with text | other
  · obtain ⟨s, value_eq⟩ := h.texts field text
    rw [value_eq]
    exact Nat.zero_le _
  · have inside := Value.nestingOfFields_le_iff.mp (Nat.le_refl _) field other
    exact inside.trans (Nat.le_of_succ_le own)

/-- The saved settings read back, if the numbers among the further ones do. -/
theorem IsStorable.readsBack {nesting : Nat} (within : (Value.object c.settings).nesting ≤ nesting)
    (numbers : ∀ number ∈ Json.numbers c.custom, Json.ReadsBack 0 number) :
    Json.ReadsBack nesting (.object (c.textSettings.merge further)) := by
  have json := h.json
  rw [h.custom, Value.isJson, Bool.and_eq_true, Value.fieldsAreJson_iff] at json
  rw [h.custom] at numbers
  refine Json.readsBack_of_numbers ?_ (h.nesting_le.trans within) ?_
  · rw [Value.isJson, Bool.and_eq_true, decide_eq_true_eq, Value.fieldsAreJson_iff]
    refine ⟨Assoc.nodup_merge (by rw [keys_textSettings]; decide) further, fun field mem => ?_⟩
    rcases Assoc.mem_of_mem_merge mem with own | other
    · obtain ⟨s, value_eq⟩ := h.texts field own
      rw [value_eq]
      rfl
    · exact json.2 field other
  · intro number mem
    obtain ⟨field, mem, inside⟩ := Json.mem_numbersOfFields.mp mem
    rcases Assoc.mem_of_mem_merge mem with own | other
    · obtain ⟨s, value_eq⟩ := h.texts field own
      rw [value_eq] at inside
      cases inside
    · exact numbers number (Json.mem_numbersOfFields.mpr ⟨field, other, inside⟩)

end Storable

/-! ### Through the file -/

variable {nesting : Nat}

/-- Settings that JSON gives back are given back by a file of octets. -/
theorem parse_encode {settings : Assoc Value} {path : String}
    (reads : Json.ReadsBack nesting (.object settings)) :
    parse nesting path (Utf8.encode (Json.print (.object settings)).toList) = .ok settings := by
  have unified := Text.unifyBreaks_of_not_mem (Json.return_not_mem_print (.object settings))
  rw [parse, Text.Utf8.decode_encode]
  rw [Json.ReadsBack] at reads
  simp only [Except.mapError, bind, Except.bind, unified, reads]
  rfl

/-- Saving writes the text of the flattened settings. -/
theorem write_of_save {disk disk' : Disk} {path : String} {v : Value} (flat : c.flattened = .ok v)
    (saved : save nesting disk c path = .ok disk') :
    disk.write (Path.tidy path) (Utf8.encode (Json.print v).toList) = .ok disk' := by
  rw [save] at saved
  split at saved
  · cases saved
  · obtain ⟨v', flat', saved⟩ := Outcome.bind_eq_ok.mp saved
    cases flat.symm.trans flat'
    obtain ⟨d, written, saved⟩ := Outcome.bind_eq_ok.mp saved
    split at saved
    · cases saved
      exact Outcome.mapError_eq_ok.mp written
    · cases saved

/-- What is saved does not nest too deeply. -/
theorem nesting_le_of_save {disk disk' : Disk} {path : String}
    (saved : save nesting disk c path = .ok disk') :
    (Value.object c.settings).nesting ≤ nesting := by
  by_contra deep
  rw [save, if_pos (Nat.lt_of_not_le deep)] at saved
  cases saved

/-- Settings that read back are found in the file that they were written to. -/
theorem readSettings_of_write {disk disk' : Disk} {path : String} {settings : Assoc Value}
    (suffix : Text.lowercase (Path.extension (Path.tidy path)) = fileExtension)
    (reads : Json.ReadsBack nesting (.object settings))
    (written : disk.write (Path.tidy path)
      (Utf8.encode (Json.print (.object settings)).toList) = .ok disk') :
    readSettings nesting disk' path = .ok settings := by
  rw [readSettings]
  simp only [Disk.exists_of_write written, Disk.read_of_write written, Except.mapError, bind,
    Except.bind, suffix, parse_encode reads]
  simp

theorem load_of_named (disk : Disk) {path : String} (named : path ≠ "") (overrides : Assoc Value) :
    load nesting disk (some path) overrides =
      readSettings nesting disk path >>= fun settings => layered settings overrides := by
  unfold load
  split
  · next empty => cases empty
  · next empty => exact absurd (Option.some.inj empty) named
  · next other _ same => rw [← Option.some.inj same]

/-- What is loaded from a saved file are the settings that were saved, on top of the standard
ones. -/
theorem load_of_save {disk disk' : Disk} {path : String} {settings : Assoc Value}
    (suffix : Text.lowercase (Path.extension (Path.tidy path)) = fileExtension)
    (flat : c.flattened = .ok (.object settings)) (saved : save nesting disk c path = .ok disk')
    (reads : Json.ReadsBack nesting (.object settings)) :
    load nesting disk' (some path) [] = layered settings [] := by
  have found := readSettings_of_write suffix reads (write_of_save flat saved)
  have nameless : Text.lowercase (Path.extension (Path.tidy "")) ≠ fileExtension := by
    decide +kernel
  have named : path ≠ "" := by
    intro empty
    rw [empty] at suffix
    exact nameless suffix
  rw [load_of_named disk' named, found]
  rfl

/-! ### Settings told apart -/

/-- The settings with names of their own are the known ones. -/
theorem isField_iff {name : String} : isField name = true ↔ name ∈ fields :=
  List.contains_iff_mem

def bare (c : Config) : Config :=
  { c with custom := .object [] }

theorem merge_textSettings (c : Config) :
    standard.settings.merge c.textSettings = c.bare.settings := rfl

/-- The settings of a configuration pass all checks and give it back. -/
theorem accepted_settings (h : c.IsStorable further) :
    (do textFields.forM (checkText c.settings); checkLineEnding c.settings
        return ofFields c.settings) = Except.ok (ε := Fault) c := by
  obtain ⟨name, hname⟩ := h.frameworkName
  obtain ⟨package, hpackage⟩ := h.frameworkPackage
  obtain ⟨url, hurl⟩ := h.documentationUrl
  obtain ⟨ending, admitted, hending⟩ := h.lineEnding
  obtain ⟨frameworkName, frameworkPackage, documentationUrl, lineEnding, custom⟩ := c
  dsimp only at hname hpackage hurl hending
  subst hname hpackage hurl hending
  have texts : textFields.forM (checkText (settings
      ⟨.text name, .text package, .text url, .text ending, custom⟩)) = .ok () := by
    rfl
  have line : checkLineEnding (settings
      ⟨.text name, .text package, .text url, .text ending, custom⟩) = .ok () := by
    exact if_pos (List.contains_iff_mem.mpr admitted)
  rw [texts, line]
  rfl

section Apart

variable (h : c.IsStorable further) (apart : IsApart further)
include h apart

/-- Further settings without the name of a setting go behind the settings, one after the other. -/
theorem merge_further {d : Assoc Value} (known : ∀ name ∈ d.keys, isField name = true) :
    d.merge further = d ++ further := by
  apply Assoc.merge_of_apart h.distinct
  intro name mem inside
  cases (apart name mem).symm.trans (known name inside)

/-- The settings that are not known are collected again. -/
theorem collect_settings : collect (c.bare.settings ++ further) = .ok c.settings := by
  have own : ∀ entry ∈ c.bare.settings, isField entry.1 = true := fun entry mem =>
    isField_iff.mpr (keys_settings c.bare ▸ List.mem_map_of_mem mem)
  have others : ∀ entry ∈ further, isField entry.1 = false := fun entry mem =>
    apart entry.1 (List.mem_map_of_mem mem)
  have known : (c.bare.settings ++ further).filter (isField ·.1) = c.bare.settings := by
    rw [List.filter_append, List.filter_eq_self.mpr own, List.filter_eq_nil_iff.mpr,
      List.append_nil]
    simpa using others
  have unknown : (c.bare.settings ++ further).filter (!isField ·.1) = further := by
    rw [List.filter_append, List.filter_eq_nil_iff.mpr, List.filter_eq_self.mpr, List.nil_append]
    · simpa using others
    · simpa using own
  have whole : Assoc.merge [] further = further :=
    Assoc.merge_of_apart h.distinct fun _ _ => List.not_mem_nil
  have settings_eq : c.bare.settings.put customField (.object further) = c.settings := by
    rw [← h.custom]
    rfl
  have held : c.bare.settings.get? customField = some (.object []) := rfl
  rw [collect, known, unknown, held]
  cases further with
  | nil =>
    rw [← settings_eq]
    rfl
  | cons entry rest =>
    have extended : extend (.object []) (entry :: rest) = .ok (.object (entry :: rest)) := by
      rw [extend, whole]
    change (do return c.bare.settings.put customField (← extend (.object []) (entry :: rest))) = _
    rw [extended]
    exact congrArg Except.ok settings_eq

/-- Where no further setting has the name of a setting, the configuration comes back. -/
theorem layered_flattened : layered (c.textSettings.merge further) [] = .ok c := by
  have flat := merge_further h apart (d := c.textSettings) fun name mem =>
    isField_iff.mpr (List.mem_append_left _ (keys_textSettings c ▸ mem))
  have given :
      standard.settings.merge (c.textSettings ++ further) = c.bare.settings ++ further := by
    rw [Assoc.merge_append, merge_textSettings]
    exact merge_further h apart fun name mem => isField_iff.mpr (keys_settings c.bare ▸ mem)
  have none_left : (standard.settings.merge (c.textSettings ++ further)).merge [] =
      standard.settings.merge (c.textSettings ++ further) := rfl
  rw [layered, flat, none_left, given, ofSettings, collect_settings h apart]
  exact accepted_settings h

end Apart

/-! ### Settings taken for one another -/

section Nesting

variable {name : String} {entries : Entries} {w : Value}

/-- An extended dictionary is the one that the value makes, with the fields put into it. -/
theorem extend_eq_ok {dictionary v : Value} {fields : Assoc Value}
    (h : extend dictionary fields = .ok v) :
    ∃ d, Entries.ofValue dictionary = .ok d ∧ v.entries? = some (d.merge (.ofFields fields)) := by
  unfold extend at h
  split at h
  · next inner =>
    cases h
    exact ⟨.ofFields inner, rfl, congrArg some (Entries.ofFields_merge inner fields)⟩
  · obtain ⟨d, made, h⟩ := Outcome.bind_eq_ok.mp h
    cases h
    exact ⟨d, made, Entries.entries?_toValue _⟩

/-- What an extended dictionary has under a name that is not among the new ones lies inside the
value it was made from. -/
theorem depth_lt_of_extend {dictionary v : Value} {fields : Assoc Value}
    (h : extend dictionary fields = .ok v) (other : name ∉ fields.keys)
    (hentries : v.entries? = some entries) (found : entries.get? (.text name) = some w) :
    w.depth < dictionary.depth := by
  obtain ⟨d, made, entries_eq⟩ := extend_eq_ok h
  cases hentries.symm.trans entries_eq
  rw [Entries.get?_merge_ofFields other] at found
  obtain ⟨k, mem, -⟩ := Entries.mem_of_get? found
  exact Entries.depth_lt_of_ofValue made mem

/-- The value that unknown settings are put into: what was given for the further settings, unless it
is void. -/
def basis (custom? : Option Value) : Value :=
  let custom := custom?.getD .null
  if custom.isVoid then .object [] else custom

/-- What unknown settings are put into is nested no deeper than what was given. -/
theorem depth_basis_le (custom? : Option Value) :
    (basis custom?).depth ≤ (custom?.getD (.object [])).depth := by
  cases custom? with
  | none => exact Nat.zero_le _
  | some v =>
    rw [basis]
    dsimp only [Option.getD_some]
    split
    · exact Nat.zero_le _
    · exact Nat.le_refl _

/-- Either all settings are known and stay as they are, or the unknown ones are put into the value
for further settings. -/
theorem collect_cases {given collected : Assoc Value} (h : collect given = .ok collected) :
    let known : Assoc Value := given.filter (isField ·.1)
    collected = known ∨ ∃ v, collected = known.put customField v ∧
      extend (basis (known.get? customField)) (given.filter (!isField ·.1)) = .ok v := by
  intro known
  rw [collect] at h
  split at h
  · cases h
    exact .inl rfl
  · refine .inr ?_
    obtain ⟨v, extended, h⟩ := Outcome.bind_eq_ok.mp h
    cases h
    exact ⟨v, rfl, extended⟩

/-- What the collected further settings have under the name of a setting lies inside the value that
was given for the further settings. -/
theorem depth_lt_of_collect {given collected : Assoc Value} (distinct : given.keys.Nodup)
    (h : collect given = .ok collected) (field : isField name = true)
    (hentries : ((collected.get? customField).getD (.object [])).entries? = some entries)
    (found : entries.get? (.text name) = some w) :
    w.depth < ((given.get? customField).getD (.object [])).depth := by
  have known : Assoc.get? (given.filter (isField ·.1)) customField = given.get? customField := by
    rw [Assoc.get?_filter distinct]
    cases given.get? customField <;> rfl
  have other : name ∉ Assoc.keys (given.filter (!isField ·.1)) := by
    intro mem
    obtain ⟨entry, hentry, rfl⟩ := List.mem_map.mp mem
    have unknown := (List.mem_filter.mp hentry).2
    simp [field] at unknown
  rcases collect_cases h with rfl | ⟨v, rfl, extended⟩
  · rw [known] at hentries
    obtain ⟨k, mem, -⟩ := Entries.mem_of_get? found
    exact Value.depth_lt_of_entries? hentries mem
  · rw [Assoc.get?_put, if_pos rfl] at hentries
    rw [known] at extended
    exact Nat.lt_of_lt_of_le (depth_lt_of_extend extended other hentries found) (depth_basis_le _)

end Nesting

theorem ofSettings_eq_ok {given : Assoc Value} {c' : Config} (h : ofSettings given = .ok c') :
    ∃ collected, collect given = .ok collected ∧ c' = ofFields collected := by
  rw [ofSettings] at h
  obtain ⟨settings, collected, h⟩ := Outcome.bind_eq_ok.mp h
  obtain ⟨_, -, h⟩ := Outcome.bind_eq_ok.mp h
  obtain ⟨_, -, h⟩ := Outcome.bind_eq_ok.mp h
  cases h
  exact ⟨settings, collected, rfl⟩

/-- Where a further setting has the name of a setting, what is loaded differs from what was
saved. -/
theorem not_same_of_shared (h : c.IsStorable further) {name : String} (mem : name ∈ further.keys)
    (field : isField name = true) {c' : Config}
    (loaded : layered (c.textSettings.merge further) [] = .ok c') : c.same c' = false := by
  obtain ⟨collected, collected_eq, rfl⟩ := ofSettings_eq_ok loaded
  rw [Bool.eq_false_iff]
  intro equal
  have customs : Value.same (.object further)
      ((collected.get? customField).getD (.object [])) = true := by
    rw [same, Bool.and_eq_true, h.custom] at equal
    exact equal.2
  let given := standard.settings.merge (c.textSettings.merge further)
  have flat_distinct : (c.textSettings.merge further).keys.Nodup :=
    Assoc.nodup_merge (by rw [keys_textSettings]; decide) further
  have distinct : given.keys.Nodup := Assoc.nodup_merge (by rw [keys_settings]; decide) _
  have held : given.get? customField = some ((further.get? customField).getD (.object [])) := by
    rw [Assoc.get?_merge flat_distinct, Assoc.get?_merge h.distinct]
    cases further.get? customField <;> rfl
  -- what the loaded settings have under a name of a setting lies inside the saved `custom`
  have inside : ∀ {name x}, isField name = true → further.get? name = some x →
      x.depth < ((further.get? customField).getD (.object [])).depth := by
    intro name x field found
    obtain ⟨entries, w, entries_eq, hw, same⟩ := Value.same_found customs found
    have deeper := depth_lt_of_collect distinct collected_eq field entries_eq hw
    rw [held, Option.getD_some] at deeper
    exact Nat.lt_of_le_of_lt (Value.depth_le_of_same _ _ same) deeper
  cases custom : further.get? customField with
  | some x =>
    have deeper := inside (by decide) custom
    rw [custom] at deeper
    exact Nat.lt_irrefl _ deeper
  | none =>
    obtain ⟨x, found⟩ := Assoc.has_iff.mp (Assoc.has_iff_mem_keys.mpr mem)
    have deeper := inside field found
    rw [custom] at deeper
    exact Nat.not_lt_zero _ deeper

/-- A saved configuration comes back exactly when no further setting has the name of a setting.
Otherwise what comes back, if anything does, is not even equal to it. Of JSON it is assumed that the
numbers among the further settings read back. -/
theorem load_save_iff {disk disk' : Disk} {path : String} (h : c.IsStorable further)
    (suffix : Text.lowercase (Path.extension (Path.tidy path)) = fileExtension)
    (saved : save nesting disk c path = .ok disk')
    (numbers : ∀ number ∈ Json.numbers c.custom, Json.ReadsBack 0 number) :
    (load nesting disk' (some path) [] = .ok c ↔ IsApart further) ∧
      ((∃ c', load nesting disk' (some path) [] = .ok c' ∧ c.same c' = true) ↔
        IsApart further) := by
  have reads := h.readsBack (nesting_le_of_save saved) numbers
  have loaded := load_of_save suffix h.flattened saved reads
  rw [loaded]
  have back : IsApart further → layered (c.textSettings.merge further) [] = .ok c :=
    layered_flattened h
  have apart : (∃ c', layered (c.textSettings.merge further) [] = .ok c' ∧ c.same c' = true) →
      IsApart further := by
    rintro ⟨c', c'_eq, equal⟩ name mem
    rw [Bool.eq_false_iff]
    intro field
    cases equal.symm.trans (not_same_of_shared h mem field c'_eq)
  constructor
  · exact ⟨fun same => apart ⟨c, same, h.same_self⟩, back⟩
  · exact ⟨apart, fun none_shared => ⟨c, back none_shared, h.same_self⟩⟩

def nested : Config where
  frameworkName := .text "a"
  frameworkPackage := .text "b"
  documentationUrl := .text "c"
  lineEnding := .text "\r\n"
  custom := .object [("custom", .object [("custom", .int 1)])]

theorem nested_isStorable : nested.IsStorable [("custom", .object [("custom", .int 1)])] where
  frameworkName := ⟨"a", rfl⟩
  frameworkPackage := ⟨"b", rfl⟩
  documentationUrl := ⟨"c", rfl⟩
  lineEnding := ⟨"\r\n", by decide, rfl⟩
  custom := rfl
  json := by decide

/-- A further setting with the name of the value for further settings comes back changed. -/
theorem load_save_nested :
    ∃ disk', save 3 {} nested "settings.json" = .ok disk' ∧
      ¬ ∃ c', load 3 disk' (some "settings.json") [] = .ok c' ∧ nested.same c' = true := by
  obtain ⟨disk', saved⟩ : ∃ disk', save 3 {} nested "settings.json" = .ok disk' := ⟨_, by rfl⟩
  have numbers : ∀ number ∈ Json.numbers nested.custom, Json.ReadsBack 0 number := by
    have one : Json.ReadsBack 0 (.int 1) := by rfl
    exact List.forall_mem_singleton.mpr one
  have shared : ¬ IsApart [("custom", .object [("custom", .int 1)])] := by
    intro apart
    cases apart "custom" List.mem_cons_self
  refine ⟨disk', saved, ?_⟩
  rw [(load_save_iff nested_isStorable (by decide +kernel) saved numbers).2]
  exact shared

end Config

end CodeBehind
