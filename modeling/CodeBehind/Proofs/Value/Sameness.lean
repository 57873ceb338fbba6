import CodeBehind.Proofs.Value.Entries

/-!
Values that are equal.

`same` compares values as a program does: numbers by what they count, whatever their kind, lists
element by element, and dictionaries by what is found under their keys, in whatever order these
stand. A number that is none equals nothing, not even itself; apart from those, what can be written
as JSON (`isJson`) equals itself (`same_self`). What is found in a dictionary is found in its equals
(`same_found`), and a value is nested no deeper than its equals (`depth_le_of_same`), so none equals
a part of its own.
-/

namespace CodeBehind

namespace Value

mutual

/-- Two values are equal. -/
def same : Value → Value → Bool
  | .list xs, v =>
    match v with
    | .list ys => sameElements xs ys
    | _ => false
  | .object fields, v =>
    match v.entries? with
    | some entries => fields.length == entries.length && sameFields fields entries
    | none => false
  | .mapping entries, v =>
    match v.entries? with
    | some others => entries.length == others.length && sameEntries entries others
    | none => false
  | v, w => v.isSameKey w
termination_by structural v => v

def sameElements : List Value → List Value → Bool
  | [], [] => true
  | x :: xs, y :: ys => same x y && sameElements xs ys
  | _, _ => false
termination_by structural xs => xs

/-- Under the name of every field there is a value equal to the field's. -/
def sameFields : List (String × Value) → Entries → Bool
  | [], _ => true
  | (name, v) :: rest, entries =>
    (match entries.get? (.text name) with
      | some w => same v w
      | none => false) && sameFields rest entries
termination_by structural fields => fields

/-- Under the key of every entry there is a value equal to the entry's. -/
def sameEntries : List (Value × Value) → Entries → Bool
  | [], _ => true
  | (key, v) :: rest, entries =>
    (match entries.get? key with
      | some w => same v w
      | none => false) && sameEntries rest entries
termination_by structural entries => entries

end

mutual

/-- A value that JSON can hold: every number in it is one, and no object has two fields of one
name. -/
def isJson : Value → Bool
  | .float x => decide (x ≠ .nan)
  | .list xs => areJson xs
  | .object fields => decide (Assoc.keys fields).Nodup && fieldsAreJson fields
  | .mapping _ => false
  | _ => true

def areJson : List Value → Bool
  | [] => true
  | x :: xs => isJson x && areJson xs

def fieldsAreJson : List (String × Value) → Bool
  | [] => true
  | (_, v) :: rest => isJson v && fieldsAreJson rest

end

theorem fieldsAreJson_iff {fields : List (String × Value)} :
    fieldsAreJson fields = true ↔ ∀ field ∈ fields, isJson field.2 = true := by
  induction fields with
  | nil => simp [fieldsAreJson]
  | cons field rest ih => simp [fieldsAreJson, ih]

/-- Fields nest no deeper than a bound if none of them does. -/
theorem nestingOfFields_le_iff {fields : List (String × Value)} {n : Nat} :
    nestingOfFields fields ≤ n ↔ ∀ field ∈ fields, field.2.nesting ≤ n := by
  induction fields with
  | nil => simp [nestingOfFields]
  | cons field rest ih => rw [nestingOfFields, Nat.max_le, ih, List.forall_mem_cons]

/-! ### Equal to itself -/

/-- A number is the same key as itself, unless it is not a number. -/
theorem isSameKey_float {x : Number.Binary64} (h : x ≠ .nan) :
    isSameKey (.float x) (.float x) = true := by
  cases x <;> simp_all [isSameKey, ratio?, Number.Binary64.ratio?]

/-- Fields equal the entries in which each of them is found. -/
theorem sameFields_of_found {fields : List (String × Value)} {entries : Entries}
    (found : ∀ field ∈ fields, entries.get? (.text field.1) = some field.2 ∧
      same field.2 field.2 = true) : sameFields fields entries = true := by
  induction fields with
  | nil => rfl
  | cons field rest ih =>
    obtain ⟨⟨here, equal⟩, later⟩ := List.forall_mem_cons.mp found
    rw [sameFields, here, ih later]
    simpa using equal

mutual

/-- A value of JSON equals itself. -/
theorem same_self : ∀ v : Value, v.isJson = true → v.same v = true
  | .null, _ => rfl
  | .bool b, _ => by cases b <;> rfl
  | .int n, _ => by simp [same, isSameKey, ratio?]
  | .float x, h => by
    rw [isJson, decide_eq_true_eq] at h
    exact isSameKey_float h
  | .text s, _ => by simp [same, isSameKey]
  | .list xs, h => sameElements_self xs h
  | .object fields, h => by
    rw [isJson, Bool.and_eq_true, decide_eq_true_eq] at h
    have found : sameFields fields (.ofFields fields) = true := by
      refine sameFields_of_found fun field mem => ⟨?_, same_self_of_field fields h.2 field mem⟩
      rw [Entries.get?_ofFields]
      exact Assoc.get?_of_mem h.1 mem
    have length_eq : (Entries.ofFields fields).length = fields.length := List.length_map _
    simp only [same, entries?, found, length_eq, BEq.rfl, Bool.and_self]

theorem sameElements_self : ∀ xs : List Value, areJson xs = true → sameElements xs xs = true
  | [], _ => rfl
  | x :: xs, h => by
    rw [areJson, Bool.and_eq_true] at h
    rw [sameElements, same_self x h.1, sameElements_self xs h.2]
    rfl

theorem same_self_of_field : ∀ fields : List (String × Value), fieldsAreJson fields = true →
    ∀ field ∈ fields, same field.2 field.2 = true
  | [], _ => List.forall_mem_nil _
  | (name, v) :: rest, h => by
    rw [fieldsAreJson, Bool.and_eq_true] at h
    exact List.forall_mem_cons.mpr ⟨same_self v h.1, same_self_of_field rest h.2⟩

end

/-! ### Found in equals -/

/-- A field has an equal value under its name. -/
theorem found_of_sameFields {fields : List (String × Value)} {entries : Entries} {name : String}
    {x : Value} (h : sameFields fields entries = true) (mem : (name, x) ∈ fields) :
    ∃ w, entries.get? (.text name) = some w ∧ same x w = true := by
  induction fields with
  | nil => cases mem
  | cons field rest ih =>
    obtain ⟨k, v⟩ := field
    rw [sameFields, Bool.and_eq_true] at h
    rcases List.mem_cons.mp mem with found | later
    · cases found
      cases hw : entries.get? (.text name) with
      | none => simp [hw] at h
      | some w => exact ⟨w, rfl, by simpa [hw] using h.1⟩
    · exact ih h.2 later

/-- What is found in an object is found in whatever equals the object. -/
theorem same_found {fields : List (String × Value)} {v x : Value} {name : String}
    (h : same (.object fields) v = true) (hx : Assoc.get? fields name = some x) :
    ∃ entries w, v.entries? = some entries ∧ entries.get? (.text name) = some w ∧
      same x w = true := by
  rw [same] at h
  split at h
  · next entries entries_eq =>
    rw [Bool.and_eq_true] at h
    obtain ⟨w, found, equal⟩ := found_of_sameFields h.2 (Assoc.mem_of_get? hx)
    exact ⟨entries, w, entries_eq, found, equal⟩
  · cases h

/-! ### No part of itself -/

/-- A key has no parts. -/
theorem depth_eq_zero_of_isSameKey {v w : Value} (h : v.isSameKey w = true) : w.depth = 0 := by
  cases w with
  | list xs => cases v <;> simp [isSameKey, ratio?] at h
  | object fields => cases v <;> simp [isSameKey, ratio?] at h
  | mapping entries => cases v <;> simp [isSameKey, ratio?] at h
  | _ => rfl

mutual

/-- A value is nested no deeper than one that it equals. -/
theorem depth_le_of_same : ∀ v w : Value, v.same w = true → v.depth ≤ w.depth
  | .list xs, w, h => by
    cases w with
    | list ys => exact depth_le_of_sameElements xs ys h
    | _ => cases h
  | .object fields, w, h => by
    rw [same] at h
    split at h
    · next entries entries_eq =>
      rw [Bool.and_eq_true] at h
      exact depth_le_of_sameFields fields entries h.2 fun k x mem =>
        depth_lt_of_entries? entries_eq mem
    · cases h
  | .mapping entries, w, h => by
    rw [same] at h
    split at h
    · next others entries_eq =>
      rw [Bool.and_eq_true] at h
      exact depth_le_of_sameEntries entries others h.2 fun k x mem =>
        depth_lt_of_entries? entries_eq mem
    · cases h
  | .null, _, _ => Nat.zero_le _
  | .bool _, _, _ => Nat.zero_le _
  | .int _, _, _ => Nat.zero_le _
  | .float _, _, _ => Nat.zero_le _
  | .text _, _, _ => Nat.zero_le _

theorem depth_le_of_sameElements : ∀ xs ys : List Value, sameElements xs ys = true →
    depthOfElements xs ≤ depthOfElements ys
  | [], _, _ => Nat.zero_le _
  | x :: xs, [], h => by cases h
  | x :: xs, y :: ys, h => by
    rw [sameElements, Bool.and_eq_true] at h
    have first := depth_le_of_same x y h.1
    have rest := depth_le_of_sameElements xs ys h.2
    rw [depthOfElements, depthOfElements]
    omega

theorem depth_le_of_sameFields {n : Nat} : ∀ (fields : List (String × Value)) (entries : Entries),
    sameFields fields entries = true → (∀ k w, (k, w) ∈ entries → w.depth < n) →
      depthOfFields fields ≤ n
  | [], _, _, _ => Nat.zero_le _
  | (name, v) :: rest, entries, h, bound => by
    rw [sameFields, Bool.and_eq_true] at h
    have later := depth_le_of_sameFields rest entries h.2 bound
    cases found : entries.get? (.text name) with
    | none => simp [found] at h
    | some w =>
      obtain ⟨k, mem, -⟩ := Entries.mem_of_get? found
      have here := depth_le_of_same v w (by simpa [found] using h.1)
      have below := bound k w mem
      rw [depthOfFields]
      omega

theorem depth_le_of_sameEntries {n : Nat} : ∀ (entries : List (Value × Value)) (others : Entries),
    sameEntries entries others = true → (∀ k w, (k, w) ∈ others → w.depth < n) →
      depthOfEntries entries ≤ n
  | [], _, _, _ => Nat.zero_le _
  | (key, v) :: rest, others, h, bound => by
    rw [sameEntries, Bool.and_eq_true] at h
    have later := depth_le_of_sameEntries rest others h.2 bound
    cases found : others.get? key with
    | none => simp [found] at h
    | some w =>
      obtain ⟨k, mem, same⟩ := Entries.mem_of_get? found
      have flat := depth_eq_zero_of_isSameKey same
      have here := depth_le_of_same v w (by simpa [found] using h.1)
      have below := bound k w mem
      rw [depthOfEntries]
      omega

end

end Value

end CodeBehind
