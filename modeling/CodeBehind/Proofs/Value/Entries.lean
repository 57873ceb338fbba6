import CodeBehind.Proofs.Assoc
import CodeBehind.Proofs.Outcome
import CodeBehind.Value.Entries

/-!
Dictionaries of values by what is found in them.

A key that is a text is found where this very text stands (`isSameKey_text`), so putting fields into
a dictionary changes what is found under their own names and nothing else (`get?_merge_ofFields`).
What a value makes as a dictionary lies inside the value: no entry is nested as deeply as the value
itself (`depth_lt_of_ofValue`).
-/

namespace CodeBehind

namespace Entries

def get? (d : Entries) (key : Value) : Option Value :=
  match d with
  | [] => none
  | (k, v) :: rest => if k.isSameKey key then some v else get? rest key

end Entries

namespace Value

def entries? : Value → Option Entries
  | .object fields => some (.ofFields fields)
  | .mapping entries => some entries
  | _ => none

/-! ### Keys -/

/-- Only a text is the same key as a text. -/
theorem isSameKey_text {a : Value} {s : String} : a.isSameKey (.text s) = true ↔ a = .text s := by
  cases a <;> simp [isSameKey, ratio?]

end Value

namespace Entries

variable {d e : Entries} {key value : Value}

theorem get?_cons (entry : Value × Value) (rest : Entries) (key : Value) :
    get? (entry :: rest) key = if entry.1.isSameKey key then some entry.2 else get? rest key :=
  rfl

/-- What is found under a key stands there under the same key. -/
theorem mem_of_get? (h : d.get? key = some value) :
    ∃ k, (k, value) ∈ d ∧ k.isSameKey key = true := by
  induction d with
  | nil => cases h
  | cons entry rest ih =>
    rw [get?_cons] at h
    split at h
    · next same =>
      cases h
      exact ⟨entry.1, List.mem_cons_self, same⟩
    · obtain ⟨k, mem, same⟩ := ih h
      exact ⟨k, List.mem_cons_of_mem _ mem, same⟩

/-- Look-up in the fields of an object is look-up by their names. -/
theorem get?_ofFields (fields : List (String × Value)) (name : String) :
    (ofFields fields).get? (.text name) = Assoc.get? fields name := by
  induction fields with
  | nil => rfl
  | cons field rest ih =>
    have cons_eq : ofFields (field :: rest) = (.text field.1, field.2) :: ofFields rest := rfl
    rw [cons_eq, get?_cons, Assoc.get?_cons, ih]
    simp only [Value.isSameKey_text, Value.text.injEq]

/-! ### Putting -/

theorem get?_put_text (d : Entries) (name other : String) (value : Value) :
    (d.put (.text name) value).get? (.text other) =
      if name = other then some value else d.get? (.text other) := by
  induction d with
  | nil => simp [put, get?, Value.isSameKey_text]
  | cons entry rest ih =>
    obtain ⟨k, v⟩ := entry
    rw [put]
    split
    · next same =>
      rw [Value.isSameKey_text.mp same, get?_cons, get?_cons]
      by_cases here : name = other <;> simp [Value.isSameKey_text, here]
    · next apart =>
      rw [get?_cons, get?_cons, ih]
      rw [Value.isSameKey_text] at apart
      by_cases here : name = other
      · subst here
        simp [Value.isSameKey_text, apart]
      · simp [here]

/-- Fields that are put into a dictionary change nothing under other names. -/
theorem get?_merge_ofFields {fields : List (String × Value)} {name : String}
    (other : name ∉ Assoc.keys fields) :
    (d.merge (ofFields fields)).get? (.text name) = d.get? (.text name) := by
  induction fields generalizing d with
  | nil => rfl
  | cons field rest ih =>
    obtain ⟨apart, other⟩ := not_or.mp (mt List.mem_cons.mpr other)
    have step : d.merge (ofFields (field :: rest)) =
        (d.put (.text field.1) field.2).merge (ofFields rest) := rfl
    rw [step, ih other, get?_put_text, if_neg (Ne.symm apart)]

theorem ofFields_put (fields : Assoc Value) (name : String) (value : Value) :
    ofFields (fields.put name value) = (ofFields fields).put (.text name) value := by
  induction fields with
  | nil => rfl
  | cons field rest ih =>
    have cons_eq : ofFields (field :: rest) = (.text field.1, field.2) :: ofFields rest := rfl
    rw [cons_eq, Assoc.put, put]
    simp only [Value.isSameKey_text, Value.text.injEq]
    split
    · rfl
    · rw [← ih]
      rfl

/-- Merging fields is merging them as entries. -/
theorem ofFields_merge (fields others : Assoc Value) :
    ofFields (fields.merge others) = (ofFields fields).merge (ofFields others) := by
  induction others generalizing fields with
  | nil => rfl
  | cons field rest ih =>
    have step : ofFields (fields.merge (field :: rest)) =
        ofFields ((fields.put field.1 field.2).merge rest) := rfl
    rw [step, ih, ofFields_put]
    rfl

/-- Every value after putting one is this one or was there before. -/
theorem mem_put {k w : Value} (h : (k, w) ∈ d.put key value) :
    w = value ∨ ∃ k', (k', w) ∈ d := by
  induction d with
  | nil =>
    cases List.mem_singleton.mp h
    exact .inl rfl
  | cons entry rest ih =>
    obtain ⟨first, v⟩ := entry
    rw [put] at h
    split at h
    · rcases List.mem_cons.mp h with h | h
      · cases h
        exact .inl rfl
      · exact .inr ⟨k, List.mem_cons_of_mem _ h⟩
    · rcases List.mem_cons.mp h with h | h
      · cases h
        exact .inr ⟨k, List.mem_cons_self⟩
      · refine (ih h).imp_right ?_
        rintro ⟨k', mem⟩
        exact ⟨k', List.mem_cons_of_mem _ mem⟩

/-- Merging brings no values but those of the two dictionaries. -/
theorem mem_merge {k w : Value} (h : (k, w) ∈ d.merge e) :
    (∃ k', (k', w) ∈ d) ∨ ∃ k', (k', w) ∈ e := by
  induction e generalizing d with
  | nil => exact .inl ⟨k, h⟩
  | cons entry rest ih =>
    rcases ih (d := d.put entry.1 entry.2) h with ⟨k', mem⟩ | ⟨k', mem⟩
    · rcases mem_put mem with rfl | old
      · exact .inr ⟨entry.1, List.mem_cons_self⟩
      · exact .inl old
    · exact .inr ⟨k', List.mem_cons_of_mem _ mem⟩

/-! ### Back to a value -/

theorem ofFields_of_fields? {fields : List (String × Value)} (h : d.fields? = some fields) :
    ofFields fields = d := by
  induction d generalizing fields with
  | nil =>
    cases h
    rfl
  | cons entry rest ih =>
    obtain ⟨k, v⟩ := entry
    rw [fields?, List.mapM_cons] at h
    cases k with
    | text name =>
      cases later : fields? rest with
      | none =>
        rw [fields?] at later
        simp [later] at h
      | some others =>
        have rest_eq := ih later
        rw [fields?] at later
        simp only [later, Option.pure_def, Option.bind_eq_bind, Option.bind_some,
          Option.some.injEq] at h
        rw [← h, ← rest_eq]
        rfl
    | _ => simp at h

theorem entries?_toValue (d : Entries) : d.toValue.entries? = some d := by
  rw [toValue]
  split
  · next fields h => rw [Value.entries?, ofFields_of_fields? h]
  · rfl

end Entries

/-! ### Nesting -/

namespace Value

mutual

/-- How deeply a value is nested. A value without parts is not nested at all. -/
def depth : Value → Nat
  | .list xs => depthOfElements xs
  | .object fields => depthOfFields fields
  | .mapping entries => depthOfEntries entries
  | _ => 0

def depthOfElements : List Value → Nat
  | [] => 0
  | x :: xs => max (depth x + 1) (depthOfElements xs)

def depthOfFields : List (String × Value) → Nat
  | [] => 0
  | (_, v) :: rest => max (depth v + 1) (depthOfFields rest)

def depthOfEntries : List (Value × Value) → Nat
  | [] => 0
  | (k, v) :: rest => max (max (depth k) (depth v) + 1) (depthOfEntries rest)

end

theorem depth_lt_of_mem_elements {x : Value} {xs : List Value} (h : x ∈ xs) :
    x.depth < depthOfElements xs := by
  induction xs with
  | nil => cases h
  | cons y rest ih =>
    rw [depthOfElements]
    rcases List.mem_cons.mp h with rfl | h
    · omega
    · have := ih h
      omega

theorem depth_lt_of_mem_fields {name : String} {v : Value} {fields : List (String × Value)}
    (h : (name, v) ∈ fields) : v.depth < depthOfFields fields := by
  induction fields with
  | nil => cases h
  | cons field rest ih =>
    rw [depthOfFields]
    rcases List.mem_cons.mp h with rfl | h
    · dsimp only
      omega
    · have := ih h
      omega

theorem depth_lt_of_mem_entries {k v : Value} {entries : Entries} (h : (k, v) ∈ entries) :
    k.depth < depthOfEntries entries ∧ v.depth < depthOfEntries entries := by
  induction entries with
  | nil => cases h
  | cons entry rest ih =>
    rw [depthOfEntries]
    rcases List.mem_cons.mp h with rfl | h
    · dsimp only
      omega
    · have := ih h
      omega

/-- What lies in a dictionary is nested less deeply than the dictionary. -/
theorem depth_lt_of_entries? {v k w : Value} {entries : Entries} (h : v.entries? = some entries)
    (mem : (k, w) ∈ entries) : w.depth < v.depth := by
  cases v with
  | object fields =>
    cases h
    obtain ⟨⟨name, x⟩, hfield, entry_eq⟩ := List.mem_map.mp mem
    cases entry_eq
    rw [depth]
    exact depth_lt_of_mem_fields hfield
  | mapping entries =>
    cases h
    rw [depth]
    exact (depth_lt_of_mem_entries mem).2
  | _ => cases h

end Value

namespace Entries

/-- A part is nested no deeper than the whole. -/
theorem depth_le_of_mem_parts? {v x : Value} {parts : List Value} (h : parts? v = some parts)
    (mem : x ∈ parts) : x.depth ≤ v.depth := by
  cases v with
  | list xs =>
    cases h
    exact Nat.le_of_lt (Value.depth_lt_of_mem_elements mem)
  | text s =>
    cases h
    obtain ⟨c, -, rfl⟩ := List.mem_map.mp mem
    exact Nat.zero_le _
  | object fields =>
    cases h
    obtain ⟨field, -, rfl⟩ := List.mem_map.mp mem
    exact Nat.zero_le _
  | mapping entries =>
    cases h
    obtain ⟨entry, hentry, rfl⟩ := List.mem_map.mp mem
    exact Nat.le_of_lt (Value.depth_lt_of_mem_entries hentry).1
  | _ => cases h

/-- A pair comes from a value with two parts, and its value is the second. -/
theorem parts?_of_pair {i : Nat} {v k w : Value} (h : pair i v = .ok (k, w)) :
    parts? v = some [k, w] := by
  rw [pair] at h
  split at h
  · next key x parts_eq =>
    obtain ⟨_, -, h⟩ := Outcome.bind_eq_ok.mp h
    cases h
    exact parts_eq
  · cases h
  · cases h

/-- The entries that values make are made of their parts. -/
theorem mem_pairs {i : Nat} {vs : List Value} {k w : Value} {d : Entries}
    (h : pairs i vs = .ok d) (mem : (k, w) ∈ d) : ∃ v ∈ vs, parts? v = some [k, w] := by
  induction vs generalizing i d with
  | nil =>
    cases h
    cases mem
  | cons v rest ih =>
    rw [pairs] at h
    obtain ⟨entry, first, h⟩ := Outcome.bind_eq_ok.mp h
    obtain ⟨others, later, h⟩ := Outcome.bind_eq_ok.mp h
    cases h
    rcases List.mem_cons.mp mem with rfl | mem
    · exact ⟨v, List.mem_cons_self, parts?_of_pair first⟩
    · obtain ⟨u, hu, parts_eq⟩ := ih later mem
      exact ⟨u, List.mem_cons_of_mem _ hu, parts_eq⟩

/-- A dictionary is taken as it is; of anything else the parts are pairs. -/
theorem ofValue_cases {v : Value} {d : Entries} (h : ofValue v = .ok d) :
    v.entries? = some d ∨
      v.entries? = none ∧ ∃ parts entries, parts? v = some parts ∧ pairs 0 parts = .ok entries ∧
        d = merge [] entries := by
  have made : ∀ parts, parts? v = some parts →
      (pairs 0 parts >>= fun entries => pure (merge [] entries)) = Except.ok d →
      ∃ parts entries, parts? v = some parts ∧ pairs 0 parts = .ok entries ∧
        d = merge [] entries := by
    intro parts parts_eq h
    obtain ⟨entries, paired, h⟩ := Outcome.bind_eq_ok.mp h
    cases h
    exact ⟨parts, entries, parts_eq, paired, rfl⟩
  cases v with
  | object fields =>
    cases h
    exact .inl rfl
  | mapping entries =>
    cases h
    exact .inl rfl
  | list xs => exact .inr ⟨rfl, made xs rfl h⟩
  | text s => exact .inr ⟨rfl, made _ rfl h⟩
  | _ => cases h

/-- What lies in the dictionary that a value makes is nested less deeply than the value. -/
theorem depth_lt_of_ofValue {v k w : Value} {d : Entries} (h : ofValue v = .ok d)
    (mem : (k, w) ∈ d) : w.depth < v.depth := by
  rcases ofValue_cases h with known | ⟨unknown, parts, entries, parts_eq, paired, rfl⟩
  · exact Value.depth_lt_of_entries? known mem
  · obtain ⟨k', inside⟩ := (mem_merge mem).resolve_left (by simp)
    obtain ⟨part, hpart, pair_eq⟩ := mem_pairs paired inside
    have second : w.depth ≤ part.depth := depth_le_of_mem_parts? pair_eq (by simp)
    cases v with
    | list xs =>
      cases parts_eq
      exact Nat.lt_of_le_of_lt second (Value.depth_lt_of_mem_elements hpart)
    | text s =>
      -- a text is cut into single characters, which are no pairs
      cases parts_eq
      obtain ⟨c, -, rfl⟩ := List.mem_map.mp hpart
      simp [parts?] at pair_eq
    | object fields => cases unknown
    | mapping entries => cases unknown
    | _ => cases parts_eq

end Entries

end CodeBehind
