import CodeBehind.Assoc
import Mathlib.Data.List.Nodup

/-!
Dictionaries by what is found in them.

Putting a value under a key and removing a key change what is found under this key and nothing else
(`get?_put`, `get?_erase`). Keys that are distinct stay so, and then dropping entries by any test
drops exactly what the test refuses (`get?_filter`); with a key twice in the list, dropping its
first entry would bring the second one to light. Two dictionaries with distinct keys in which the
same is found have the same entries, if in another order (`perm_of_get?_eq`). Of two dictionaries
that are merged the second one counts (`get?_merge`), and where they have no key in common they are
simply put together (`merge_of_apart`).
-/

namespace CodeBehind.Assoc

variable {α : Type} {d : Assoc α} {key : String}

theorem get?_cons (entry : String × α) (rest : Assoc α) (key : String) :
    get? (entry :: rest) key = if entry.1 = key then some entry.2 else get? rest key :=
  rfl

theorem keys_cons (entry : String × α) (rest : Assoc α) :
    keys (entry :: rest) = entry.1 :: keys rest :=
  rfl

/-- What is found under a key stands in the dictionary. -/
theorem mem_of_get? {value : α} (h : d.get? key = some value) : (key, value) ∈ d := by
  induction d with
  | nil => cases h
  | cons entry rest ih =>
    obtain ⟨k, v⟩ := entry
    rw [Assoc.get?] at h
    split at h
    · next same =>
      cases h
      cases same
      exact List.mem_cons_self
    · exact List.mem_cons_of_mem _ (ih h)

/-- A key is in a dictionary if a value is found under it. -/
theorem has_iff : d.has key = true ↔ ∃ value, d.get? key = some value :=
  Option.isSome_iff_exists

theorem has_eq_false_iff : d.has key = false ↔ d.get? key = none := by
  rw [has, Option.isSome_eq_false_iff, Option.isNone_iff_eq_none]

theorem has_iff_mem_keys : d.has key = true ↔ key ∈ d.keys := by
  induction d with
  | nil => simp [has, get?, keys]
  | cons entry rest ih =>
    rw [keys_cons, List.mem_cons, ← ih, has, get?_cons]
    split
    · next same => simp [same]
    · next other => simp [has, Ne.symm other]

/-- Only in the empty dictionary nothing is found under any key. -/
theorem eq_nil_iff : d = [] ↔ ∀ key, d.get? key = none := by
  cases d with
  | nil => simp [get?]
  | cons entry rest =>
    have found : get? (entry :: rest) entry.1 ≠ none := by simp [get?_cons]
    simpa using ⟨entry.1, found⟩

/-! ### Putting and removing -/

/-- A value that is put under a key is found there, and what is under other keys stays. -/
theorem get?_put (d : Assoc α) (key : String) (value : α) (other : String) :
    (d.put key value).get? other = if key = other then some value else d.get? other := by
  induction d with
  | nil => rfl
  | cons entry rest ih =>
    obtain ⟨k, v⟩ := entry
    rw [put]
    split
    · next same =>
      subst same
      by_cases here : k = other <;> simp [get?_cons, here]
    · next apart =>
      rw [get?_cons, get?_cons, ih]
      by_cases here : k = other
      · subst here
        simp [Ne.symm apart]
      · simp [here]

theorem has_put (d : Assoc α) (key : String) (value : α) (other : String) :
    (d.put key value).has other = (key == other || d.has other) := by
  rw [has, get?_put, has]
  by_cases here : key = other <;> simp [here]

/-- A key that is new comes last. -/
theorem keys_put (d : Assoc α) (key : String) (value : α) :
    (d.put key value).keys = if key ∈ d.keys then d.keys else d.keys ++ [key] := by
  induction d with
  | nil => rfl
  | cons entry rest ih =>
    obtain ⟨k, v⟩ := entry
    rw [put]
    by_cases here : k = key
    · simp [here, keys_cons]
    · rw [if_neg here, keys_cons, keys_cons, ih]
      by_cases later : key ∈ keys rest <;> simp [later, Ne.symm here]

/-- Nothing is found under a key that was erased, and what is under other keys stays. -/
theorem get?_erase (d : Assoc α) (key other : String) :
    (d.erase key).get? other = if key = other then none else d.get? other := by
  induction d with
  | nil => simp [erase, get?]
  | cons entry rest ih =>
    rw [erase] at ih ⊢
    by_cases dropped : entry.1 = key
    · rw [List.filter_cons_of_neg (by simpa using dropped), ih, get?_cons, dropped]
      split <;> rfl
    · rw [List.filter_cons_of_pos (by simpa using dropped), get?_cons, get?_cons, ih]
      by_cases here : entry.1 = other
      · rw [if_pos here, if_pos here, if_neg fun same => dropped (here.trans same.symm)]
      · rw [if_neg here, if_neg here]

theorem has_erase (d : Assoc α) (key other : String) :
    (d.erase key).has other = (key != other && d.has other) := by
  rw [has, get?_erase, has]
  by_cases here : key = other <;> simp [here]

theorem erase_of_not_has (h : d.has key = false) : d.erase key = d := by
  rw [erase, List.filter_eq_self]
  intro entry mem
  rw [decide_eq_true_iff]
  rintro rfl
  have known := has_iff_mem_keys.mpr (List.mem_map_of_mem mem : entry.1 ∈ d.keys)
  rw [h] at known
  cases known

/-- Removing a key takes out what was put under it. -/
theorem erase_put (d : Assoc α) (key : String) (value : α) :
    (d.put key value).erase key = d.erase key := by
  induction d with
  | nil => simp [put, erase]
  | cons entry rest ih =>
    obtain ⟨k, v⟩ := entry
    rw [put]
    by_cases here : k = key
    · simp [erase, here]
    · simpa [erase, here] using ih

/-- Entries with one value can be taken out as before after putting this value under a key that had
it already or had none. -/
theorem filter_put [DecidableEq α] {value : α}
    (only : ∀ v, d.get? key = some v → v = value) :
    (d.put key value).filter (·.2 ≠ value) = d.filter (·.2 ≠ value) := by
  induction d with
  | nil => simp [put]
  | cons entry rest ih =>
    obtain ⟨k, v⟩ := entry
    rw [put]
    by_cases here : k = key
    · have same : v = value := only v (by rw [get?_cons, if_pos here])
      simp [here, same]
    · rw [get?_cons, if_neg here] at only
      have kept := ih only
      simp only [ne_eq, decide_not] at kept
      simp [here, List.filter_cons, kept]

/-- What is found where every key of a list has its value by one rule. -/
theorem get?_map {keys : List String} (rule : String → α) (key : String) :
    get? (keys.map fun k => (k, rule k)) key = if key ∈ keys then some (rule key) else none := by
  induction keys with
  | nil => rfl
  | cons first rest ih =>
    rw [List.map_cons, get?_cons, ih]
    by_cases here : first = key
    · simp [here]
    · simp [here, Ne.symm here]

/-! ### Distinct keys -/

/-- Where the keys are distinct, every entry is found under its key. -/
theorem get?_of_mem (distinct : d.keys.Nodup) {value : α} (mem : (key, value) ∈ d) :
    d.get? key = some value := by
  induction d with
  | nil => cases mem
  | cons entry rest ih =>
    obtain ⟨new, distinct⟩ := List.nodup_cons.mp distinct
    rw [get?_cons]
    rcases List.mem_cons.mp mem with rfl | later
    · exact if_pos rfl
    · rw [if_neg ?_, ih distinct later]
      intro same
      exact new (List.mem_map.mpr ⟨_, later, same.symm⟩)

theorem nodup_put (distinct : d.keys.Nodup) (key : String) (value : α) :
    (d.put key value).keys.Nodup := by
  rw [keys_put]
  split
  · exact distinct
  · next new => simpa [List.nodup_append] using ⟨distinct, fun k mem same => new (same ▸ mem)⟩

theorem nodup_filter (distinct : d.keys.Nodup) (keep : String × α → Bool) :
    (keys (d.filter keep)).Nodup :=
  distinct.sublist (List.filter_sublist.map _)

/-- Where the keys are distinct, look-up in the entries that are kept is look-up, and then the test.
-/
theorem get?_filter (distinct : d.keys.Nodup) (keep : String × α → Bool) (key : String) :
    get? (d.filter keep) key = (d.get? key).filter fun value => keep (key, value) := by
  induction d with
  | nil => rfl
  | cons entry rest ih =>
    obtain ⟨k, v⟩ := entry
    obtain ⟨new, distinct⟩ := List.nodup_cons.mp distinct
    rw [get?_cons]
    by_cases here : k = key
    · subst here
      -- the first entry is the only one of its key
      have gone : get? (rest.filter keep) k = none := by
        have absent : get? rest k = none := by
          rw [← has_eq_false_iff, Bool.eq_false_iff]
          exact mt has_iff_mem_keys.mp new
        rw [ih distinct, absent]
        rfl
      by_cases kept : keep (k, v) = true
      · simp [List.filter_cons_of_pos kept, get?_cons, Option.filter_some, kept]
      · simp [List.filter_cons_of_neg kept, gone, Option.filter_some, kept]
    · rw [if_neg here, ← ih distinct]
      by_cases kept : keep (k, v) = true
      · rw [List.filter_cons_of_pos kept, get?_cons, if_neg here]
      · rw [List.filter_cons_of_neg kept]

/-- Dictionaries with distinct keys are the same up to order when the same is found in them. -/
theorem perm_of_get?_eq {e : Assoc α} (distinct : d.keys.Nodup) (distinct' : e.keys.Nodup)
    (same : ∀ key, d.get? key = e.get? key) : d.Perm e := by
  rw [List.perm_ext_iff_of_nodup (.of_map _ distinct) (.of_map _ distinct')]
  rintro ⟨key, value⟩
  constructor
  · intro mem
    apply mem_of_get?
    rw [← same, get?_of_mem distinct mem]
  · intro mem
    apply mem_of_get?
    rw [same, get?_of_mem distinct' mem]

/-- Where the keys are distinct, look-up does not depend on the order of the entries. -/
theorem get?_eq_of_perm {e : Assoc α} (distinct : d.keys.Nodup) (perm : d.Perm e)
    (key : String) : d.get? key = e.get? key := by
  have distinct' : e.keys.Nodup := (perm.map _).nodup_iff.mp distinct
  ext value
  constructor
  · intro found
    exact get?_of_mem distinct' (perm.mem_iff.mp (mem_of_get? found))
  · intro found
    exact get?_of_mem distinct (perm.mem_iff.mpr (mem_of_get? found))

/-! ### Merging -/

/-- Two dictionaries may be put into a third one at once or one after the other. -/
theorem merge_append (d e f : Assoc α) : d.merge (e ++ f) = (d.merge e).merge f :=
  List.foldl_append

theorem nodup_merge (distinct : d.keys.Nodup) (e : Assoc α) : (d.merge e).keys.Nodup := by
  induction e generalizing d with
  | nil => exact distinct
  | cons entry rest ih => exact ih (nodup_put distinct entry.1 entry.2)

theorem mem_of_mem_put {key : String} {value : α} {entry : String × α}
    (mem : entry ∈ d.put key value) : entry ∈ d ∨ entry = (key, value) := by
  induction d with
  | nil => exact .inr (List.mem_singleton.mp mem)
  | cons first rest ih =>
    rw [put] at mem
    split at mem
    · next same =>
      rcases List.mem_cons.mp mem with rfl | later
      · exact .inr (by rw [same])
      · exact .inl (List.mem_cons_of_mem _ later)
    · rcases List.mem_cons.mp mem with rfl | later
      · exact .inl List.mem_cons_self
      · exact (ih later).imp_left (List.mem_cons_of_mem _)

/-- A merged dictionary holds nothing but entries of the two. -/
theorem mem_of_mem_merge {e : Assoc α} {entry : String × α} (mem : entry ∈ d.merge e) :
    entry ∈ d ∨ entry ∈ e := by
  induction e generalizing d with
  | nil => exact .inl mem
  | cons new rest ih =>
    rcases ih mem with inside | later
    · rcases mem_of_mem_put inside with old | rfl
      · exact .inl old
      · exact .inr List.mem_cons_self
    · exact .inr (List.mem_cons_of_mem _ later)

/-- Where the keys put in are distinct, what they are given counts, and all else is as before. -/
theorem get?_merge {e : Assoc α} (distinct : e.keys.Nodup) (d : Assoc α) (key : String) :
    (d.merge e).get? key = (e.get? key).or (d.get? key) := by
  induction e generalizing d with
  | nil => rfl
  | cons entry rest ih =>
    obtain ⟨new, distinct⟩ := List.nodup_cons.mp distinct
    have step : d.merge (entry :: rest) = (d.put entry.1 entry.2).merge rest := rfl
    rw [step, ih distinct, get?_put, get?_cons]
    by_cases here : entry.1 = key
    · have gone : get? rest key = none := by
        rw [← has_eq_false_iff, Bool.eq_false_iff, ← here]
        exact mt has_iff_mem_keys.mp new
      simp [here, gone]
    · simp [here]

/-- A value under a new key comes last. -/
theorem put_of_not_mem {key : String} (new : key ∉ d.keys) (value : α) :
    d.put key value = d ++ [(key, value)] := by
  induction d with
  | nil => rfl
  | cons entry rest ih =>
    obtain ⟨apart, new⟩ := not_or.mp (mt List.mem_cons.mpr new)
    rw [put, if_neg (Ne.symm apart), ih new]
    rfl

/-- New keys go to the end. -/
theorem merge_of_apart {e : Assoc α} (distinct : e.keys.Nodup)
    (apart : ∀ key ∈ e.keys, key ∉ d.keys) : d.merge e = d ++ e := by
  induction e generalizing d with
  | nil => exact (List.append_nil d).symm
  | cons entry rest ih =>
    obtain ⟨new, distinct⟩ := List.nodup_cons.mp distinct
    obtain ⟨here, later⟩ := List.forall_mem_cons.mp apart
    have step : d.merge (entry :: rest) = (d.put entry.1 entry.2).merge rest := rfl
    rw [step, put_of_not_mem here, ih distinct, List.append_assoc]
    · rfl
    · intro key mem
      rw [keys, List.map_append, List.mem_append, not_or]
      refine ⟨later key mem, ?_⟩
      rw [List.map_singleton, List.mem_singleton]
      rintro rfl
      exact new mem

end CodeBehind.Assoc
