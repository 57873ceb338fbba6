import CodeBehind.Proofs.Json.RoundTrip
import CodeBehind.Proofs.Outcome

/-!
The names in an object that is read.

A reader puts the members of an object in one after the other, so a name that is given twice is
there once (`nodup_of_members`). Only the members of an object make one (`notObject_of_scalar`,
`list_of_elements`), so the names in any object that is read are distinct (`nodup_of_read`).
-/

namespace CodeBehind.Json

variable {fuel nesting : Nat} {cs rest : List Char} {v : Value}

/-! ### What is no object -/

theorem notObject_of_numberFrom {negative : Bool} {unsigned : List Char}
    (h : numberFrom negative unsigned cs = .ok (v, rest)) (fields : Assoc Value) :
    v ≠ .object fields := by
  rintro rfl
  rw [numberFrom] at h
  split at h
  · cases h
  · dsimp only at h
    split at h
    · split at h <;> cases h
    · cases h

/-- No value without brackets is an object. -/
theorem notObject_of_scalar (h : scalar cs = .ok (v, rest)) (fields : Assoc Value) :
    v ≠ .object fields := by
  rw [scalar] at h
  split at h
  · next found found_eq =>
    cases h
    obtain ⟨entry, mem, entry_eq⟩ := List.exists_of_findSome?_eq_some found_eq
    obtain ⟨_, -, same⟩ := Option.map_eq_some_iff.mp entry_eq
    have plain : ∀ entry ∈ words, entry.2.entries? = none := by decide
    obtain ⟨same, -⟩ := Prod.mk.inj same
    rintro rfl
    have none := plain entry mem
    rw [same] at none
    cases none
  · exact notObject_of_numberFrom (number_eq cs ▸ h) fields

theorem list_of_elements {before : List Value}
    (h : elements fuel nesting before cs = .ok (v, rest)) : ∃ xs, v = .list xs := by
  induction fuel generalizing before cs with
  | zero => cases h
  | succ fuel ih =>
    obtain ⟨⟨x, after⟩, -, h⟩ := Outcome.bind_eq_ok.mp h
    dsimp only at h
    split at h
    · cases h
      exact ⟨_, rfl⟩
    · exact ih h
    · cases h

/-! ### What is one -/

/-- The members of an object are put into a dictionary, so no name comes twice. -/
theorem nodup_of_members {before : Assoc Value} (distinct : before.keys.Nodup)
    (h : members fuel nesting before cs = .ok (v, rest)) :
    ∃ fields : Assoc Value, v = .object fields ∧ fields.keys.Nodup := by
  induction fuel generalizing before cs with
  | zero => cases h
  | succ fuel ih =>
    unfold members at h
    split at h
    · obtain ⟨⟨name, colon⟩, -, h⟩ := Outcome.bind_eq_ok.mp h
      dsimp only at h
      split at h
      · obtain ⟨⟨member, after⟩, -, h⟩ := Outcome.bind_eq_ok.mp h
        -- whatever comes after it, the member is put in, and the names stay distinct
        have still := Assoc.nodup_put distinct name member
        dsimp only at h
        split at h
        · cases h
          exact ⟨_, rfl, still⟩
        · exact ih still h
        · cases h
      · cases h
    · cases h

/-- No object that is read has two fields of one name. -/
theorem nodup_of_value {fields : Assoc Value}
    (h : value fuel nesting cs = .ok (.object fields, rest)) : fields.keys.Nodup := by
  cases fuel with
  | zero => cases h
  | succ fuel =>
    unfold value at h
    split at h
    · obtain ⟨⟨s, after⟩, -, h⟩ := Outcome.bind_eq_ok.mp h
      cases h
    · cases h
    · split at h
      · cases h
      · obtain ⟨xs, same⟩ := list_of_elements h
        cases same
    · cases h
    · split at h
      · cases h
        exact List.nodup_nil
      · have none_before : (@Assoc.keys Value []).Nodup := List.nodup_nil
        obtain ⟨_, same, distinct⟩ := nodup_of_members none_before h
        cases same
        exact distinct
    · exact absurd rfl (notObject_of_scalar h fields)

/-- The names in an object that is read are distinct. -/
theorem nodup_of_read {fields : Assoc Value} (h : read nesting cs = .ok (.object fields)) :
    fields.keys.Nodup := by
  have found := whole_of_read h
  obtain ⟨⟨v, rest⟩, read_eq, found⟩ := Outcome.bind_eq_ok.mp found
  dsimp only at found
  split at found
  · cases found
    exact nodup_of_value read_eq
  · cases found

end CodeBehind.Json
