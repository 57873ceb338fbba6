import CodeBehind.Disk
import CodeBehind.Proofs.Outcome

/-!
Writing to a disk and reading back.

A file that is written can be found and read at the same path, as the octets that it was written
with (`exists_of_write`, `read_of_write`). Writing takes nothing away (`isDirectory_put`,
`holds_put`), so a path leads where it led before (`locate_put`); and a file makes no directory of
its own location (`isDirectory_put_self`). On any disk, what can be read is there
(`exists_of_read`), and what is there but cannot be read is refused by the operating system
(`isSystem_of_read`).
-/

namespace CodeBehind.Disk

variable {d : Disk} {l other : Location} {octets : List UInt8}

/-! ### Putting a file -/

@[simp] theorem home_put : (d.put l octets).home = d.home := rfl

/-- A file that is put somewhere lies there, and the others stay. -/
theorem octets?_put (d : Disk) (l : Location) (octets : List UInt8) (other : Location) :
    (d.put l octets).octets? other = if l = other then some octets else d.octets? other := by
  rw [put, octets?, List.find?_cons]
  by_cases here : l = other
  · simp [here]
  · have kept : (d.files.filter (·.location ≠ l)).find? (·.location = other) =
        d.files.find? (·.location = other) := by
      rw [List.find?_filter]
      congr 1
      funext f
      by_cases found : f.location = other
      · simp [found, Ne.symm here]
      · simp [found]
    simp only [here, decide_false, kept]
    rfl

/-- Putting a file leaves the directories as they are. -/
theorem isDirectory_put (h : d.isDirectory other = true) :
    (d.put l octets).isDirectory other = true := by
  simp only [isDirectory, put, Bool.or_eq_true, List.any_cons, List.any_eq_true] at h ⊢
  rcases h with h | ⟨f, mem, below⟩
  · exact .inl h
  · refine .inr ?_
    by_cases here : f.location = l
    · exact .inl (here ▸ below)
    · exact .inr ⟨f, List.mem_filter.mpr ⟨mem, by simpa using here⟩, below⟩

theorem isDirectory_put_self (h : d.isDirectory l = false) :
    (d.put l octets).isDirectory l = false := by
  simp only [isDirectory, put, Bool.or_eq_false_iff, List.any_cons, List.any_eq_false] at h ⊢
  refine ⟨h.1, by simp, ?_⟩
  intro f mem
  exact h.2 f (List.mem_filter.mp mem).1

theorem holds_put (h : d.holds other = true) : (d.put l octets).holds other = true := by
  rw [holds, Bool.or_eq_true] at h ⊢
  rcases h with h | h
  · exact .inl (isDirectory_put h)
  · refine .inr ?_
    rw [octets?_put]
    split
    · rfl
    · exact h

/-! ### Finding the way -/

/-- A way that can be gone can still be gone when a file has been put anywhere. -/
theorem walk_put {start goal : Location} {names : List String} (h : d.walk start names = .ok goal) :
    (d.put l octets).walk start names = .ok goal := by
  induction names generalizing start with
  | nil => exact h
  | cons c rest ih =>
    rw [walk] at h ⊢
    split at h
    · cases h
    · next directory =>
      have directory : (d.put l octets).isDirectory start = true :=
        isDirectory_put (by simpa using directory)
      rw [directory, if_neg (by decide)]
      split at h
      · next up => rw [if_pos up, ih h]
      · next down =>
        rw [if_neg down]
        split at h
        · cases h
        · next short =>
          rw [if_neg short]
          split at h
          · next there =>
            rw [if_pos ?_, ih h]
            rw [Bool.or_eq_true] at there ⊢
            exact there.imp_right holds_put
          · cases h

/-- Where a way leads, unless it asks for a directory where there is none. -/
def arrive (d : Disk) (path : String) (l : Location) : Except AccessError Location :=
  if Path.endsInDirectory path && !d.isDirectory l then
    .error (if d.holds l then .notDirectory else .notFound)
  else .ok l

/-- A path leads where its components do, from the root or from home, unless it cannot be asked
about. -/
theorem locate_eq (d : Disk) (path : String) :
    d.locate path =
      if path.toList.contains '\x00' then .error .nullCharacter
      else if pathLimit ≤ path.utf8ByteSize then .error .nameTooLong
      else
        d.walk (if Path.isAbsolute path then [] else d.home) (Path.components path) >>=
          d.arrive path := by
  unfold locate arrive
  split
  · rfl
  split
  · rfl
  cases d.walk (if Path.isAbsolute path then [] else d.home) (Path.components path) with
  | error e => rfl
  | ok l =>
    simp only [bind, Except.bind]
    split <;> rfl

/-- Where a way leads does not change when a file is put somewhere. -/
theorem arrive_put {path : String} {goal : Location} (h : d.arrive path other = .ok goal) :
    (d.put l octets).arrive path other = .ok goal := by
  rw [arrive] at h ⊢
  split at h
  · cases h
  · next there =>
    rw [if_neg ?_, h]
    simp only [Bool.and_eq_true, Bool.not_eq_true', not_and, Bool.not_eq_false] at there ⊢
    exact fun asked => isDirectory_put (there asked)

theorem locate_put {path : String} (h : d.locate path = .ok other) :
    (d.put l octets).locate path = .ok other := by
  rw [locate_eq] at h ⊢
  split at h
  · cases h
  · next clean =>
    rw [if_neg clean]
    split at h
    · cases h
    · next short =>
      rw [if_neg short]
      obtain ⟨goal, way, h⟩ := Outcome.bind_eq_ok.mp h
      rw [home_put, walk_put way]
      exact arrive_put h

/-! ### Reading back -/

/-- Writing succeeds at a location that is no directory, and puts the file there. -/
theorem write_eq_ok {path : String} {d' : Disk} (h : d.write path octets = .ok d') :
    ∃ l, d.locate path = .ok l ∧ d.isDirectory l = false ∧ d' = d.put l octets := by
  rw [write] at h
  obtain ⟨l, way, h⟩ := Outcome.bind_eq_ok.mp h
  split at h
  · cases h
  · next free =>
    cases h
    exact ⟨l, way, eq_false_of_ne_true free, rfl⟩

section Write

variable {path : String} {d' : Disk} (h : d.write path octets = .ok d')
include h

/-- What was written is there. -/
theorem exists_of_write : d'.exists? path = .ok true := by
  obtain ⟨l, way, -, rfl⟩ := write_eq_ok h
  rw [exists?, locate_put way]
  simp [holds, octets?_put]

/-- What was written is read back. -/
theorem read_of_write : d'.read path = .ok octets := by
  obtain ⟨l, way, free, rfl⟩ := write_eq_ok h
  simp only [read, locate_put way, isDirectory_put_self free, octets?_put, bind, Except.bind]
  rfl

end Write

/-! ### Asking and reading -/

variable {path : String} {e : AccessError}

/-- Asking whether something is there fails for paths that are too long only. -/
theorem eq_nameTooLong_of_exists? (h : d.exists? path = .error e) : e = .nameTooLong := by
  rw [exists?] at h
  split at h <;> cases h
  rfl

/-- A file that can be read is there. -/
theorem exists_of_read (h : d.read path = .ok octets) : d.exists? path = .ok true := by
  rw [read] at h
  obtain ⟨l, way, h⟩ := Outcome.bind_eq_ok.mp h
  have there : d.holds l = true := by
    simp only [bind, Except.bind] at h
    rw [holds, Bool.or_eq_true]
    split at h
    · cases h
    · split at h
      · next found => exact .inr (found ▸ rfl)
      · cases h
  rw [exists?, way, ← there]

/-- What is there but cannot be read is refused by the operating system. -/
theorem isSystem_of_read (there : d.exists? path = .ok true) (h : d.read path = .error e) :
    e.isSystem = true := by
  rw [read] at h
  cases way : d.locate path with
  | error e' =>
    rw [exists?, way] at there
    cases e' <;> cases there
  | ok l =>
    simp only [way, bind, Except.bind] at h
    split at h
    · cases h
      rfl
    · split at h
      · cases h
      · cases h
        rfl

end CodeBehind.Disk
