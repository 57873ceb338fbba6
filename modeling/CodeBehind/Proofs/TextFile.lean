import CodeBehind.Proofs.Disk
import CodeBehind.Proofs.Text.LineEnds
import CodeBehind.Proofs.Text.Utf8
import CodeBehind.TextFile

/-!
Writing and reading text files.

A file that is written holds the UTF-8 of its text (`holdsText_of_write`). The reader makes of it
`asRead`, which is the text itself exactly if it has no carriage return in it and no byte order mark
in front of it (`asRead_eq_self_iff`).
-/

namespace CodeBehind.TextFile

variable {d d' : Disk} {path content text : String}

/-- What is read is the text that the octets at the path stand for. -/
theorem read_eq_ok (h : (read d path).outcome = .ok text) :
    ∃ octets, d.read (Path.tidy path) = .ok octets ∧ decode octets = .ok text := by
  rw [read] at h
  split at h
  · cases h
  · cases h
  · obtain ⟨octets, found, decoded⟩ := Outcome.bind_eq_ok.mp h
    exact ⟨octets, Outcome.mapError_eq_ok.mp found, Outcome.mapError_eq_ok.mp decoded⟩

def HoldsText (d : Disk) (path text : String) : Prop :=
  d.read (Path.tidy path) = .ok text.toUTF8.data.toList

instance (d : Disk) (path text : String) : Decidable (HoldsText d path text) :=
  inferInstanceAs (Decidable (_ = _))

/-- A text that was written is what the file holds. -/
theorem holdsText_of_write (h : (write d path content).outcome = .ok d') :
    HoldsText d' path content := by
  rw [HoldsText, ← Text.Utf8.encode_toList]
  exact Disk.read_of_write (Outcome.mapError_eq_ok.mp h)

/-- What the reader makes of a text: it passes over a byte order mark and unifies line ends. -/
def asRead (text : String) : String :=
  String.ofList (Text.unifyBreaks (Text.Utf8.withoutMark text.toList))

/-- A file that holds a text is read as the reader makes it. -/
theorem read_of_holdsText (h : HoldsText d path text) :
    (read d path).outcome = .ok (asRead text) := by
  have there : d.exists? (Path.tidy path) = .ok true := Disk.exists_of_read h
  have decoded : decode text.toUTF8.data.toList = .ok (asRead text) := by
    rw [← Text.Utf8.encode_toList, decode, Text.Utf8.decodeMarked_encode]
    rfl
  rw [HoldsText] at h
  rw [read, there]
  dsimp only
  rw [contents, h, Except.mapError]
  simp only [bind, Except.bind, decoded]
  rfl

/-- The reader makes the same of two texts exactly if they have the same lines behind the marks that
they may begin with. -/
theorem asRead_eq_iff {a b : String} :
    asRead a = asRead b ↔
      Text.SameButEnds (Text.Utf8.withoutMark a.toList) (Text.Utf8.withoutMark b.toList) := by
  rw [asRead, asRead, String.ofList_inj, Text.sameButEnds_iff]

/-- A text comes back unchanged if it has no carriage return and no mark in front. -/
theorem asRead_eq_self_iff :
    asRead text = text ↔ '\r' ∉ text.toList ∧ text.toList.head? ≠ some '\uFEFF' := by
  have chars : asRead text = text ↔
      Text.unifyBreaks (Text.Utf8.withoutMark text.toList) = text.toList := by
    rw [← String.toList_inj, asRead, String.toList_ofList]
  rw [chars]
  by_cases marked : text.toList.head? = some '\uFEFF'
  · obtain ⟨rest, marked⟩ := List.head?_eq_some_iff.mp marked
    rw [marked]
    refine iff_of_false (fun same => ?_) fun h => h.2 rfl
    have shorter := Text.length_unifyBreaks_le rest
    have length := congrArg List.length same
    rw [List.length_cons] at length
    have behind : Text.Utf8.withoutMark ('\uFEFF' :: rest) = rest := rfl
    rw [behind] at length
    omega
  · rw [Text.Utf8.withoutMark_of_ne marked, Text.unifyBreaks_eq_self_iff]
    exact (and_iff_left marked).symm

end CodeBehind.TextFile
