import CodeBehind.Generation.OnDisk
import CodeBehind.Proofs.Disk
import CodeBehind.Proofs.Path.Way
import CodeBehind.Proofs.TextFile

/-!
Places on a disk.

Following a path through directories comes to the place that the path denotes by its components
alone, where every step up cancels the name in front of it (`locate_eq_ok`). So a text that is read
at a path is the text of the file at that place (`text?_of_read`).
-/

namespace CodeBehind

namespace Disk

variable {d : Disk} {path : String}

def text? (d : Disk) (l : Location) : Option String :=
  (d.octets? l).bind fun octets => (TextFile.decode octets).toOption

/-- Every part of where relative paths start from is a name. -/
def HasNames (d : Disk) : Prop :=
  ∀ name ∈ d.home, Path.IsName name

/-- Going up from names takes the last one off, where there is one. -/
theorem push_up_names {l : Location} (noUps : Path.up ∉ l) :
    Path.push true l.reverse Path.up = l.dropLast.reverse := by
  have stack : ∀ {stack : List String}, Path.up ∉ stack →
      Path.push true stack Path.up = stack.tail := by
    intro stack noUps
    cases stack with
    | nil => rfl
    | cons top below => exact Path.push_up fun eq => noUps (eq ▸ List.mem_cons_self)
  rw [stack fun mem => noUps (List.mem_reverse.mp mem), List.tail_reverse]

/-- Following names through directories cancels as the names do by themselves. -/
theorem walk_eq_ok {names : List String} {l goal : Location} (h : d.walk l names = .ok goal)
    (noUps : Path.up ∉ l) : goal = (names.foldl (Path.push true) l.reverse).reverse := by
  induction names generalizing l with
  | nil =>
    cases h
    rw [List.foldl_nil, List.reverse_reverse]
  | cons c rest ih =>
    rw [walk] at h
    split at h
    · cases h
    split at h
    · next goesUp =>
      rw [List.foldl_cons, goesUp, push_up_names noUps]
      exact ih h fun mem => noUps (List.dropLast_subset _ mem)
    split at h
    · cases h
    split at h
    · next name _ _ =>
      rw [List.foldl_cons, Path.push_of_ne name, ← List.reverse_concat]
      refine ih h fun mem => ?_
      rcases List.mem_append.mp mem with mem | mem
      · exact noUps mem
      · exact name (List.mem_singleton.mp mem).symm
    · cases h

variable (home : d.HasNames)
include home

theorem components_homePath : Path.components d.homePath = d.home :=
  Path.components_write (.inr (.inl rfl)) fun c hc => (home c hc).toIsStep

theorem isAbsolute_homePath : Path.isAbsolute d.homePath = true := by
  have root : Path.root d.homePath = "/" :=
    Path.root_write (.inr (.inl rfl)) fun c hc => (home c hc).toIsStep
  rw [Path.isAbsolute_iff, root]
  decide

/-- A path leads to the place that it denotes. -/
theorem locate_eq_ok {l : Location} (h : d.locate path = .ok l) :
    l = Path.place d.homePath path := by
  have way : d.walk (if Path.isAbsolute path then [] else d.home) (Path.components path) =
      .ok l := by
    rw [locate_eq] at h
    split at h
    · cases h
    split at h
    · cases h
    obtain ⟨goal, way, h⟩ := Outcome.bind_eq_ok.mp h
    rw [arrive] at h
    split at h
    · cases h
    · cases h
      exact way
  rw [Path.place]
  cases absolute : Path.isAbsolute path with
  | true =>
    rw [absolute, if_pos rfl] at way
    rw [Path.join_of_isAbsolute absolute, Path.components_normalize, absolute,
      walk_eq_ok way List.not_mem_nil]
    rfl
  | false =>
    have noUps : Path.up ∉ d.home := fun mem => (home _ mem).ne_up rfl
    rw [absolute, if_neg Bool.false_ne_true] at way
    rw [Path.components_normalize_join (fun c hc => home c (components_homePath home ▸ hc))
      (isAbsolute_homePath home) absolute, components_homePath home, walk_eq_ok way noUps]

/-- What is read through a path lies at the place that the path denotes. -/
theorem octets?_of_read {octets : List UInt8} (h : d.read path = .ok octets) :
    d.octets? (Path.place d.homePath path) = some octets := by
  rw [read] at h
  obtain ⟨l, way, h⟩ := Outcome.bind_eq_ok.mp h
  rw [← locate_eq_ok home way]
  simp only [bind, Except.bind] at h
  split at h
  · cases h
  · split at h
    · next found =>
      cases h
      exact found
    · cases h

/-- What is read at a path is the text of the file at the place that the path denotes. -/
theorem text?_of_read {text : String} (h : (TextFile.read d path).outcome = .ok text) :
    d.text? (Path.place d.homePath path) = some text := by
  obtain ⟨octets, found, decoded⟩ := TextFile.read_eq_ok h
  rw [← Path.place_tidy, text?, octets?_of_read home found, Option.bind_some, decoded]
  rfl

end Disk

end CodeBehind
