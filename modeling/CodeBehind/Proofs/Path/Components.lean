import CodeBehind.Path
import Mathlib.Data.List.TakeWhile

/-!
Components of paths.

A path is written below a root, and what is written can be taken apart again (`components_write`,
`root_write`). A path below another has the components of both (`components_join`), and it starts
where the other starts (`root_join`). The steps of a path are its components; a step that does not
go up is a name.
-/

namespace CodeBehind.Text

variable {sep : Char}

/-- Cutting a text at a separator is what the library has for lists. -/
theorem splitOn_eq (cs : List Char) : splitOn sep cs = cs.splitOn sep := by
  induction cs with
  | nil => rfl
  | cons c cs ih =>
    rw [List.splitOn_cons_eq_if_modifyHead, splitOn, ih]
    by_cases h : c = sep
    · simp [h]
    · rw [if_neg h, if_neg (by simpa using h)]
      cases pieces : cs.splitOn sep with
      | nil => exact absurd pieces (List.splitOn_ne_nil sep cs)
      | cons piece more => rfl

/-- Texts with a separator between them are cut there. -/
theorem splitOn_append_sep (front rest : List Char) :
    splitOn sep (front ++ sep :: rest) = splitOn sep front ++ splitOn sep rest := by
  simp only [splitOn_eq, List.splitOn_append_cons_self]

theorem not_mem_of_mem_splitOn {cs piece : List Char} (h : piece ∈ splitOn sep cs) :
    sep ∉ piece := by
  induction cs generalizing piece with
  | nil => simp_all [splitOn]
  | cons c cs ih =>
    rw [splitOn] at h
    split at h
    · rcases List.mem_cons.mp h with rfl | h
      · exact List.not_mem_nil
      · exact ih h
    · next other =>
      have start : ∀ {tail}, sep ∉ tail → sep ∉ c :: tail := fun later mem =>
        (List.mem_cons.mp mem).elim (fun here => other here.symm) later
      split at h
      · rw [List.mem_singleton.mp h]
        exact start List.not_mem_nil
      · next first more pieces =>
        rcases List.mem_cons.mp h with rfl | h
        · exact start (ih (pieces ▸ List.mem_cons_self))
        · exact ih (pieces ▸ List.mem_cons_of_mem _ h)

end CodeBehind.Text

namespace CodeBehind.Path

/-! ### Steps and names -/

/-- A component that matters. -/
structure IsStep (c : String) : Prop where
  nonempty : c ≠ ""
  ne_here : c ≠ here
  noSlash : '/' ∉ c.toList

/-- A component that names something. -/
structure IsName (c : String) : Prop extends IsStep c where
  ne_up : c ≠ up

theorem isStep_up : IsStep up := ⟨by decide, by decide, by decide⟩

/-- All that stands between the slashes of a path. -/
def parts (path : String) : List String :=
  (Text.splitOn '/' path.toList).map String.ofList

theorem components_eq (path : String) :
    components path = (parts path).filter fun c => c ≠ "" ∧ c ≠ here := rfl

/-- The components that matter are steps. -/
theorem isStep_of_mem_components {path c : String} (h : c ∈ components path) : IsStep c := by
  obtain ⟨mem, matters⟩ := List.mem_filter.mp h
  obtain ⟨piece, inside, rfl⟩ := List.mem_map.mp mem
  obtain ⟨nonempty, ne_here⟩ := of_decide_eq_true matters
  refine ⟨nonempty, ne_here, ?_⟩
  rw [String.toList_ofList]
  exact Text.not_mem_of_mem_splitOn inside

theorem parts_append_slash (front rest : String) :
    parts (front ++ "/" ++ rest) = parts front ++ parts rest := by
  rw [parts, String.toList_append, String.toList_append, List.append_assoc]
  change (Text.splitOn '/' (front.toList ++ '/' :: rest.toList)).map String.ofList = _
  rw [Text.splitOn_append_sep, List.map_append]
  rfl

/-- A slash between two paths puts their components one after the other. -/
theorem components_append_slash (front rest : String) :
    components (front ++ "/" ++ rest) = components front ++ components rest := by
  simp only [components_eq, parts_append_slash, List.filter_append]

/-- What is written with slashes in between is found between them. -/
theorem parts_intercalate {cs : List String} (nonempty : cs ≠ [])
    (h : ∀ c ∈ cs, '/' ∉ c.toList) : parts ("/".intercalate cs) = cs := by
  have pieces : ∀ piece ∈ cs.map String.toList, '/' ∉ piece := by
    intro piece mem
    obtain ⟨c, hc, rfl⟩ := List.mem_map.mp mem
    exact h c hc
  have cut : (['/'].intercalate (cs.map String.toList)).splitOn '/' = cs.map String.toList :=
    List.splitOn_intercalate '/' pieces (by simpa using nonempty)
  have slash : "/".toList = ['/'] := rfl
  rw [parts, String.toList_intercalate, slash, Text.splitOn_eq, cut, List.map_map]
  simp [Function.comp_def]

/-- Where every part is a step, the parts are the components. -/
theorem components_of_parts {path : String} {cs : List String} (h : parts path = cs)
    (steps : ∀ c ∈ cs, IsStep c) : components path = cs := by
  rw [components_eq, h]
  refine List.filter_eq_self.mpr fun c hc => decide_eq_true ?_
  exact ⟨(steps c hc).nonempty, (steps c hc).ne_here⟩

/-! ### Roots -/

def leading (path : String) : List Char :=
  path.toList.takeWhile (· = '/')

/-- Two slashes are a root of their own, any other number of them counts for one. -/
theorem root_eq (path : String) :
    root path = match (leading path).length with
      | 0 => ""
      | 2 => "//"
      | _ => "/" := by
  have plain : ∀ {cs : List Char}, (∀ rest, cs ≠ '/' :: rest) →
      cs.takeWhile (· = '/') = [] := by
    intro cs other
    cases cs with
    | nil => rfl
    | cons c rest =>
      have ne : c ≠ '/' := by
        rintro rfl
        exact other rest rfl
      simp [ne]
  unfold root leading
  split
  · next start => simp [start]
  · next other start => simp [start, plain fun rest h => other rest h]
  · next _ other start => simp [start, plain fun rest h => other rest h]
  · next other => simp [plain fun rest h => other rest h]

/-- A path starts at the root if its root is written. -/
theorem isAbsolute_iff {path : String} : isAbsolute path = true ↔ root path ≠ "" := by
  have slashes : isAbsolute path = true ↔ leading path ≠ [] := by
    rw [isAbsolute, leading]
    cases path.toList with
    | nil => simp
    | cons c rest => by_cases h : c = '/' <;> simp [h]
  rw [slashes, root_eq, ne_eq, ← List.length_eq_zero_iff]
  split
  · next none => simp [none]
  · next two => exact iff_of_true (by simp [two]) (by decide)
  · next some _ => exact iff_of_true some (by decide)

theorem isAbsolute_eq_false_iff {path : String} : isAbsolute path = false ↔ root path = "" := by
  rw [Bool.eq_false_iff, ne_eq, isAbsolute_iff, Decidable.not_not]

/-- A relative path at the end adds no slashes in front. -/
theorem leading_append_of_relative {b : String} (h : isAbsolute b = false) (a : String) :
    leading (a ++ b) = leading a := by
  have plain : b.toList.takeWhile (· = '/') = [] := by
    rw [isAbsolute] at h
    cases hb : b.toList with
    | nil => rfl
    | cons c rest =>
      have other : c ≠ '/' := by simpa [hb] using h
      simp [other]
  rw [leading, leading, String.toList_append, List.takeWhile_append, plain]
  split
  · next whole => rw [List.append_nil, (List.takeWhile_prefix _).eq_of_length whole]
  · rfl

theorem leading_append_of_last {a : String} {c : Char} (last : a.toList.getLast? = some c)
    (other : c ≠ '/') (b : String) : leading (a ++ b) = leading a := by
  rw [leading, leading, String.toList_append, List.takeWhile_append, if_neg]
  intro whole
  have all : a.toList.takeWhile (· = '/') = a.toList := (List.takeWhile_prefix _).eq_of_length whole
  have mem := all ▸ List.mem_of_getLast? last
  have slash : decide (c = '/') = true := List.mem_takeWhile_imp (p := fun c => c = '/') mem
  exact other (of_decide_eq_true slash)

theorem root_append_of_relative {b : String} (h : isAbsolute b = false) (a : String) :
    root (a ++ b) = root a := by
  rw [root_eq, leading_append_of_relative h, ← root_eq]

/-! ### Writing -/

/-- The three ways in which a path can start. -/
def IsRoot (r : String) : Prop :=
  r = "" ∨ r = "/" ∨ r = "//"

/-- The root of a path is written in one of three ways. -/
theorem isRoot_root (path : String) : IsRoot (root path) := by
  rw [root_eq]
  split
  · exact .inl rfl
  · exact .inr (.inr rfl)
  · exact .inr (.inl rfl)

theorem root_self {r : String} (h : IsRoot r) : root r = r := by
  rcases h with rfl | rfl | rfl <;> rfl

section Write

variable {r : String} {cs : List String} (h : IsRoot r) (steps : ∀ c ∈ cs, IsStep c)

theorem isAbsolute_intercalate (steps : ∀ c ∈ cs, IsStep c) :
    isAbsolute ("/".intercalate cs) = false := by
  cases cs with
  | nil => rfl
  | cons c rest =>
    obtain ⟨nonempty, -, noSlash⟩ := steps c List.mem_cons_self
    rw [isAbsolute, String.toList_intercalate, List.map_cons]
    cases chars : c.toList with
    | nil => exact absurd (String.toList_eq_nil_iff.mp chars) nonempty
    | cons d more =>
      have other : d ≠ '/' := by
        rintro rfl
        exact noSlash (chars ▸ List.mem_cons_self)
      cases rest with
      | nil => simp [other]
      | cons next others => simp [List.intercalate_cons_cons, other]

include h steps

/-- A path that was written has the root it was written with. -/
theorem root_write : root (write r cs) = r := by
  rw [write]
  split
  · next bare =>
    rw [bare.1]
    rfl
  · rw [root_append_of_relative (isAbsolute_intercalate steps), root_self h]

/-- A path that was written has the components it was written with. -/
theorem components_write : components (write r cs) = cs := by
  have below : components ("/".intercalate cs) = cs := by
    cases cs with
    | nil => rfl
    | cons c rest =>
      refine components_of_parts (parts_intercalate (List.cons_ne_nil c rest) ?_) steps
      exact fun c hc => (steps c hc).noSlash
  rw [write]
  split
  · next bare =>
    rw [bare.2]
    decide
  · rcases h with rfl | rfl | rfl
    · rw [String.empty_append, below]
    · exact (components_append_slash "" _).trans below
    · exact (components_append_slash "/" _).trans below

end Write

/-! ### Joining -/

section Join

variable {a b : String}

theorem join_of_isAbsolute (h : isAbsolute b = true) : join a b = b :=
  if_pos h

/-- A path joined to another stands behind it, with a slash in between unless there is one or
nothing to divide. -/
theorem join_of_relative (h : isAbsolute b = false) :
    join a b = a ++ b ∧ (a = "" ∨ a.toList.getLast? = some '/') ∨
      join a b = a ++ "/" ++ b ∧ ∃ c, a.toList.getLast? = some c ∧ c ≠ '/' := by
  rw [join, h, if_neg Bool.false_ne_true]
  split
  · next ends => exact .inl ⟨rfl, ends.imp_left String.isEmpty_iff.mp⟩
  · next ends =>
    obtain ⟨nonempty, open_⟩ := not_or.mp ends
    refine .inr ⟨rfl, ?_⟩
    cases last : a.toList.getLast? with
    | none =>
      have empty := List.getLast?_eq_none_iff.mp last
      exact absurd (String.isEmpty_iff.mpr (String.toList_eq_nil_iff.mp empty)) nonempty
    | some c => exact ⟨c, rfl, fun slash => open_ (slash ▸ last)⟩

/-- A path that a relative one is appended to keeps its root. -/
theorem root_join (h : isAbsolute b = false) : root (join a b) = root a := by
  rcases join_of_relative (a := a) h with ⟨eq, -⟩ | ⟨eq, c, last, other⟩
  · rw [eq, root_append_of_relative h]
  · rw [eq, String.append_assoc, root_eq, leading_append_of_last last other, ← root_eq]

/-- A relative path goes on where the other one ends. -/
theorem components_join (h : isAbsolute b = false) :
    components (join a b) = components a ++ components b := by
  rcases join_of_relative (a := a) h with ⟨eq, rfl | last⟩ | ⟨eq, -⟩
  · rw [eq, String.empty_append]
    rfl
  · -- what stands in front of the last slash has all the components
    obtain ⟨front, chars⟩ := List.getLast?_eq_some_iff.mp last
    have a_eq : a = String.ofList front ++ "/" ++ "" := by
      rw [← String.toList_inj]
      simpa using chars
    have front_eq : components a = components (String.ofList front) := by
      rw [a_eq, components_append_slash]
      exact List.append_nil _
    rw [eq, front_eq, a_eq, String.append_empty, components_append_slash]
  · rw [eq, components_append_slash]

end Join

end CodeBehind.Path
