import CodeBehind.Proofs.Path.Components

/-!
The way from one path to another.

The components of a normal path are names (`isName_of_mem_normalize`): steps up have cancelled what
is in front of them, and at the root they are gone. So the way from a normal path to another goes up
as many steps as it has names that the other does not share, and then down, and joined to its start
it leads to its target (`components_join_relative`). `Leads` is all that is known of such a way, and
`leads_wayTo` is the result.
-/

namespace CodeBehind.Path

/-! ### Cancelling -/

section Cancel

variable {rooted : Bool} {stack names : List String} {c : String}

theorem push_of_ne (h : c ≠ up) : push rooted stack c = c :: stack :=
  if_neg h

theorem push_up (h : c ≠ up) : push rooted (c :: stack) up = stack :=
  (if_pos rfl).trans (if_neg h)

/-- Components that do not go up are stacked one after the other. -/
theorem foldl_push_of_names (h : up ∉ names) :
    names.foldl (push rooted) stack = names.reverse ++ stack := by
  induction names generalizing stack with
  | nil => rfl
  | cons c rest ih =>
    obtain ⟨here, later⟩ := not_or.mp (mt List.mem_cons.mpr h)
    rw [List.foldl_cons, push_of_ne (Ne.symm here), ih later, List.reverse_cons,
      List.append_assoc]
    rfl

/-- Going up as many steps as there are names on top of a stack takes them off. -/
theorem foldl_push_ups (h : up ∉ names) :
    (names.map fun _ => up).foldl (push rooted) (names ++ stack) = stack := by
  induction names with
  | nil => rfl
  | cons c rest ih =>
    obtain ⟨here, later⟩ := not_or.mp (mt List.mem_cons.mpr h)
    rw [List.map_cons, List.foldl_cons, List.cons_append, push_up (Ne.symm here), ih later]

/-- What is left on the stack was there before or has been pushed. -/
theorem mem_foldl_push
    (mem : c ∈ names.foldl (push rooted) stack) : c ∈ stack ∨ c ∈ names := by
  induction names generalizing stack with
  | nil => exact .inl mem
  | cons d rest ih =>
    have pushed : ∀ c ∈ push rooted stack d, c = d ∨ c ∈ stack := by
      unfold push
      split
      · split
        · split <;> simp
        · split <;> simp +contextual
      · simp
    rcases ih mem with mem | mem
    · rcases pushed c mem with rfl | mem
      · exact .inr List.mem_cons_self
      · exact .inl mem
    · exact .inr (List.mem_cons_of_mem _ mem)

/-- Below a root, no step up is left. -/
theorem up_not_mem_foldl_push (h : up ∉ stack) : up ∉ names.foldl (push true) stack := by
  induction names generalizing stack with
  | nil => exact h
  | cons c rest ih =>
    apply ih
    by_cases goesUp : c = up
    · subst goesUp
      cases stack with
      | nil => exact List.not_mem_nil
      | cons top below =>
        obtain ⟨here, later⟩ := not_or.mp (mt List.mem_cons.mpr h)
        rwa [push_up (Ne.symm here)]
    · rw [push_of_ne goesUp]
      exact fun mem => (List.mem_cons.mp mem).elim (fun eq => goesUp eq.symm) h

/-- Cancelling adds nothing. -/
theorem mem_of_mem_cancel (mem : c ∈ cancel rooted names) :
    c ∈ names :=
  (mem_foldl_push (List.mem_reverse.mp mem)).resolve_left List.not_mem_nil

end Cancel

/-! ### Normal paths -/

section Normalize

variable {path : String}

theorem isStep_of_mem_cancel {rooted : Bool} {c : String}
    (mem : c ∈ cancel rooted (components path)) : IsStep c :=
  isStep_of_mem_components (mem_of_mem_cancel mem)

/-- The normal form of a path starts where the path starts. -/
theorem root_normalize (path : String) : root (normalize path) = root path :=
  root_write (isRoot_root path) fun _ => isStep_of_mem_cancel

/-- The normal form of a path has the components that are left after cancelling. -/
theorem components_normalize (path : String) :
    components (normalize path) = cancel (isAbsolute path) (components path) :=
  components_write (isRoot_root path) fun _ => isStep_of_mem_cancel

theorem isAbsolute_congr {a b : String} (h : root a = root b) : isAbsolute a = isAbsolute b := by
  rw [Bool.eq_iff_iff, isAbsolute_iff, isAbsolute_iff, h]

/-- The components of an absolute normal path are names. -/
theorem isName_of_mem_normalize (h : isAbsolute path = true) {c : String}
    (mem : c ∈ components (normalize path)) : IsName c := by
  rw [components_normalize, h] at mem
  refine ⟨isStep_of_mem_cancel mem, ?_⟩
  rintro rfl
  exact up_not_mem_foldl_push List.not_mem_nil (List.mem_reverse.mp mem)

end Normalize

/-! ### Common beginnings -/

section Common

variable {as bs : List String}

/-- What is dropped from two lists is what they begin with, and it is all of one of them exactly if
that one is what the other begins with. -/
theorem dropCommon_spec (as bs : List String) :
    ∃ common, as = common ++ (dropCommon as bs).1 ∧ bs = common ++ (dropCommon as bs).2 ∧
      ((dropCommon as bs).1 = [] ↔ as <+: bs) := by
  fun_induction dropCommon as bs with
  | case1 as b bs ih =>
    obtain ⟨common, as_eq, bs_eq, all⟩ := ih
    refine ⟨b :: common, congrArg _ as_eq, congrArg _ bs_eq, ?_⟩
    rw [all, List.prefix_cons_inj]
  | case2 a as b bs differ =>
    refine ⟨[], rfl, rfl, iff_of_false (List.cons_ne_nil _ _) fun begins => ?_⟩
    exact differ (List.cons_prefix_cons.mp begins).1
  | case3 as bs other =>
    refine ⟨[], rfl, rfl, ?_⟩
    cases as with
    | nil => simp
    | cons a as =>
      cases bs with
      | nil => simp
      | cons b bs => exact absurd rfl (other a as b bs rfl)

end Common

/-! ### Absolute paths -/

theorem isAbsolute_join {a b : String} (h : isAbsolute a = true) :
    isAbsolute (join a b) = true := by
  cases hb : isAbsolute b with
  | true => rw [join_of_isAbsolute hb, hb]
  | false => rw [isAbsolute_congr (root_join hb), h]

theorem root_of_isAbsolute {path : String} (h : isAbsolute path = true) (plain : root path ≠ "//") :
    root path = "/" :=
  ((isRoot_root path).resolve_left (isAbsolute_iff.mp h)).resolve_right plain

theorem absolute_eq (directory path : String) :
    absolute directory path = normalize (join directory path) := by
  rw [absolute, join]
  split <;> rfl

/-- A normal path is told by its root and its components. -/
theorem normalize_congr {a b : String} (roots : root a = root b)
    (same : components (normalize a) = components (normalize b)) : normalize a = normalize b := by
  rw [components_normalize, components_normalize] at same
  rw [normalize, normalize, roots, same]

/-- What is seen from an absolute directory is absolute. -/
theorem isAbsolute_absolute {directory : String} (h : isAbsolute directory = true)
    (path : String) : isAbsolute (absolute directory path) = true := by
  rw [absolute_eq, isAbsolute_congr (root_normalize _), isAbsolute_join h]

/-- Where a path taken from an absolute directory lies, its components are names. -/
theorem isName_of_mem_absolute {directory path : String} (h : isAbsolute directory = true)
    {c : String} (mem : c ∈ components (absolute directory path)) : IsName c := by
  rw [absolute_eq] at mem
  exact isName_of_mem_normalize (isAbsolute_join h) mem

/-- A relative path goes on from the components of the directory, which are all names. -/
theorem components_normalize_join {start path : String} (names : ∀ c ∈ components start, IsName c)
    (absolute : isAbsolute start = true) (h : isAbsolute path = false) :
    components (normalize (join start path)) =
      ((components path).foldl (push true) (components start).reverse).reverse := by
  have noUps : up ∉ components start := fun mem => (names up mem).ne_up rfl
  rw [components_normalize, isAbsolute_join absolute, components_join h, cancel, List.foldl_append,
    foldl_push_of_names noUps, List.append_nil]

/-! ### Places -/

/-- The place that a path denotes when it is taken from a directory. -/
def place (directory path : String) : List String :=
  components (normalize (join directory path))

/-- Dropping what never matters does not change the place. -/
theorem place_tidy (directory path : String) :
    place directory (tidy path) = place directory path := by
  have root : root (tidy path) = root path :=
    root_write (isRoot_root path) fun _ => isStep_of_mem_components
  have same : components (tidy path) = components path :=
    components_write (isRoot_root path) fun _ => isStep_of_mem_components
  have absolute := isAbsolute_congr root
  rw [place, place, components_normalize, components_normalize]
  cases h : isAbsolute path with
  | true =>
    rw [h] at absolute
    rw [join_of_isAbsolute h, join_of_isAbsolute absolute, same, h, absolute]
  | false =>
    rw [h] at absolute
    rw [components_join h, components_join absolute, same,
      isAbsolute_congr ((root_join absolute).trans (root_join h).symm)]

/-- A path in full denotes the same place anywhere. -/
theorem place_of_isAbsolute {directory directory' path : String} (h : isAbsolute path = true) :
    place directory path = place directory' path := by
  rw [place, place, join_of_isAbsolute h, join_of_isAbsolute h]

/-- Where a path leads from a directory depends on the components of the directory only. -/
theorem place_congr {start start' : String} (names : ∀ c ∈ components start, IsName c)
    (absolute : isAbsolute start = true) (absolute' : isAbsolute start' = true)
    (same : components start' = components start) (path : String) :
    place start' path = place start path := by
  cases h : isAbsolute path with
  | true => exact place_of_isAbsolute h
  | false =>
    rw [place, place, components_normalize_join names absolute h,
      components_normalize_join (same ▸ names) absolute' h, same]

/-! ### The way -/

section Relative

variable {start target : String}

/-- The way goes up from what the two paths do not share, and then down. -/
theorem relative_eq (start target : String) :
    ∃ common ups downs, components start = common ++ ups ∧ components target = common ++ downs ∧
      relative start target = write "" ((ups.map fun _ => up) ++ downs) ∧
      (ups = [] ↔ components start <+: components target) := by
  obtain ⟨common, start_eq, target_eq, all⟩ :=
    dropCommon_spec (components start) (components target)
  exact ⟨common, _, _, start_eq, target_eq, rfl, all⟩

theorem isStep_of_mem_way {ups downs : List String} (steps : ∀ c ∈ downs, IsStep c) {c : String}
    (mem : c ∈ (ups.map fun _ => up) ++ downs) : IsStep c := by
  rcases List.mem_append.mp mem with mem | mem
  · obtain ⟨_, -, rfl⟩ := List.mem_map.mp mem
    exact isStep_up
  · exact steps c mem

/-- Joined to its start, the way leads to its target. -/
theorem components_join_relative (startNames : ∀ c ∈ components start, IsName c)
    (targetNames : ∀ c ∈ components target, IsName c) (absolute : isAbsolute start = true) :
    components (normalize (join start (relative start target))) = components target := by
  obtain ⟨common, ups, downs, start_eq, target_eq, way, -⟩ := relative_eq start target
  have steps : ∀ c ∈ (ups.map fun _ => up) ++ downs, IsStep c := fun c =>
    isStep_of_mem_way fun c mem =>
      (targetNames c (target_eq ▸ List.mem_append_right _ mem)).toIsStep
  have relative : isAbsolute (write "" ((ups.map fun _ => up) ++ downs)) = false :=
    isAbsolute_eq_false_iff.mpr (root_write (.inl rfl) steps)
  have noUps : up ∉ ups.reverse := fun mem =>
    (startNames up (start_eq ▸ List.mem_append_right _ (List.mem_reverse.mp mem))).ne_up rfl
  have noDowns : up ∉ downs := fun mem =>
    (targetNames up (target_eq ▸ List.mem_append_right _ mem)).ne_up rfl
  -- the steps up take the names off that are not shared
  have cancelled : (ups.map fun _ => up).foldl (push true) (common ++ ups).reverse =
      common.reverse := by
    have turned : (ups.map fun _ => up) = ups.reverse.map fun _ => up := by
      simp only [List.map_const', List.length_reverse]
    rw [List.reverse_append, turned, foldl_push_ups noUps]
  rw [way, components_normalize_join startNames absolute relative,
    components_write (.inl rfl) steps, start_eq, target_eq, List.foldl_append, cancelled,
    foldl_push_of_names noDowns, List.reverse_append, List.reverse_reverse, List.reverse_reverse]

end Relative

/-- What is known of a way from a directory to a path that starts from there. -/
structure Leads (start path way : String) : Prop where
  arrives : normalize (join start way) = normalize (join start path)
  nonempty : way ≠ ""
  relative : isAbsolute way = false
  tidy : way = here ∨ ∀ c ∈ parts way, c ≠ "" ∧ c ≠ here
  upsFirst : ∃ n downs, parts way = List.replicate n up ++ downs ∧ up ∉ downs
  stays_iff : up ∉ parts way ↔ components start <+: components (normalize (join start path))

theorem parts_write {cs : List String} (nonempty : cs ≠ []) (steps : ∀ c ∈ cs, IsStep c) :
    parts (write "" cs) = cs := by
  rw [write, if_neg fun bare => nonempty bare.2, String.empty_append]
  exact parts_intercalate nonempty fun c hc => (steps c hc).noSlash

def wayTo (start path : String) : String :=
  relative start (normalize (join start path))

/-- A path has the same way, seen from its directory or not. -/
theorem wayTo_join {start : String} (absolute : isAbsolute start = true) (path : String) :
    wayTo start (join start path) = wayTo start path := by
  rw [wayTo, join_of_isAbsolute (isAbsolute_join absolute), wayTo]

/-- Taken from its start, the way denotes what the path denotes there. -/
theorem place_wayTo {start : String} (names : ∀ c ∈ components start, IsName c)
    (absolute : isAbsolute start = true) (path : String) :
    place start (wayTo start path) = place start path :=
  components_join_relative names (fun _ => isName_of_mem_normalize (isAbsolute_join absolute))
    absolute

/-- The way to a path from a directory with the same root leads there. -/
theorem leads_wayTo {start path : String} (names : ∀ c ∈ components start, IsName c)
    (absolute : isAbsolute start = true) (roots : root (join start path) = root start) :
    Leads start path (wayTo start path) := by
  have targetNames : ∀ c ∈ components (normalize (join start path)), IsName c := fun _ =>
    isName_of_mem_normalize (isAbsolute_join absolute)
  have same := components_join_relative names targetNames absolute
  obtain ⟨common, ups, downs, start_eq, target_eq, way, all⟩ :=
    relative_eq start (normalize (join start path))
  have downNames : ∀ c ∈ downs, IsName c := fun c mem =>
    targetNames c (target_eq ▸ List.mem_append_right _ mem)
  have noDowns : up ∉ downs := fun mem => (downNames up mem).ne_up rfl
  have steps : ∀ c ∈ (ups.map fun _ => up) ++ downs, IsStep c := fun c =>
    isStep_of_mem_way fun c mem => (downNames c mem).toIsStep
  have relative : isAbsolute (write "" ((ups.map fun _ => up) ++ downs)) = false :=
    isAbsolute_eq_false_iff.mpr (root_write (.inl rfl) steps)
  have arrives := normalize_congr ((root_join (a := start) relative).trans roots.symm) (way ▸ same)
  have first : (ups.map fun _ => up) = List.replicate ups.length up := List.map_const' ..
  rw [wayTo, way]
  by_cases stays : (ups.map fun _ => up) ++ downs = []
  · obtain ⟨noUps, rfl⟩ := List.append_eq_nil_iff.mp stays
    have nowhere : parts here = [here] := rfl
    rw [stays] at arrives ⊢
    exact {
      arrives
      nonempty := by decide
      relative := rfl
      tidy := .inl rfl
      upsFirst := ⟨0, [here], nowhere, by decide⟩
      stays_iff := iff_of_true (by decide) (all.mp (List.map_eq_nil_iff.mp noUps)) }
  · have written := parts_write stays steps
    refine ⟨arrives, ?_, relative, .inr ?_, ⟨ups.length, downs, first ▸ written, noDowns⟩, ?_⟩
    · intro empty
      rw [empty] at written
      exact (steps "" (written ▸ List.mem_cons_self)).nonempty rfl
    · rw [written]
      exact fun c hc => ⟨(steps c hc).nonempty, (steps c hc).ne_here⟩
    · rw [written, ← all, List.mem_append, or_iff_left noDowns, first, List.mem_replicate]
      simp

end CodeBehind.Path
