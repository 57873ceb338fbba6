import CodeBehind.Text.Lines
import Mathlib.Data.List.Infix

/-!
Joining lines and cutting them apart.

Lines without breaks are got back from their text: by `cut`, which knows every line break, where
they were joined by one of the two line endings (`cut_intercalate`), and by `cutAt`, which knows a
single separator, where the separator cannot start inside a line (`cutAt_intercalate`). The visible
lines of two texts with a line ending between them are those of the one and then those of the other,
whatever the texts end or begin with (`splitLines_append_ending`).
-/

namespace CodeBehind.Text

/-! ### Joining -/

/-- Joining two lists of lines is joining both and then the two. -/
theorem intercalate_append {separator : List Char} {front rest : List (List Char)}
    (hfront : front ≠ []) (hrest : rest ≠ []) :
    separator.intercalate (front ++ rest) =
      separator.intercalate front ++ separator ++ separator.intercalate rest := by
  induction front with
  | nil => exact absurd rfl hfront
  | cons line more ih =>
    cases more with
    | nil =>
      rw [List.singleton_append, List.intercalate_cons_of_ne_nil hrest, List.intercalate_singleton]
    | cons next others =>
      rw [List.cons_append, List.cons_append, List.intercalate_cons_cons,
        List.intercalate_cons_cons, ← List.cons_append, ih (List.cons_ne_nil _ _)]
      simp only [List.append_assoc]

/-- Joined lines consist of their separators and of themselves. -/
theorem mem_intercalate {c : Char} {separator : List Char} {lines : List (List Char)}
    (h : c ∈ separator.intercalate lines) : c ∈ separator ∨ ∃ line ∈ lines, c ∈ line := by
  induction lines with
  | nil => cases h
  | cons line rest ih =>
    cases rest with
    | nil => exact .inr ⟨line, List.mem_cons_self, by simpa using h⟩
    | cons next more =>
      rw [List.intercalate_cons_cons, List.append_assoc, List.mem_append, List.mem_append] at h
      rcases h with h | h | h
      · exact .inr ⟨line, List.mem_cons_self, h⟩
      · exact .inl h
      · refine (ih h).imp_right ?_
        rintro ⟨inner, mem, inside⟩
        exact ⟨inner, List.mem_cons_of_mem _ mem, inside⟩

/-- Joining joined lines is joining them all. -/
theorem intercalate_flatMap {α : Type} {separator : List Char} {f : α → List (List Char)}
    (h : ∀ a, f a ≠ []) {as : List α} :
    separator.intercalate (as.map fun a => separator.intercalate (f a)) =
      separator.intercalate (as.flatMap f) := by
  induction as with
  | nil => rfl
  | cons a rest ih =>
    cases rest with
    | nil => simp
    | cons b more =>
      have nonempty : (b :: more).flatMap f ≠ [] := by
        rw [List.flatMap_cons]
        exact List.append_ne_nil_of_left_ne_nil (h b) _
      have whole : (a :: b :: more).flatMap f = f a ++ (b :: more).flatMap f := List.flatMap_cons
      rw [List.map_cons, List.intercalate_cons_of_ne_nil (by simp), ih, whole,
        intercalate_append (h a) nonempty]

/-! ### At every line break -/

def IsUnbroken (line : List Char) : Prop :=
  ∀ c ∈ line, isLineBreak c = false

instance (line : List Char) : Decidable (IsUnbroken line) :=
  List.decidableBAll _ line

theorem isUnbroken_nil : IsUnbroken [] := by
  intro c hc
  cases hc

theorem cut_cons_of_not_isLineBreak {c : Char} (h : isLineBreak c = false) {text line : List Char}
    {lines : List (List Char)} (hcut : cut text = line :: lines) :
    cut (c :: text) = (c :: line) :: lines := by
  have noReturn : c ≠ '\r' := by
    rintro rfl
    cases h
  cases text with
  | nil => simp_all [cut]
  | cons d rest => simp_all [cut]

theorem cut_ne_nil (text : List Char) : cut text ≠ [] := by
  fun_cases cut text <;> simp

/-- The pieces of a text hold no line breaks. -/
theorem isUnbroken_of_mem_cut {text line : List Char} (h : line ∈ cut text) : IsUnbroken line := by
  fun_induction cut text generalizing line with
  | case1 =>
    rw [List.mem_singleton.mp h]
    exact isUnbroken_nil
  | case2 rest ih =>
    rcases List.mem_cons.mp h with rfl | h
    · exact isUnbroken_nil
    · exact ih h
  | case3 c rest _ hc ih =>
    rcases List.mem_cons.mp h with rfl | h
    · exact isUnbroken_nil
    · exact ih h
  | case4 c rest _ hc hcut ih => exact absurd hcut (cut_ne_nil rest)
  | case5 c rest _ hc first lines hcut ih =>
    rcases List.mem_cons.mp h with rfl | h
    · refine List.forall_mem_cons.mpr ⟨Bool.eq_false_iff.mpr hc, ?_⟩
      exact ih (hcut ▸ List.mem_cons_self)
    · exact ih (hcut ▸ List.mem_cons_of_mem _ h)

/-- A line without a break is one piece. -/
theorem cut_of_isUnbroken {line : List Char} (h : IsUnbroken line) : cut line = [line] := by
  induction line with
  | nil => rfl
  | cons c rest ih =>
    obtain ⟨hc, hrest⟩ := List.forall_mem_cons.mp h
    exact cut_cons_of_not_isLineBreak hc (ih hrest)

/-- A line in front of a line ending is a piece of its own. -/
theorem cut_append_ending {line ending : List Char} (h : IsUnbroken line)
    (admitted : ending = ['\n'] ∨ ending = ['\r', '\n']) (rest : List Char) :
    cut (line ++ ending ++ rest) = line :: cut rest := by
  induction line with
  | nil =>
    rcases admitted with rfl | rfl
    · simp [cut, isLineBreak]
    · simp [cut]
  | cons c line ih =>
    obtain ⟨hc, hline⟩ := List.forall_mem_cons.mp h
    exact cut_cons_of_not_isLineBreak hc (ih hline)

/-- Lines that were joined with a line ending are cut apart again. -/
theorem cut_intercalate {lines : List (List Char)} {ending : List Char} (nonempty : lines ≠ [])
    (h : ∀ line ∈ lines, IsUnbroken line)
    (admitted : ending = ['\n'] ∨ ending = ['\r', '\n']) :
    cut (ending.intercalate lines) = lines := by
  induction lines with
  | nil => exact absurd rfl nonempty
  | cons line rest ih =>
    obtain ⟨hline, hrest⟩ := List.forall_mem_cons.mp h
    cases rest with
    | nil => rw [List.intercalate_singleton, cut_of_isUnbroken hline]
    | cons next more =>
      rw [List.intercalate_cons_cons, cut_append_ending hline admitted,
        ih (List.cons_ne_nil _ _) hrest]

/-! ### Visible lines -/

/-- It makes no difference to the visible lines whether a carriage return and a line feed are one
break or two. The first pieces are the same. -/
theorem cut_splitOnP (text : List Char) :
    ∃ line lines pieces, cut text = line :: lines ∧ text.splitOnP isLineBreak = line :: pieces ∧
      lines.filter isVisible = pieces.filter isVisible := by
  fun_induction cut text with
  | case1 => exact ⟨[], [], [], rfl, rfl, rfl⟩
  | case2 rest ih =>
    obtain ⟨line, lines, pieces, cut_eq, split_eq, same⟩ := ih
    refine ⟨[], cut rest, [] :: rest.splitOnP isLineBreak, rfl, ?_, ?_⟩
    · simp [List.splitOnP_cons_eq_if_modifyHead, isLineBreak]
    · rw [cut_eq, split_eq]
      simp [List.filter_cons, isVisible, same]
  | case3 c rest _ hc ih =>
    obtain ⟨line, lines, pieces, cut_eq, split_eq, same⟩ := ih
    refine ⟨[], cut rest, rest.splitOnP isLineBreak, rfl, ?_, ?_⟩
    · simp [List.splitOnP_cons_eq_if_modifyHead, hc]
    · rw [cut_eq, split_eq]
      simp [List.filter_cons, same]
  | case4 c rest _ hc hcut ih => exact absurd hcut (cut_ne_nil rest)
  | case5 c rest _ hc first others hcut ih =>
    obtain ⟨line, lines, pieces, cut_eq, split_eq, same⟩ := ih
    cases hcut.symm.trans cut_eq
    refine ⟨c :: first, others, pieces, rfl, ?_, same⟩
    simp [List.splitOnP_cons_eq_if_modifyHead, hc, split_eq]

/-- The visible lines are those between the line breaks, whichever these are. -/
theorem splitLines_eq_splitOnP (text : List Char) :
    splitLines text = (text.splitOnP isLineBreak).filter isVisible := by
  obtain ⟨line, lines, pieces, cut_eq, split_eq, same⟩ := cut_splitOnP text
  rw [splitLines, cut_eq, split_eq, List.filter_cons, List.filter_cons, same]

/-- A line break cuts the lines in two. -/
theorem splitLines_append_break {c : Char} (h : isLineBreak c = true) (front rest : List Char) :
    splitLines (front ++ c :: rest) = splitLines front ++ splitLines rest := by
  simp only [splitLines_eq_splitOnP, List.splitOnP_append_cons front rest h, List.filter_append]

/-- So does a line ending. -/
theorem splitLines_append_ending {ending : List Char}
    (admitted : ending = ['\n'] ∨ ending = ['\r', '\n']) (front rest : List Char) :
    splitLines (front ++ ending ++ rest) = splitLines front ++ splitLines rest := by
  rcases admitted with rfl | rfl
  · rw [List.append_assoc, List.singleton_append, splitLines_append_break rfl]
  · rw [List.append_assoc, List.cons_append, List.singleton_append, splitLines_append_break rfl,
      ← List.nil_append ('\n' :: rest), splitLines_append_break rfl]
    rfl

/-- Texts with line endings in between show the lines of the one after the lines of the other. -/
theorem splitLines_intercalate {ending : List Char}
    (admitted : ending = ['\n'] ∨ ending = ['\r', '\n']) (texts : List (List Char)) :
    splitLines (ending.intercalate texts) = texts.flatMap splitLines := by
  induction texts with
  | nil => rfl
  | cons text rest ih =>
    cases rest with
    | nil => simp
    | cons next more =>
      rw [List.intercalate_cons_cons, splitLines_append_ending admitted, ih]
      rfl

theorem exists_mem_cut {c : Char} {text : List Char} (mem : c ∈ text)
    (unbroken : isLineBreak c = false) : ∃ line ∈ cut text, c ∈ line := by
  have apart : ∀ {d : Char}, isLineBreak d = true → c ≠ d := by
    rintro d hd rfl
    cases unbroken.symm.trans hd
  fun_induction cut text with
  | case1 => cases mem
  | case2 rest ih =>
    have later := (List.mem_cons.mp mem).resolve_left (apart rfl)
    obtain ⟨line, hline, inside⟩ := ih ((List.mem_cons.mp later).resolve_left (apart rfl))
    exact ⟨line, List.mem_cons_of_mem _ hline, inside⟩
  | case3 d rest _ hd ih =>
    obtain ⟨line, hline, inside⟩ := ih ((List.mem_cons.mp mem).resolve_left (apart hd))
    exact ⟨line, List.mem_cons_of_mem _ hline, inside⟩
  | case4 d rest _ hd hcut ih => exact absurd hcut (cut_ne_nil rest)
  | case5 d rest _ hd first lines hcut ih =>
    rcases List.mem_cons.mp mem with rfl | later
    · exact ⟨c :: first, List.mem_cons_self, List.mem_cons_self⟩
    · obtain ⟨line, hline, inside⟩ := ih later
      rcases List.mem_cons.mp (hcut ▸ hline) with rfl | hline
      · exact ⟨d :: line, List.mem_cons_self, List.mem_cons_of_mem _ inside⟩
      · exact ⟨line, List.mem_cons_of_mem _ hline, inside⟩

/-- A text with something to see in it has a visible line. -/
theorem splitLines_ne_nil {c : Char} {text : List Char} (mem : c ∈ text)
    (visible : isBlank c = false) (unbroken : isLineBreak c = false) : splitLines text ≠ [] := by
  obtain ⟨line, hline, inside⟩ := exists_mem_cut mem unbroken
  have kept : line ∈ splitLines text :=
    List.mem_filter.mpr ⟨hline, List.any_eq_true.mpr ⟨c, inside, by simp [visible]⟩⟩
  exact List.ne_nil_of_mem kept

/-- A text without carriage returns is as the lines of a text file are. -/
theorem unifyBreaks_of_not_mem {text : List Char} (h : '\r' ∉ text) : unifyBreaks text = text := by
  fun_induction unifyBreaks text with
  | case1 => rfl
  | case2 rest ih => simp at h
  | case3 c rest _ ih =>
    obtain ⟨here, later⟩ := not_or.mp (mt List.mem_cons.mpr h)
    rw [if_neg (Ne.symm here), ih later]

/-! ### At one separator -/

/-- Divides a text at the occurrences of a separator, from left to right. The first `skip`
characters belong to the separator found last. -/
def cutFrom (separator : List Char) : Nat → List Char → List (List Char)
  | _, [] => [[]]
  | skip + 1, _ :: rest => cutFrom separator skip rest
  | 0, c :: rest =>
    if separator.isPrefixOf (c :: rest) then [] :: cutFrom separator (separator.length - 1) rest
    else
      match cutFrom separator 0 rest with
      | [] => [[c]]
      | line :: lines => (c :: line) :: lines

def cutAt (separator text : List Char) : List (List Char) :=
  cutFrom separator 0 text

section CutAt

variable {first : Char} {more : List Char}

theorem cutFrom_skip (separator skipped rest : List Char) :
    cutFrom separator skipped.length (skipped ++ rest) = cutAt separator rest := by
  induction skipped with
  | nil => rfl
  | cons c skipped ih => exact ih

theorem cutAt_separator_append (rest : List Char) :
    cutAt (first :: more) (first :: more ++ rest) = [] :: cutAt (first :: more) rest := by
  have here : (first :: more).isPrefixOf (first :: more ++ rest) = true :=
    List.isPrefixOf_iff_prefix.mpr (List.prefix_append _ _)
  rw [← cutFrom_skip (first :: more) more rest, cutAt]
  exact if_pos here

theorem cutAt_cons_of_ne {c : Char} (h : first ≠ c) {text line : List Char}
    {lines : List (List Char)} (hcut : cutAt (first :: more) text = line :: lines) :
    cutAt (first :: more) (c :: text) = (c :: line) :: lines := by
  have elsewhere : (first :: more).isPrefixOf (c :: text) = false := by
    rw [List.isPrefixOf, beq_eq_false_iff_ne.mpr h, Bool.false_and]
  have later : cutFrom (first :: more) 0 text = line :: lines := hcut
  rw [cutAt, cutFrom, elsewhere, later]
  rfl

/-- A piece without the separator's first character ends at the separator. -/
theorem cutAt_append_separator {line : List Char} (h : first ∉ line) (rest : List Char) :
    cutAt (first :: more) (line ++ (first :: more) ++ rest) =
      line :: cutAt (first :: more) rest := by
  induction line with
  | nil => exact cutAt_separator_append rest
  | cons c line ih =>
    obtain ⟨hc, hline⟩ := not_or.mp (mt List.mem_cons.mpr h)
    exact cutAt_cons_of_ne hc (ih hline)

theorem cutAt_of_not_mem {line : List Char} (h : first ∉ line) :
    cutAt (first :: more) line = [line] := by
  induction line with
  | nil => rfl
  | cons c line ih =>
    obtain ⟨hc, hline⟩ := not_or.mp (mt List.mem_cons.mpr h)
    exact cutAt_cons_of_ne hc (ih hline)

/-- Pieces that were joined with a separator are cut apart again, if none has the separator's first
character. -/
theorem cutAt_intercalate {lines : List (List Char)} (nonempty : lines ≠ [])
    (h : ∀ line ∈ lines, first ∉ line) :
    cutAt (first :: more) ((first :: more).intercalate lines) = lines := by
  induction lines with
  | nil => exact absurd rfl nonempty
  | cons line rest ih =>
    obtain ⟨hline, hrest⟩ := List.forall_mem_cons.mp h
    cases rest with
    | nil => rw [List.intercalate_singleton, cutAt_of_not_mem hline]
    | cons next others =>
      rw [List.intercalate_cons_cons, cutAt_append_separator hline,
        ih (List.cons_ne_nil _ _) hrest]

end CutAt

end CodeBehind.Text
