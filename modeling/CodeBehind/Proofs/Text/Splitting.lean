import CodeBehind.Proofs.Text.Lines

/-!
Splitting into visible lines, by its laws.

`splitLines` is the one function that splits at every recognised break and keeps of a text without
breaks the text itself, or nothing where there is nothing to see (`SplitsLines`). What it cuts where
a carriage return meets a line feed is therefore no matter of how the breaks are read.

* `splitLines_append`: a break separates what is before it from what is after it, whatever these end
  or begin with.
* `SplitsLines.eq_filter`: a text laid out in lines (`Laid`) has the visible ones among them.
* `splitsLines_iff`: the laws determine the function, no visible character is lost, doubled or
  moved, and two texts have the same visible lines exactly when they differ in the style of their
  breaks and in blank lines only.
-/

namespace CodeBehind.Text

/-! ### Breaks -/

/-- The recognised line breaks: carriage return with line feed, carriage return, line feed, next
line, and the two Unicode separators. -/
def lineBreaks : List (List Char) :=
  [['\r', '\n'], ['\r'], ['\n'], ['\u0085'], ['\u2028'], ['\u2029']]

/-- A character ends a line if it is a line break by itself. -/
theorem isLineBreak_iff {c : Char} : isLineBreak c = true ↔ [c] ∈ lineBreaks := by
  simp [isLineBreak, lineBreaks, or_assoc]

/-- A break is the pair or a single character. -/
theorem mem_lineBreaks {s : List Char} :
    s ∈ lineBreaks ↔ s = ['\r', '\n'] ∨ ∃ c, isLineBreak c = true ∧ s = [c] := by
  constructor
  · intro mem
    rcases List.mem_cons.mp mem with pair | single
    · exact .inl pair
    · simp only [List.mem_cons, List.not_mem_nil, or_false] at single
      rcases single with rfl | rfl | rfl | rfl | rfl <;> exact .inr ⟨_, rfl, rfl⟩
  · rintro (rfl | ⟨c, hc, rfl⟩)
    · exact List.mem_cons_self
    · exact isLineBreak_iff.mp hc

/-- What ends a line cannot be seen. -/
theorem isBlank_of_isLineBreak {c : Char} (h : isLineBreak c = true) : isBlank c = true := by
  simp only [isLineBreak, Bool.or_eq_true, beq_iff_eq] at h
  rcases h with (((rfl | rfl) | rfl) | rfl) | rfl <;> rfl

/-- The characters of line breaks are blank. -/
theorem isBlank_of_mem_break {s : List Char} (h : s ∈ lineBreaks) {c : Char} (mem : c ∈ s) :
    isBlank c = true := by
  rcases mem_lineBreaks.mp h with rfl | ⟨d, hd, rfl⟩
  · simp only [List.mem_cons, List.not_mem_nil, or_false] at mem
    rcases mem with rfl | rfl <;> rfl
  · rw [List.mem_singleton.mp mem]
    exact isBlank_of_isLineBreak hd

/-! ### The laws -/

/-- The laws of splitting into visible lines. -/
structure SplitsLines (split : List Char → List (List Char)) : Prop where
  joins : ∀ {s : List Char}, s ∈ lineBreaks → ∀ front rest,
    split (front ++ s ++ rest) = split front ++ split rest
  visible : ∀ {line : List Char}, IsUnbroken line → (∃ c ∈ line, isBlank c = false) →
    split line = [line]
  blank : ∀ {line : List Char}, IsUnbroken line → (∀ c ∈ line, isBlank c = true) →
    split line = []

theorem isVisible_iff {line : List Char} :
    isVisible line = true ↔ ∃ c ∈ line, isBlank c = false := by
  simp [isVisible]

theorem isVisible_eq_false_iff {line : List Char} :
    isVisible line = false ↔ ∀ c ∈ line, isBlank c = true := by
  simp [isVisible]

/-- A line break cuts the lines in two, whichever it is. -/
theorem splitLines_append {s : List Char} (h : s ∈ lineBreaks) (front rest : List Char) :
    splitLines (front ++ s ++ rest) = splitLines front ++ splitLines rest := by
  rcases mem_lineBreaks.mp h with rfl | ⟨c, hc, rfl⟩
  · exact splitLines_append_ending (.inr rfl) front rest
  · rw [List.append_assoc, List.singleton_append, splitLines_append_break hc]

/-- The visible lines are the splitting that the rules describe. -/
theorem splitsLines_splitLines : SplitsLines splitLines where
  joins := splitLines_append
  visible := by
    intro line unbroken seen
    simp [splitLines, cut_of_isUnbroken unbroken, isVisible_iff.mpr seen]
  blank := by
    intro line unbroken unseen
    simp [splitLines, cut_of_isUnbroken unbroken, isVisible_eq_false_iff.mpr unseen]

/-! ### Texts laid out in lines -/

/-- The text consists of the lines with recognised breaks between them. A text with a carriage
return in front of a line feed has more than one such layout. -/
inductive Laid : List (List Char) → List Char → Prop where
  | last {line : List Char} (unbroken : IsUnbroken line) : Laid [line] line
  | next {line s rest : List Char} {lines : List (List Char)} (unbroken : IsUnbroken line)
    (ends : s ∈ lineBreaks) (more : Laid lines rest) : Laid (line :: lines) (line ++ s ++ rest)

/-- A character that ends no line goes to the front of the first one. -/
theorem Laid.cons {c : Char} (hc : isLineBreak c = false) {line text : List Char}
    {lines : List (List Char)} (h : Laid (line :: lines) text) :
    Laid ((c :: line) :: lines) (c :: text) := by
  cases h with
  | last unbroken => exact .last (List.forall_mem_cons.mpr ⟨hc, unbroken⟩)
  | next unbroken ends more => exact .next (List.forall_mem_cons.mpr ⟨hc, unbroken⟩) ends more

/-- A text is laid out as its pieces with line breaks in between. -/
theorem laid_cut (text : List Char) : Laid (cut text) text := by
  fun_induction cut text with
  | case1 => exact .last isUnbroken_nil
  | case2 rest ih => exact .next isUnbroken_nil (mem_lineBreaks.mpr (.inl rfl)) ih
  | case3 c rest _ hc ih => exact .next isUnbroken_nil (isLineBreak_iff.mp hc) ih
  | case4 c rest _ hc hcut ih => exact absurd hcut (cut_ne_nil rest)
  | case5 c rest _ hc line lines hcut ih =>
    rw [hcut] at ih
    exact ih.cons (Bool.eq_false_iff.mpr hc)

/-- Whatever obeys the laws keeps the visible lines of every layout. -/
theorem SplitsLines.eq_filter {split : List Char → List (List Char)} (h : SplitsLines split)
    {lines : List (List Char)} {text : List Char} (laid : Laid lines text) :
    split text = lines.filter isVisible := by
  have single : ∀ {line : List Char}, IsUnbroken line → split line = [line].filter isVisible := by
    intro line unbroken
    cases seen : isVisible line with
    | true => simp [seen, h.visible unbroken (isVisible_iff.mp seen)]
    | false => simp [seen, h.blank unbroken (isVisible_eq_false_iff.mp seen)]
  induction laid with
  | last unbroken => exact single unbroken
  | next unbroken ends _ ih =>
    rw [h.joins ends, single unbroken, ih, ← List.filter_append, List.singleton_append]

/-! ### What is kept -/

def visibleChars (text : List Char) : List Char :=
  text.filter (!isBlank ·)

theorem visibleChars_eq_nil {text : List Char} (h : ∀ c ∈ text, isBlank c = true) :
    visibleChars text = [] := by
  simpa [visibleChars] using h

/-- The visible characters of two texts come one after the other. -/
theorem visibleChars_append (front rest : List Char) :
    visibleChars (front ++ rest) = visibleChars front ++ visibleChars rest :=
  List.filter_append front rest

/-- Dropping the blank lines of a layout drops no character that can be seen, and neither do its
breaks hold one. -/
theorem Laid.visibleChars_flatten {lines : List (List Char)} {text : List Char}
    (laid : Laid lines text) :
    visibleChars (lines.filter isVisible).flatten = visibleChars text := by
  have single : ∀ line : List Char,
      visibleChars ([line].filter isVisible).flatten = visibleChars line := by
    intro line
    cases seen : isVisible line with
    | true => simp [seen]
    | false =>
      rw [visibleChars_eq_nil (isVisible_eq_false_iff.mp seen)]
      simp [seen, visibleChars]
  induction laid with
  | @last line _ => exact single line
  | @next line s rest lines _ ends _ ih =>
    have unseen : visibleChars s = [] := visibleChars_eq_nil fun c => isBlank_of_mem_break ends
    rw [← List.singleton_append, List.filter_append, List.flatten_append, visibleChars_append,
      visibleChars_append, visibleChars_append, single, ih, unseen, List.append_nil]

/-- Two texts differ in nothing but the style of their line breaks and blank lines. -/
def SameLines (text other : List Char) : Prop :=
  ∃ lines others, Laid lines text ∧ Laid others other ∧
    lines.filter isVisible = others.filter isVisible

/-- Texts have the same visible lines if they differ in line breaks and blank lines only. -/
theorem splitLines_eq_iff {text other : List Char} :
    splitLines text = splitLines other ↔ SameLines text other := by
  constructor
  · intro same
    exact ⟨cut text, cut other, laid_cut text, laid_cut other, same⟩
  · rintro ⟨lines, others, laid, laid', same⟩
    rw [splitsLines_splitLines.eq_filter laid, splitsLines_splitLines.eq_filter laid', same]

/-- `splitLines` is the one function with the laws of splitting into visible lines. It keeps every
character that can be seen, once and in its place, and tells two texts apart exactly when they
differ in more than the style of their line breaks and blank lines. -/
theorem splitsLines_iff :
    (∀ split, SplitsLines split ↔ split = splitLines) ∧
      (∀ text, visibleChars (splitLines text).flatten = visibleChars text) ∧
      ∀ text other, splitLines text = splitLines other ↔ SameLines text other := by
  refine ⟨?_, ?_, fun _ _ => splitLines_eq_iff⟩
  · intro split
    constructor
    · intro h
      funext text
      exact h.eq_filter (laid_cut text)
    · rintro rfl
      exact splitsLines_splitLines
  · intro text
    exact (laid_cut text).visibleChars_flatten

/-- A break of another style and an empty line make no difference. -/
example : SameLines "a\r\n\nb".toList "a\u2028b".toList :=
  splitLines_eq_iff.mp (by decide)

end CodeBehind.Text
