import CodeBehind.Proofs.Text.Lines

/-!
Line ends of text files.

`unifyBreaks` replaces: first every pair of a carriage return and a line feed by a line feed, then
every carriage return that is left (`unifyBreaks_eq_replace`). It leaves no carriage return
(`return_not_mem_unifyBreaks`), and two texts come out the same exactly if they have the same lines,
however these end (`sameButEnds_iff`).
-/

namespace CodeBehind.Text

/-! ### Replacing -/

/-- A text with `new` in the place of every `old`, from left to right. -/
def replace (old new text : List Char) : List Char :=
  new.intercalate (cutAt old text)

section Replace

variable {first : Char} {more new : List Char}

theorem cutFrom_ne_nil (separator : List Char) (skip : Nat) (text : List Char) :
    cutFrom separator skip text ≠ [] := by
  fun_induction cutFrom separator skip text with
  | case2 _ _ _ ih => exact ih
  | _ => exact List.cons_ne_nil _ _

theorem intercalate_cons_append (front line : List Char) (lines : List (List Char)) :
    new.intercalate ((front ++ line) :: lines) = front ++ new.intercalate (line :: lines) := by
  cases lines with
  | nil => rw [List.intercalate_singleton, List.intercalate_singleton]
  | cons next others =>
    rw [List.intercalate_cons_cons, List.intercalate_cons_cons]
    simp only [List.append_assoc]

theorem replace_nil (old : List Char) : replace old new [] = [] := by
  rw [replace, cutAt, cutFrom, List.intercalate_singleton]

/-- An occurrence in front is replaced. -/
theorem replace_here (first : Char) (more new rest : List Char) :
    replace (first :: more) new (first :: more ++ rest) =
      new ++ replace (first :: more) new rest := by
  have nonempty : cutAt (first :: more) rest ≠ [] := cutFrom_ne_nil _ 0 rest
  rw [replace, cutAt_separator_append, List.intercalate_cons_of_ne_nil nonempty, List.nil_append,
    replace]

/-- A text that no occurrence begins keeps its first character. -/
theorem replace_later {old : List Char} {c : Char} {rest : List Char}
    (elsewhere : ¬ old <+: c :: rest) :
    replace old new (c :: rest) = c :: replace old new rest := by
  have missed : old.isPrefixOf (c :: rest) = false :=
    eq_false_of_ne_true (mt List.isPrefixOf_iff_prefix.mp elsewhere)
  rw [replace, replace, cutAt, cutAt, cutFrom, missed]
  cases later : cutFrom old 0 rest with
  | nil => exact absurd later (cutFrom_ne_nil old 0 rest)
  | cons line lines => exact intercalate_cons_append [c] line lines

end Replace

/-- Unifying line ends replaces the pairs and then the carriage returns that are left. -/
theorem unifyBreaks_eq_replace (text : List Char) :
    unifyBreaks text = replace ['\r'] ['\n'] (replace ['\r', '\n'] ['\n'] text) := by
  have kept : ∀ {c : Char} (_ : c ≠ '\r') (rest : List Char),
      replace ['\r'] ['\n'] (c :: rest) = c :: replace ['\r'] ['\n'] rest := by
    intro c hc rest
    exact replace_later fun h => hc (List.cons_prefix_cons.mp h).1.symm
  fun_induction unifyBreaks text with
  | case1 => simp only [replace_nil]
  | case2 rest ih =>
    have pair := replace_here '\r' ['\n'] ['\n'] rest
    rw [List.cons_append, List.singleton_append] at pair
    rw [pair, List.singleton_append, kept (by decide), ih]
  | case3 c rest alone ih =>
    have single : ¬ ['\r', '\n'] <+: c :: rest := by
      rintro ⟨more, pair⟩
      obtain ⟨isReturn, feeds⟩ := List.cons.inj pair
      exact alone more isReturn.symm feeds.symm
    rw [replace_later single, ih]
    split
    · next isReturn =>
      subst isReturn
      exact (replace_here '\r' [] ['\n'] _).symm
    · next other => rw [kept other]

/-! ### What is left -/

/-- No carriage return is left. -/
theorem return_not_mem_unifyBreaks (text : List Char) : '\r' ∉ unifyBreaks text := by
  fun_induction unifyBreaks text with
  | case1 => exact List.not_mem_nil
  | case2 rest ih => exact List.not_mem_cons_of_ne_of_not_mem (by decide) ih
  | case3 c rest alone ih =>
    refine List.not_mem_cons_of_ne_of_not_mem ?_ ih
    split
    · decide
    · next other => exact Ne.symm other

theorem length_unifyBreaks_le (text : List Char) : (unifyBreaks text).length ≤ text.length := by
  fun_induction unifyBreaks text with
  | case1 => exact Nat.le_refl 0
  | case2 rest ih =>
    simp only [List.length_cons]
    omega
  | case3 c rest alone ih => exact Nat.succ_le_succ ih

/-- A text stays as it is if there is no carriage return in it. -/
theorem unifyBreaks_eq_self_iff {text : List Char} : unifyBreaks text = text ↔ '\r' ∉ text :=
  ⟨fun same => same ▸ return_not_mem_unifyBreaks text, unifyBreaks_of_not_mem⟩

/-! ### The same lines -/

/-- The ways to end a line. -/
inductive LineEnd where
  | feed
  | returnFeed
  | bareReturn

def LineEnd.chars : LineEnd → List Char
  | feed => ['\n']
  | returnFeed => ['\r', '\n']
  | bareReturn => ['\r']

/-- The line end is one in front of this text: a carriage return takes a line feed after it
along. -/
def LineEnd.Ends (e : LineEnd) (rest : List Char) : Prop :=
  e = .bareReturn → rest.head? ≠ some '\n'

/-- Two texts are the same but for what ends their lines. -/
inductive SameButEnds : List Char → List Char → Prop
  | done : SameButEnds [] []
  | char {c : Char} {a b : List Char} (noReturn : c ≠ '\r') (noFeed : c ≠ '\n') :
      SameButEnds a b → SameButEnds (c :: a) (c :: b)
  | lineEnd {e e' : LineEnd} {a b : List Char} (here : e.Ends a) (there : e'.Ends b) :
      SameButEnds a b → SameButEnds (e.chars ++ a) (e'.chars ++ b)

/-- A line end in front becomes a line feed. -/
theorem unifyBreaks_lineEnd {e : LineEnd} {rest : List Char} (h : e.Ends rest) :
    unifyBreaks (e.chars ++ rest) = '\n' :: unifyBreaks rest := by
  cases e with
  | feed => rfl
  | returnFeed => rfl
  | bareReturn =>
    refine unifyBreaks.eq_3 '\r' rest fun more _ feeds => h rfl ?_
    rw [feeds, List.head?_cons]

theorem unifyBreaks_char {c : Char} (h : c ≠ '\r') (rest : List Char) :
    unifyBreaks (c :: rest) = c :: unifyBreaks rest := by
  rw [unifyBreaks.eq_3 c rest fun _ isReturn => absurd isReturn h, if_neg h]

/-- Texts that differ in their line ends only become the same. -/
theorem unifyBreaks_of_sameButEnds {a b : List Char} (h : SameButEnds a b) :
    unifyBreaks a = unifyBreaks b := by
  induction h with
  | done => rfl
  | char noReturn _ _ ih => rw [unifyBreaks_char noReturn, unifyBreaks_char noReturn, ih]
  | lineEnd here there _ ih => rw [unifyBreaks_lineEnd here, unifyBreaks_lineEnd there, ih]

theorem eq_nil_of_unifyBreaks {text : List Char} (h : unifyBreaks text = []) : text = [] := by
  fun_cases unifyBreaks text with
  | case1 => rfl
  | case2 rest => cases h
  | case3 c rest alone =>
    rw [unifyBreaks.eq_3 c rest alone] at h
    cases h

/-- What a character comes from: from itself in a line, or from the end of one. -/
theorem exists_of_unifyBreaks {c : Char} {text unified : List Char}
    (h : unifyBreaks text = c :: unified) :
    (∃ rest, text = c :: rest ∧ c ≠ '\r' ∧ c ≠ '\n' ∧ unifyBreaks rest = unified) ∨
      c = '\n' ∧ ∃ e rest, text = LineEnd.chars e ++ rest ∧ e.Ends rest ∧
        unifyBreaks rest = unified := by
  fun_cases unifyBreaks text with
  | case1 => cases h
  | case2 rest =>
    obtain ⟨rfl, rest_eq⟩ := List.cons.inj h
    exact .inr ⟨rfl, .returnFeed, rest, rfl, nofun, rest_eq⟩
  | case3 d rest alone =>
    rw [unifyBreaks.eq_3 d rest alone] at h
    obtain ⟨first, rest_eq⟩ := List.cons.inj h
    split at first
    · next isReturn =>
      refine .inr ⟨first.symm, .bareReturn, rest, congrArg (· :: rest) isReturn, fun _ feeds => ?_,
        rest_eq⟩
      obtain ⟨more, feeds⟩ := List.head?_eq_some_iff.mp feeds
      exact alone more isReturn feeds
    · next noReturn =>
      subst first
      by_cases isFeed : d = '\n'
      · exact .inr ⟨isFeed, .feed, rest, congrArg (· :: rest) isFeed, nofun, rest_eq⟩
      · exact .inl ⟨rest, rfl, noReturn, isFeed, rest_eq⟩

/-- Texts that become the same differ in their line ends only. -/
theorem sameButEnds_of_unifyBreaks {a b unified : List Char} (ha : unifyBreaks a = unified)
    (hb : unifyBreaks b = unified) : SameButEnds a b := by
  induction unified generalizing a b with
  | nil =>
    rw [eq_nil_of_unifyBreaks ha, eq_nil_of_unifyBreaks hb]
    exact .done
  | cons c unified ih =>
    obtain ⟨rest, rfl, noReturn, noFeed, ha⟩ | ⟨rfl, e, rest, rfl, ends, ha⟩ :=
      exists_of_unifyBreaks ha
    · obtain ⟨rest', rfl, -, -, hb⟩ | ⟨isFeed, -⟩ := exists_of_unifyBreaks hb
      · exact .char noReturn noFeed (ih ha hb)
      · exact absurd isFeed noFeed
    · obtain ⟨-, -, -, noFeed, -⟩ | ⟨-, e', rest', rfl, ends', hb⟩ := exists_of_unifyBreaks hb
      · exact absurd rfl noFeed
      · exact .lineEnd ends ends' (ih ha hb)

/-- What text files with the same lines have in common is what is left when their line ends are
unified. -/
theorem sameButEnds_iff {a b : List Char} : SameButEnds a b ↔ unifyBreaks a = unifyBreaks b :=
  ⟨unifyBreaks_of_sameButEnds, fun same => sameButEnds_of_unifyBreaks same rfl⟩

/-- A line in front of both texts keeps them the same but for their line ends. -/
theorem sameButEnds_append {line a b : List Char} (plain : '\r' ∉ line ∧ '\n' ∉ line)
    (rest : SameButEnds a b) : SameButEnds (line ++ a) (line ++ b) := by
  induction line with
  | nil => exact rest
  | cons c line ih =>
    simp only [List.mem_cons, not_or] at plain
    exact .char (Ne.symm plain.1.1) (Ne.symm plain.2.1) (ih ⟨plain.1.2, plain.2.2⟩)

/-- Where no line holds a line feed, the text of lines joined in one style does not begin with one
that would belong to the line end in front of it. -/
theorem ends_intercalate (e : LineEnd) {lines : List (List Char)}
    (noFeeds : ∀ line ∈ lines, '\n' ∉ line) : e.Ends (e.chars.intercalate lines) := by
  rintro rfl feeds
  rcases mem_intercalate (List.mem_of_head? feeds) with mem | ⟨line, hline, mem⟩
  · exact absurd mem (by decide)
  · exact noFeeds line hline mem

/-- Lines joined in one style are the same text as in another, but for the line ends. -/
theorem sameButEnds_intercalate (e e' : LineEnd) {lines : List (List Char)}
    (plain : ∀ line ∈ lines, '\r' ∉ line ∧ '\n' ∉ line) :
    SameButEnds (e.chars.intercalate lines) (e'.chars.intercalate lines) := by
  induction lines with
  | nil => exact .done
  | cons line rest ih =>
    obtain ⟨here, later⟩ := List.forall_mem_cons.mp plain
    have noFeeds : ∀ line ∈ rest, '\n' ∉ line := fun line mem => (later line mem).2
    cases rest with
    | nil =>
      rw [List.intercalate_singleton, List.intercalate_singleton, ← List.append_nil line]
      exact sameButEnds_append here .done
    | cons next others =>
      rw [List.intercalate_cons_cons, List.intercalate_cons_cons, List.append_assoc,
        List.append_assoc]
      exact sameButEnds_append here
        (.lineEnd (ends_intercalate e noFeeds) (ends_intercalate e' noFeeds) (ih later))

end CodeBehind.Text
