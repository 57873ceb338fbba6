import CodeBehind.Proofs.Text.Lowercase
import CodeBehind.Proofs.Text.Matcher
import CodeBehind.Version.Parse

/-!
The texts that are read as versions.

A written version consists of blanks, perhaps a mark, a number, further numbers with a dot before
each, and blanks (`Writes`). Reading one goes through it without ever going back: a number ends
where no digit follows, so each step takes as much as it can and the rest can still be matched
(`run_written_of_writes`). A text that can be matched in any way is a written version
(`exists_writes_of_run_written`). Hence the first three numbers are found whatever follows, and
`parse_accepts` says what is read and what is refused.
-/

namespace CodeBehind

namespace Text

/-! ### Digits -/

variable {c : Char}

/-- The digits of a script follow its zero. -/
theorem isDecimalDigit_iff :
    isDecimalDigit c = true ↔ ∃ z ∈ decimalZeros, z ≤ c.toNat ∧ c.toNat ≤ z + 9 := by
  simp [isDecimalDigit, digitValue?]

/-- No blank character lies between a zero and its nine. -/
theorem digits_apart : ∀ z ∈ decimalZeros, ∀ range ∈ blankRanges,
    z + 9 < range.1 ∨ range.2 < z := by
  decide +kernel

/-- No digit is blank. -/
theorem isDecimalDigit_eq_false_of_isBlank (blank : isBlank c = true) :
    isDecimalDigit c = false := by
  rw [isBlank_eq_inRanges, inRanges, List.any_eq_true] at blank
  obtain ⟨range, mem, inside⟩ := blank
  rw [Bool.and_eq_true, decide_eq_true_iff, decide_eq_true_iff] at inside
  rw [Bool.eq_false_iff, ne_eq, isDecimalDigit_iff]
  rintro ⟨z, listed, after, before⟩
  have apart := digits_apart z listed range mem
  omega

end Text

namespace Version

open Text Text.Matcher

/-! ### Written versions -/

/-- A number is a run of decimal digits that is not empty. -/
def IsNumber (digits : List Char) : Prop :=
  digits ≠ [] ∧ ∀ c ∈ digits, isDecimalDigit c = true

def dots (numbers : List (List Char)) : List Char :=
  numbers.flatMap ('.' :: ·)

/-- The text is a written version with these numbers. -/
inductive Writes : List (List Char) → List Char → Prop where
  | intro {before mark first after : List Char} {others : List (List Char)}
    (opens : ∀ c ∈ before, isBlank c = true) (marked : mark = [] ∨ mark = ['v'])
    (numbers : ∀ digits ∈ first :: others, IsNumber digits)
    (closes : ∀ c ∈ after, isBlank c = true) :
    Writes (first :: others) (before ++ (mark ++ (first ++ (dots others ++ after))))

theorem Writes.exists_cons {numbers : List (List Char)} {text : List Char}
    (writes : Writes numbers text) : ∃ first others, numbers = first :: others := by
  cases writes
  exact ⟨_, _, rfl⟩

variable {β : Type} {b : β} {text rest after digits : List Char} {others : List (List Char)}

theorem dots_append (numbers others : List (List Char)) :
    dots (numbers ++ others) = dots numbers ++ dots others :=
  List.flatMap_append

theorem dots_cons_append (digits : List Char) (others : List (List Char)) (after : List Char) :
    dots (digits :: others) ++ after = '.' :: digits ++ (dots others ++ after) := by
  simp [dots]

theorem dotted_eq (text : List Char) (next : List Char → List Char → Option β) :
    dotted text next =
      one (· == '.') text fun _ rest => several isDecimalDigit rest next :=
  rfl

/-- A written version is blanks, perhaps a mark, and then numbers. -/
theorem written_eq (text : List Char)
    (next : List Char × Option (List Char) × Option (List Char) → List Char → Option β) :
    written text next =
      many isBlank text fun _ rest =>
      maybe (one (· == 'v')) rest fun _ rest =>
      several isDecimalDigit rest fun major rest =>
      maybe dotted rest fun minor? rest =>
      maybe dotted rest fun patch? rest =>
      repeated dotted rest fun _ rest =>
      many isBlank rest fun _ rest =>
      atEnd rest fun _ rest => next (major, minor?, patch?) rest :=
  rfl

/-! ### What is matched is written -/

/-- A number with a dot before it is taken from the front. -/
theorem exists_of_dotted {next : List Char → List Char → Option β}
    (found : dotted text next = some b) :
    ∃ digits rest, text = '.' :: digits ++ rest ∧ IsNumber digits ∧
      next digits rest = some b := by
  rw [dotted_eq] at found
  obtain ⟨c, _, rfl, dot, found⟩ := exists_of_one found
  obtain ⟨digits, rest, rfl, nonempty, all, found⟩ := exists_of_several found
  rw [eq_of_beq dot]
  exact ⟨digits, rest, rfl, ⟨nonempty, all⟩, found⟩

theorem exists_of_maybe_dotted {next : Option (List Char) → List Char → Option β}
    (found : maybe dotted text next = some b) :
    ∃ number? rest, text = dots number?.toList ++ rest ∧
      (∀ digits ∈ number?.toList, IsNumber digits) ∧ next number? rest = some b := by
  rcases of_maybe found with found | found
  · obtain ⟨digits, rest, rfl, number, found⟩ := exists_of_dotted found
    exact ⟨some digits, rest, by simp [dots], by simpa using number, found⟩
  · exact ⟨none, text, by simp [dots], by simp, found⟩

theorem exists_of_maybe_mark {next : Option Char → List Char → Option β}
    (found : maybe (one (· == 'v')) text next = some b) :
    ∃ mark? rest, text = mark?.toList ++ rest ∧ (∀ c ∈ mark?, c = 'v') ∧
      next mark? rest = some b := by
  rcases of_maybe found with found | found
  · obtain ⟨c, rest, rfl, mark, found⟩ := exists_of_one found
    exact ⟨some c, rest, rfl, by simpa using mark, found⟩
  · exact ⟨none, text, rfl, by simp, found⟩

/-- What is read as a written version writes some numbers. -/
theorem exists_writes_of_run_written {groups : List Char × Option (List Char) × Option (List Char)}
    (found : written.run text = some groups) : ∃ numbers, Writes numbers text := by
  rw [Matcher.run, written_eq] at found
  obtain ⟨before, _, rfl, opens, found⟩ := exists_of_many found
  obtain ⟨mark?, _, rfl, marked, found⟩ := exists_of_maybe_mark found
  obtain ⟨first, _, rfl, nonempty, all, found⟩ := exists_of_several found
  obtain ⟨minor?, _, rfl, minorNumber, found⟩ := exists_of_maybe_dotted found
  obtain ⟨patch?, _, rfl, patchNumber, found⟩ := exists_of_maybe_dotted found
  obtain ⟨more, _, rfl, moreNumbers, found⟩ := exists_of_repeated exists_of_dotted found
  obtain ⟨after, last, rfl, closes, found⟩ := exists_of_many found
  obtain ⟨ended, -⟩ := of_atEnd found
  have mark : mark?.toList = [] ∨ mark?.toList = ['v'] := by
    cases mark? with
    | none => exact .inl rfl
    | some c => exact .inr (congrArg (fun c => [c]) (marked c rfl))
  have numbers : ∀ digits ∈ first :: (minor?.toList ++ (patch?.toList ++ more)),
      IsNumber digits := by
    rw [List.forall_mem_cons, List.forall_mem_append, List.forall_mem_append]
    exact ⟨⟨nonempty, all⟩, minorNumber, patchNumber, moreNumbers⟩
  -- a line feed that ends the text is one more blank
  have blank : ∀ c ∈ after ++ last, isBlank c = true := by
    rw [List.forall_mem_append]
    refine ⟨closes, ?_⟩
    rcases ended with rfl | rfl
    · exact List.forall_mem_nil _
    · exact List.forall_mem_singleton.mpr (by decide)
  have writes := Writes.intro opens mark numbers blank
  simp only [dots_append, List.append_assoc] at writes
  exact ⟨_, writes⟩

/-! ### What is written is matched -/

/-- No digit follows a number of a written version. -/
theorem not_isDecimalDigit_of_head? (closes : ∀ c ∈ after, isBlank c = true)
    (others : List (List Char)) : ∀ c ∈ (dots others ++ after).head?, isDecimalDigit c = false := by
  intro c head
  cases others with
  | nil => exact isDecimalDigit_eq_false_of_isBlank (closes c (List.mem_of_mem_head? head))
  | cons digits others =>
    cases head
    decide

/-- A number with a dot is taken where the rest can be read after it. -/
theorem dotted_append (number : IsNumber digits)
    (stops : ∀ c ∈ rest.head?, isDecimalDigit c = false)
    {next : List Char → List Char → Option β} (found : next digits rest = some b) :
    dotted ('.' :: digits ++ rest) next = some b := by
  rw [dotted_eq, List.cons_append, one_cons rfl]
  exact several_append number.1 number.2 stops found

theorem dotted_of_blank (closes : ∀ c ∈ after, isBlank c = true)
    (next : List Char → List Char → Option β) : dotted after next = none := by
  rw [dotted_eq]
  apply one_of_not_head?
  intro c head
  have blank := closes c (List.mem_of_mem_head? head)
  rw [beq_eq_false_iff_ne]
  rintro rfl
  revert blank
  decide

section Dots

variable (numbers : ∀ digits ∈ others, IsNumber digits) (closes : ∀ c ∈ after, isBlank c = true)
include numbers closes

/-- The next number is taken where there is one. -/
theorem maybe_dotted_dots {next : Option (List Char) → List Char → Option β}
    (found : next others.head? (dots others.tail ++ after) = some b) :
    maybe dotted (dots others ++ after) next = some b := by
  cases others with
  | nil =>
    refine (maybe_of_none (dotted_of_blank closes _)).trans ?_
    exact found
  | cons digits others =>
    apply maybe_of_some
    rw [dots_cons_append]
    exact dotted_append (numbers digits List.mem_cons_self)
      (not_isDecimalDigit_of_head? closes others) found

/-- All further numbers are passed over. -/
theorem repeated_dotted_dots {next : List (List Char) → List Char → Option β}
    (found : next others after = some b) :
    repeated dotted (dots others ++ after) next = some b := by
  induction others generalizing next with
  | nil =>
    refine (repeated_of_none (dotted_of_blank closes) next).trans ?_
    exact found
  | cons digits others ih =>
    obtain ⟨number, numbers⟩ := List.forall_mem_cons.mp numbers
    rw [dots_cons_append]
    apply repeated_of_some
    have shorter : (dots others ++ after).length <
        ('.' :: digits ++ (dots others ++ after)).length := by
      simp only [List.cons_append, List.length_cons, List.length_append]
      omega
    refine dotted_append number (not_isDecimalDigit_of_head? closes others) ?_
    rw [if_pos shorter]
    exact ih numbers found

end Dots

theorem maybe_mark_append {mark : List Char} (marked : mark = [] ∨ mark = ['v'])
    (stops : ∀ c ∈ rest.head?, isDecimalDigit c = true)
    {next : Option Char → List Char → Option β} (found : ∀ mark?, next mark? rest = some b) :
    maybe (one (· == 'v')) (mark ++ rest) next = some b := by
  rcases marked with rfl | rfl
  · rw [List.nil_append, maybe_of_none]
    · exact found none
    · apply one_of_not_head?
      intro c head
      have digit := stops c head
      rw [beq_eq_false_iff_ne]
      rintro rfl
      revert digit
      decide
  · apply maybe_of_some
    rw [List.singleton_append, one_cons rfl]
    exact found (some 'v')

/-- A written version goes on with its mark or a digit where its first blanks end. -/
theorem not_isBlank_of_head? {mark : List Char} (marked : mark = [] ∨ mark = ['v'])
    (starts : ∀ c ∈ rest.head?, isDecimalDigit c = true) :
    ∀ c ∈ (mark ++ rest).head?, isBlank c = false := by
  intro c head
  rcases marked with rfl | rfl
  · have digit := starts c head
    rw [Bool.eq_false_iff]
    intro blank
    rw [isDecimalDigit_eq_false_of_isBlank blank] at digit
    cases digit
  · cases head
    decide

/-- Reading a written version finds its first three numbers. -/
theorem run_written_of_writes {first : List Char} (writes : Writes (first :: others) text) :
    written.run text = some (first, others.head?, others.tail.head?) := by
  cases writes with
  | @intro before mark _ after _ opens marked numbers closes =>
    obtain ⟨number, numbers⟩ := List.forall_mem_cons.mp numbers
    have starts : ∀ c ∈ (first ++ (dots others ++ after)).head?, isDecimalDigit c = true := by
      obtain ⟨c, digits, rfl⟩ := List.exists_cons_of_ne_nil number.1
      simpa using number.2 c List.mem_cons_self
    have tail : ∀ digits ∈ others.tail, IsNumber digits := fun digits mem =>
      numbers digits (List.mem_of_mem_tail mem)
    have tails : ∀ digits ∈ others.tail.tail, IsNumber digits := fun digits mem =>
      tail digits (List.mem_of_mem_tail mem)
    rw [Matcher.run, written_eq]
    apply many_append opens (not_isBlank_of_head? marked starts)
    apply maybe_mark_append marked starts
    intro mark?
    apply several_append number.1 number.2 (not_isDecimalDigit_of_head? closes others)
    apply maybe_dotted_dots numbers closes
    apply maybe_dotted_dots tail closes
    apply repeated_dotted_dots tails closes
    apply many_self closes
    rfl

/-! ### Values -/

def valueOf (number? : Option (List Char)) : Int :=
  (number?.map fun digits => (ofDigits digits : Int)).getD 0

/-- The version with these numbers, of which only the first three count. -/
def ofNumbers (numbers : List (List Char)) : Version where
  major := valueOf numbers[0]?
  minor := valueOf numbers[1]?
  patch := valueOf numbers[2]?

/-- The number has more digits than a number is read with. -/
def isTooLong (digits : List Char) : Bool :=
  maxDigits < digits.length

/-- A number is refused for its length and for nothing else. -/
theorem readNumber_eq (number? : Option (List Char)) :
    readNumber number? =
      match number?.toList.find? isTooLong with
      | some long => .error (.tooManyDigits long.length)
      | none => .ok (valueOf number?) := by
  cases number? with
  | none => rfl
  | some digits =>
    rw [readNumber, Option.toList_some, List.find?_singleton]
    cases long : isTooLong digits with
    | true => rw [if_pos (of_decide_eq_true long)]; rfl
    | false => rw [if_neg (of_decide_eq_false long)]; rfl

theorem take_three (first : List Char) (others : List (List Char)) :
    (first :: others).take 3 =
      (some first).toList ++ (others.head?.toList ++ others.tail.head?.toList) := by
  rcases others with _ | ⟨second, _ | ⟨third, more⟩⟩ <;> rfl

theorem ofNumbers_cons (first : List Char) (others : List (List Char)) :
    ofNumbers (first :: others) =
      ⟨valueOf (some first), valueOf others.head?, valueOf others.tail.head?⟩ := by
  rcases others with _ | ⟨second, _ | ⟨third, more⟩⟩ <;> rfl

/-- A written version is refused for the first of its first three numbers that is too long, and read
if there is none. -/
theorem parse_of_writes {s : String} {numbers : List (List Char)}
    (writes : Writes numbers s.toList) :
    parse (some s) =
      match (numbers.take 3).find? isTooLong with
      | some long => .error (.tooManyDigits long.length)
      | none => .ok (ofNumbers numbers) := by
  obtain ⟨first, others, rfl⟩ := writes.exists_cons
  rw [parse, Option.getD_some, run_written_of_writes writes, take_three, ofNumbers_cons,
    List.find?_append, List.find?_append]
  simp only [readNumber_eq]
  -- the numbers are read in order, up to the first one that is too long
  cases (some first).toList.find? isTooLong with
  | some long => rfl
  | none =>
    cases others.head?.toList.find? isTooLong with
    | some long => rfl
    | none =>
      cases others.tail.head?.toList.find? isTooLong with
      | some long => rfl
      | none => rfl

/-! ### Texts -/

/-- Why a text is refused: there is none, it is no written version, or one of the first three
numbers is too long. The first one of these is told of. -/
inductive Refuses : Option String → VersionError → Prop where
  | missing : Refuses none (.malformed none)
  | malformed {s : String} (unwritten : ∀ numbers, ¬ Writes numbers s.toList) :
    Refuses (some s) (.malformed (some s))
  | tooManyDigits {s : String} {numbers short others : List (List Char)} {long : List Char}
    (writes : Writes numbers s.toList) (split : numbers.take 3 = short ++ long :: others)
    (fit : ∀ digits ∈ short, digits.length ≤ maxDigits) (exceeds : maxDigits < long.length) :
    Refuses (some s) (.tooManyDigits long.length)

theorem parse_none : parse none = .error (.malformed none) := by
  rfl

/-- A text that writes no version is refused as malformed. -/
theorem parse_of_unwritten {s : String} (unwritten : ∀ numbers, ¬ Writes numbers s.toList) :
    parse (some s) = .error (.malformed (some s)) := by
  rw [parse, Option.getD_some]
  cases found : written.run s.toList with
  | none => rfl
  | some groups =>
    obtain ⟨numbers, writes⟩ := exists_writes_of_run_written found
    exact absurd writes (unwritten numbers)

/-- A version whose numbers are short enough is read. -/
theorem parse_of_fit {s : String} {numbers : List (List Char)} (writes : Writes numbers s.toList)
    (fit : ∀ digits ∈ numbers.take 3, digits.length ≤ maxDigits) :
    parse (some s) = .ok (ofNumbers numbers) := by
  have none : (numbers.take 3).find? isTooLong = none := by
    rw [List.find?_eq_none]
    intro digits mem
    simpa [isTooLong] using fit digits mem
  rw [parse_of_writes writes, none]

/-- A text is refused for the reason that the list gives. -/
theorem parse_of_refuses {text? : Option String} {e : VersionError} (refuses : Refuses text? e) :
    parse text? = .error e := by
  cases refuses with
  | missing => exact parse_none
  | malformed unwritten => exact parse_of_unwritten unwritten
  | @tooManyDigits s numbers short others long writes split fit exceeds =>
    have first : (numbers.take 3).find? isTooLong = some long := by
      rw [List.find?_eq_some_iff_append]
      refine ⟨decide_eq_true exceeds, short, others, split, ?_⟩
      simpa [isTooLong] using fit
    rw [parse_of_writes writes, first]

/-- Every text is refused for some reason or is a written version with numbers that fit. -/
theorem refuses_or_fits (text? : Option String) :
    (∃ e, Refuses text? e) ∨
      ∃ s numbers, text? = some s ∧ Writes numbers s.toList ∧
        ∀ digits ∈ numbers.take 3, digits.length ≤ maxDigits := by
  cases text? with
  | none => exact .inl ⟨_, .missing⟩
  | some s =>
    by_cases written : ∃ numbers, Writes numbers s.toList
    · obtain ⟨numbers, writes⟩ := written
      cases found : (numbers.take 3).find? isTooLong with
      | none =>
        refine .inr ⟨s, numbers, rfl, writes, ?_⟩
        intro digits mem
        simpa [isTooLong] using List.find?_eq_none.mp found digits mem
      | some long =>
        obtain ⟨exceeds, short, others, split, fit⟩ := List.find?_eq_some_iff_append.mp found
        refine .inl ⟨_, .tooManyDigits writes split ?_ (of_decide_eq_true exceeds)⟩
        simpa [isTooLong] using fit
    · exact .inl ⟨_, .malformed (not_exists.mp written)⟩

/-- A text is read exactly if it is a written version of which the first three numbers fit, and what
is read are the values of these. Every other text, and a missing one, is refused. -/
theorem parse_accepts :
    (∀ text? v, parse text? = .ok v ↔
      ∃ s numbers, text? = some s ∧ Writes numbers s.toList ∧
        (∀ digits ∈ numbers.take 3, digits.length ≤ maxDigits) ∧ v = ofNumbers numbers) ∧
    ∀ text? f, (parse text?).mapError VersionError.fault = .error f ↔
      ∃ e, Refuses text? e ∧ f = .builtin "ValueError" e.message := by
  constructor
  · intro text? v
    constructor
    · intro read
      rcases refuses_or_fits text? with ⟨e, refuses⟩ | ⟨s, numbers, rfl, writes, fit⟩
      · rw [parse_of_refuses refuses] at read
        cases read
      · rw [parse_of_fit writes fit] at read
        exact ⟨s, numbers, rfl, writes, fit, (Except.ok.inj read).symm⟩
    · rintro ⟨s, numbers, rfl, writes, fit, rfl⟩
      exact parse_of_fit writes fit
  · intro text? f
    constructor
    · intro failed
      rcases refuses_or_fits text? with ⟨e, refuses⟩ | ⟨s, numbers, rfl, writes, fit⟩
      · rw [parse_of_refuses refuses] at failed
        exact ⟨e, refuses, (Except.error.inj failed).symm⟩
      · rw [parse_of_fit writes fit] at failed
        cases failed
    · rintro ⟨e, refuses, rfl⟩
      rw [parse_of_refuses refuses]
      rfl

end Version

end CodeBehind
