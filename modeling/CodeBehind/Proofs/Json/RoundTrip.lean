import CodeBehind.Json.Reader
import CodeBehind.Proofs.Json.Printer
import CodeBehind.Proofs.Text.Utf8
import CodeBehind.Proofs.Value.Sameness
import Mathlib.Data.List.Forall2

/-!
Printing JSON and reading it back.

What is printed of a value is read as this value (`readsBack_of_numbers`), provided that every
number in it is: nothing here says that the digits of a number with a fraction are enough. Texts,
words, lists and objects need no proviso. A text is escaped so that its characters come back
(`text_quoted`), and a number ends where a comma or a line does (`scalar_append`). So whatever is
printed is `Readable`: it is read in front of anything that may follow a value, with fuel for two
steps at every character. Lists and objects are laid out from texts that are (`readable_list`,
`readable_object`), each of them one bracket deeper than what it holds, and an induction over the
value does the rest.
-/

namespace CodeBehind.Json

/-! ### Texts -/

theorem hexValue?_digitChar : ∀ n < 16, hexValue? (Nat.digitChar n) = some n := by
  decide

/-- The escape of a character is read as this character. Something follows inside a text, at least
the closing quote. -/
theorem textUnits_escape (start : Nat) (c next : Char) (more : List Char) :
    textUnits start (escape c ++ next :: more) =
      (textUnits start (next :: more)).map fun (ns, rest) => (c.toNat :: ns, rest) := by
  unfold escape
  split
  iterate 7 simp [textUnits, escaped?]
  next noQuote noSlash _ _ _ _ _ =>
    split
    · next control =>
      have high := hexValue?_digitChar (c.toNat / 16) (by omega)
      have low := hexValue?_digitChar (c.toNat % 16) (by omega)
      have zero : hexValue? '0' = some 0 := by decide
      have number : fourHex? '0' '0' (Nat.digitChar (c.toNat / 16))
          (Nat.digitChar (c.toNat % 16)) = some c.toNat := by
        rw [fourHex?, zero, high, low]
        simp only [Option.bind_eq_bind, Option.bind_some, Option.pure_def, Option.some.injEq]
        omega
      simp [textUnits, number]
    · next visible =>
      rw [List.singleton_append, textUnits, if_neg visible]
      · exact noQuote
      · exact fun slash _ => noSlash slash
      · exact fun _ slash _ => noSlash slash
      · exact fun _ _ slash _ => noSlash slash

/-- Escaped characters are read back up to the closing quote. -/
theorem textUnits_flatMap (start : Nat) (cs rest : List Char) :
    textUnits start (cs.flatMap escape ++ '"' :: rest) = .ok (cs.map Char.toNat, rest) := by
  induction cs with
  | nil => simp [textUnits]
  | cons c cs ih =>
    obtain ⟨next, more, follows⟩ : ∃ next more, cs.flatMap escape ++ '"' :: rest = next :: more :=
      List.exists_cons_of_ne_nil (by simp)
    rw [List.flatMap_cons, List.append_assoc, follows, textUnits_escape, ← follows, ih]
    rfl

theorem isHighSurrogate_toNat (c : Char) : isHighSurrogate c.toNat = false := by
  have scalar := Text.Utf8.isScalar_toNat c
  simp only [isHighSurrogate, Bool.and_eq_false_iff, decide_eq_false_iff_not]
  omega

theorem unitChar_toNat (c : Char) : unitChar c.toNat = c := by
  have scalar := Text.Utf8.isScalar_toNat c
  have low : isLowSurrogate c.toNat = false := by
    simp only [isLowSurrogate, Bool.and_eq_false_iff, decide_eq_false_iff_not]
    omega
  rw [unitChar, isHighSurrogate_toNat, low]
  exact Char.ofNat_toNat c

/-- No character is half of another one. -/
theorem joinUnits_map (cs : List Char) : joinUnits (cs.map Char.toNat) = cs := by
  induction cs with
  | nil => rfl
  | cons c cs ih =>
    cases cs with
    | nil => rw [List.map_singleton, joinUnits, unitChar_toNat]
    | cons d cs =>
      rw [List.map_cons, List.map_cons, joinUnits, isHighSurrogate_toNat, unitChar_toNat,
        ← List.map_cons, ih]
      rfl

/-- A text in quotes is read back, whatever follows it. -/
theorem text_quoted (s : String) (rest : List Char) :
    text (s.toList.flatMap escape ++ '"' :: rest) = .ok (s, rest) := by
  rw [text, textUnits_flatMap]
  simp only [Except.map, joinUnits_map, String.ofList_toList]

/-! ### Numbers and words -/

/-- What may follow a value: nothing, a comma or the end of a line. -/
def Ends (rest : List Char) : Prop :=
  ∀ c ∈ rest.head?, c = ',' ∨ c = '\n'

theorem ends_nil : Ends [] := by
  intro c hc
  cases hc

theorem ends_cons {c : Char} {rest : List Char} : Ends (c :: rest) ↔ c = ',' ∨ c = '\n' := by
  simp [Ends]

def signPart (cs : List Char) : Bool × List Char :=
  match cs with
  | '-' :: rest => (true, rest)
  | '+' :: rest => (false, rest)
  | rest => (false, rest)

theorem exponentPart_cons (c : Char) (cs : List Char) :
    exponentPart (c :: cs) =
      if c == 'e' || c == 'E' then
        let (negative, unsigned) := signPart cs
        let (ds, rest) := digits unsigned
        let n : Int := Text.ofDigits ds
        if ds.isEmpty then (none, c :: cs) else (some (if negative then -n else n), rest)
      else (none, c :: cs) :=
  rfl

section Append

variable {rest : List Char} (ends : Ends rest)
include ends

/-- Digits end where a value ends. -/
theorem digits_append (cs : List Char) :
    digits (cs ++ rest) = ((digits cs).1, (digits cs).2 ++ rest) := by
  simp only [digits, List.span_eq_takeWhile_dropWhile]
  induction cs with
  | nil =>
    cases rest with
    | nil => rfl
    | cons c more =>
      have noDigit : c.isDigit = false := by
        rcases ends_cons.mp ends with rfl | rfl <;> rfl
      simp [noDigit]
  | cons c cs ih =>
    cases digit : c.isDigit with
    | true => simpa [digit] using ih
    | false => simp [digit]

theorem wholePart?_append (cs : List Char) :
    wholePart? (cs ++ rest) = (wholePart? cs).map fun (ds, more) => (ds, more ++ rest) := by
  cases cs with
  | nil =>
    cases rest with
    | nil => rfl
    | cons c more => rcases ends_cons.mp ends with rfl | rfl <;> rfl
  | cons c cs =>
    by_cases zero : c = '0'
    · subst zero
      rfl
    · have whole : ∀ more, wholePart? (c :: more) =
          if c.isDigit then some (digits (c :: more)) else none := by
        intro more
        simp [wholePart?]
      rw [List.cons_append, whole, whole, ← List.cons_append, digits_append ends]
      split <;> rfl

theorem fractionPart_append (cs : List Char) :
    fractionPart (cs ++ rest) = ((fractionPart cs).1, (fractionPart cs).2 ++ rest) := by
  cases cs with
  | nil =>
    cases rest with
    | nil => rfl
    | cons c more => rcases ends_cons.mp ends with rfl | rfl <;> rfl
  | cons c cs =>
    by_cases point : c = '.'
    · subst point
      rw [List.cons_append, fractionPart, fractionPart, digits_append ends]
      dsimp only
      split <;> rfl
    · simp [fractionPart, point]

theorem signPart_append (cs : List Char) :
    signPart (cs ++ rest) = ((signPart cs).1, (signPart cs).2 ++ rest) := by
  cases cs with
  | nil =>
    cases rest with
    | nil => rfl
    | cons c more => rcases ends_cons.mp ends with rfl | rfl <;> rfl
  | cons c cs =>
    by_cases minus : c = '-'
    · subst minus
      rfl
    · by_cases plus : c = '+'
      · subst plus
        rfl
      · simp [signPart, minus, plus]

theorem exponentPart_append (cs : List Char) :
    exponentPart (cs ++ rest) = ((exponentPart cs).1, (exponentPart cs).2 ++ rest) := by
  cases cs with
  | nil =>
    cases rest with
    | nil => rfl
    | cons c more => rcases ends_cons.mp ends with rfl | rfl <;> rfl
  | cons c cs =>
    rw [List.cons_append, exponentPart_cons, exponentPart_cons]
    split
    · rw [signPart_append ends]
      dsimp only
      rw [digits_append ends]
      dsimp only
      split <;> rfl
    · rfl

end Append

/-- A number after its sign; `cs` is the whole text, which a refusal is about. -/
def numberFrom (negative : Bool) (unsigned cs : List Char) : Except Refusal (Value × List Char) :=
  match wholePart? unsigned with
  | none => refuse .expectingValue cs
  | some (whole, rest) =>
    let (fraction, rest) := fractionPart rest
    let (exponent?, rest) := exponentPart rest
    if fraction.isEmpty && exponent?.isNone then
      if Text.maxDigits < whole.length then refuse (.tooManyDigits whole.length) cs
      else
        let n : Int := Text.ofDigits whole
        return (.int (if negative then -n else n), rest)
    else
      let exponent := exponent?.getD 0 - fraction.length
      return (.float (.ofDecimal negative (Text.ofDigits (whole ++ fraction)) exponent), rest)

def numberSign (cs : List Char) : Bool × List Char :=
  match cs with
  | '-' :: rest => (true, rest)
  | _ => (false, cs)

/-- A number is its sign and what follows it. -/
theorem number_eq (cs : List Char) :
    number cs = numberFrom (numberSign cs).1 (numberSign cs).2 cs :=
  rfl

theorem numberSign_append (c : Char) (cs rest : List Char) :
    numberSign (c :: cs ++ rest) =
      ((numberSign (c :: cs)).1, (numberSign (c :: cs)).2 ++ rest) := by
  by_cases minus : c = '-'
  · subst minus
    rfl
  · simp [numberSign, minus]

/-- A number that is read to its end is read in front of what may follow a value. -/
theorem numberFrom_append {rest : List Char} (ends : Ends rest) {negative : Bool}
    {unsigned cs : List Char} {v : Value} (h : numberFrom negative unsigned cs = .ok (v, [])) :
    numberFrom negative (unsigned ++ rest) (cs ++ rest) = .ok (v, rest) := by
  rw [numberFrom] at h ⊢
  rw [wholePart?_append ends]
  cases whole_eq : wholePart? unsigned with
  | none =>
    rw [whole_eq] at h
    cases h
  | some parts =>
    obtain ⟨whole, more⟩ := parts
    rw [whole_eq] at h
    simp only [Option.map_some, fractionPart_append ends, exponentPart_append ends] at h ⊢
    split at h
    · next plain =>
      rw [if_pos plain]
      split at h
      · cases h
      · next short =>
        rw [if_neg short]
        obtain ⟨value_eq, none_left⟩ := Prod.mk.inj (Except.ok.inj h)
        rw [none_left, value_eq]
        rfl
    · next plain =>
      rw [if_neg plain]
      obtain ⟨value_eq, none_left⟩ := Prod.mk.inj (Except.ok.inj h)
      rw [none_left, value_eq]
      rfl

/-- What may follow a value does not go on a number. -/
theorem number_append {rest : List Char} (ends : Ends rest) {cs : List Char} {v : Value}
    (h : number cs = .ok (v, [])) : number (cs ++ rest) = .ok (v, rest) := by
  cases cs with
  | nil => cases h
  | cons c cs =>
    rw [number_eq] at h ⊢
    rw [numberSign_append]
    exact numberFrom_append ends h

/-- No word reaches into what follows a value. -/
theorem isPrefixOf?_append {rest : List Char} (ends : Ends rest) {word : List Char}
    (inside : ',' ∉ word ∧ '\n' ∉ word) (cs : List Char) :
    word.isPrefixOf? (cs ++ rest) = (word.isPrefixOf? cs).map (· ++ rest) := by
  induction word generalizing cs with
  | nil => cases cs <;> rfl
  | cons w word ih =>
    simp only [List.mem_cons, not_or] at inside
    cases cs with
    | nil =>
      cases rest with
      | nil => rfl
      | cons c more =>
        have apart : w ≠ c := by
          rcases ends_cons.mp ends with rfl | rfl
          · exact Ne.symm inside.1.1
          · exact Ne.symm inside.2.1
        simp [List.isPrefixOf?, apart]
    | cons c cs =>
      rw [List.cons_append, List.isPrefixOf?, List.isPrefixOf?, ih ⟨inside.1.2, inside.2.2⟩]
      split <;> rfl

/-- What may follow a value does not go on a word. -/
theorem word?_append {rest : List Char} (ends : Ends rest) (cs : List Char) :
    word? (cs ++ rest) = (word? cs).map fun (v, more) => (v, more ++ rest) := by
  have apart : ∀ entry ∈ words, ',' ∉ entry.1.toList ∧ '\n' ∉ entry.1.toList := by
    decide
  unfold word?
  generalize words = entries at apart
  induction entries with
  | nil => rfl
  | cons entry others ih =>
    obtain ⟨w, v⟩ := entry
    obtain ⟨here, later⟩ := List.forall_mem_cons.mp apart
    rw [List.findSome?_cons, List.findSome?_cons, ih later]
    dsimp only at here ⊢
    rw [isPrefixOf?_append ends here]
    cases w.toList.isPrefixOf? cs <;> rfl

/-- A value that reads back alone reads back in front of anything that may follow a value. -/
theorem scalar_append {rest : List Char} (ends : Ends rest) {cs : List Char} {v : Value}
    (h : scalar cs = .ok (v, [])) : scalar (cs ++ rest) = .ok (v, rest) := by
  rw [scalar] at h ⊢
  rw [word?_append ends]
  cases found : word? cs with
  | none =>
    rw [found] at h
    exact number_append ends h
  | some entry =>
    rw [found] at h
    cases h
    rfl

/-- No number and no word begins with a mark. -/
theorem scalar_mark {c : Char} (mark : c ∈ marks) (cs : List Char) :
    scalar (c :: cs) = refuse .expectingValue (c :: cs) := by
  simp only [marks, List.mem_cons, List.not_mem_nil, or_false] at mark
  rcases mark with rfl | rfl | rfl | rfl | rfl | rfl | rfl | rfl | rfl | rfl <;> rfl

/-! ### What is left of a number -/

theorem digits_suffix (cs : List Char) : (digits cs).2 <:+ cs := by
  rw [digits, List.span_eq_takeWhile_dropWhile]
  exact List.dropWhile_suffix _

theorem wholePart?_suffix {cs ds rest : List Char} (h : wholePart? cs = some (ds, rest)) :
    rest <:+ cs := by
  unfold wholePart? at h
  split at h
  · cases h
    exact List.suffix_cons _ _
  · split at h
    · have rest_eq : (digits _).2 = rest := congrArg Prod.snd (Option.some.inj h)
      exact rest_eq ▸ digits_suffix _
    · cases h
  · cases h

theorem fractionPart_suffix (cs : List Char) : (fractionPart cs).2 <:+ cs := by
  unfold fractionPart
  split
  · next more =>
    dsimp only
    split
    · exact List.suffix_rfl
    · exact (digits_suffix more).trans (List.suffix_cons _ _)
  · exact List.suffix_rfl

theorem signPart_suffix (cs : List Char) : (signPart cs).2 <:+ cs := by
  unfold signPart
  split
  · exact List.suffix_cons _ _
  · exact List.suffix_cons _ _
  · exact List.suffix_rfl

theorem exponentPart_suffix (cs : List Char) : (exponentPart cs).2 <:+ cs := by
  cases cs with
  | nil => exact List.suffix_rfl
  | cons c cs =>
    rw [exponentPart_cons]
    dsimp only
    split
    · split
      · exact List.suffix_rfl
      · exact ((digits_suffix _).trans (signPart_suffix cs)).trans (List.suffix_cons _ _)
    · exact List.suffix_rfl

theorem numberFrom_suffix {negative : Bool} {unsigned cs rest : List Char} {v : Value}
    (h : numberFrom negative unsigned cs = .ok (v, rest)) : rest <:+ unsigned := by
  rw [numberFrom] at h
  split at h
  · cases h
  · next whole more whole_eq =>
    have behind : (exponentPart (fractionPart more).2).2 <:+ unsigned :=
      ((exponentPart_suffix _).trans (fractionPart_suffix _)).trans (wholePart?_suffix whole_eq)
    dsimp only at h
    split at h
    · split at h
      · cases h
      · exact (Prod.mk.inj (Except.ok.inj h)).2 ▸ behind
    · exact (Prod.mk.inj (Except.ok.inj h)).2 ▸ behind

/-- A value that holds no others leaves an end of the text. -/
theorem scalar_suffix {cs rest : List Char} {v : Value} (h : scalar cs = .ok (v, rest)) :
    rest <:+ cs := by
  rw [scalar] at h
  split at h
  · next found found_eq =>
    cases h
    rw [word?] at found_eq
    obtain ⟨⟨w, v⟩, -, entry_eq⟩ := List.exists_of_findSome?_eq_some found_eq
    obtain ⟨more, prefix_eq, same⟩ := Option.map_eq_some_iff.mp entry_eq
    cases same
    exact ⟨_, List.append_eq_of_isPrefixOf?_eq_some prefix_eq⟩
  · rw [number_eq] at h
    refine (numberFrom_suffix h).trans ?_
    unfold numberSign
    split
    · exact List.suffix_cons _ _
    · exact List.suffix_rfl

/-! ### Texts without marks -/

theorem skipSpace_of_not_isSpace {c : Char} (h : isSpace c = false) (cs : List Char) :
    skipSpace (c :: cs) = c :: cs := by
  simp [skipSpace, h]

theorem not_isSpace_of_not_mark {c : Char} (h : c ∉ marks) : isSpace c = false := by
  simp only [marks, List.mem_cons, List.not_mem_nil, or_false, not_or] at h
  simp [isSpace, h]

/-- What does not begin with a mark has no brackets around it. -/
theorem value_of_not_mark {c : Char} (h : c ∉ marks) (fuel nesting : Nat) (cs : List Char) :
    value (fuel + 1) nesting (c :: cs) = scalar (c :: cs) := by
  simp only [marks, List.mem_cons, List.not_mem_nil, or_false, not_or] at h
  rw [value]
  · exact fun _ same => h.1 (List.cons.inj same).1
  · exact fun _ same _ => h.2.1 (List.cons.inj same).1
  · exact fun _ _ same _ => h.2.1 (List.cons.inj same).1
  · exact fun _ same _ => h.2.2.2.1 (List.cons.inj same).1
  · exact fun _ _ same _ => h.2.2.2.1 (List.cons.inj same).1

theorem skipSpace_of_plain {cs : List Char} (plain : ∀ c ∈ marks, c ∉ cs) : skipSpace cs = cs := by
  cases cs with
  | nil => rfl
  | cons c cs =>
    exact skipSpace_of_not_isSpace
      (not_isSpace_of_not_mark fun mark => plain c mark List.mem_cons_self) cs

theorem value_of_plain {cs : List Char} (plain : ∀ c ∈ marks, c ∉ cs) (fuel nesting : Nat) :
    value (fuel + 1) nesting cs = scalar cs := by
  cases cs with
  | nil => rfl
  | cons c cs =>
    exact value_of_not_mark (fun mark => plain c mark List.mem_cons_self) fuel nesting cs

variable {nesting : Nat}

/-- What is read is read as a whole. -/
theorem whole_of_read {cs : List Char} {v : Value} (h : read nesting cs = .ok v) :
    whole nesting cs = .ok v := by
  rw [read] at h
  split at h
  · cases h
  · exact Outcome.mapError_eq_ok.mp h

/-- A text without marks is read to its end, as a number or a word. -/
theorem scalar_of_read {cs : List Char} {v : Value} (plain : ∀ c ∈ marks, c ∉ cs)
    (h : read nesting cs = .ok v) : scalar cs = .ok (v, []) := by
  have found := whole_of_read h
  rw [whole, skipSpace_of_plain plain, value_of_plain plain] at found
  obtain ⟨⟨w, rest⟩, read_eq, found⟩ := Outcome.bind_eq_ok.mp found
  have left : skipSpace rest = rest := skipSpace_of_plain fun c mark mem =>
    plain c mark ((scalar_suffix read_eq).subset mem)
  simp only [left] at found
  cases rest with
  | nil =>
    cases found
    exact read_eq
  | cons c rest => cases found

/-! ### Values in a row -/

/-- The text is read as this value wherever a value may stand whose brackets nest so deeply, and
shows where it begins. Every character accounts for two steps of the reader. -/
structure Readable (nesting : Nat) (cs : List Char) (v : Value) : Prop where
  begins : ∃ c more, cs = c :: more ∧ (c ≠ ']' ∧ c ≠ '\ufeff') ∧ isSpace c = false
  reads : ∀ fuel rest, 2 * cs.length ≤ fuel → Ends rest →
    value fuel nesting (cs ++ rest) = .ok (v, rest)

/-- No space stands in front of what can be read. -/
theorem Readable.skipSpace_append {cs : List Char} {v : Value} (h : Readable nesting cs v)
    (rest : List Char) : skipSpace (cs ++ rest) = cs ++ rest := by
  obtain ⟨c, more, rfl, -, visible⟩ := h.begins
  exact skipSpace_of_not_isSpace visible _

/-- Texts in a row show where they begin if the first one does. -/
theorem skipSpace_intercalate {c : Char} (h : isSpace c = false) (cs : List Char)
    (texts : List (List Char)) (between rest : List Char) :
    skipSpace (between.intercalate ((c :: cs) :: texts) ++ rest) =
      between.intercalate ((c :: cs) :: texts) ++ rest := by
  cases texts with
  | nil =>
    rw [List.intercalate_singleton]
    exact skipSpace_of_not_isSpace h _
  | cons text texts =>
    rw [List.intercalate_cons_cons]
    exact skipSpace_of_not_isSpace h _

def margin (level : Nat) : List Char :=
  '\n' :: List.replicate (2 * level) ' '

theorem toList_newLine (level : Nat) : (newLine level).toList = margin level := by
  rw [newLine, String.toList_append, toList_margin]
  rfl

theorem skipSpace_margin (level : Nat) (cs : List Char) :
    skipSpace (margin level ++ cs) = skipSpace cs := by
  have blank : ∀ n, skipSpace (List.replicate n ' ' ++ cs) = skipSpace cs := by
    intro n
    induction n with
    | zero => rfl
    | succ n ih => exact ih
  exact blank (2 * level)

theorem ends_margin (level : Nat) (cs : List Char) : Ends (margin level ++ cs) :=
  ends_cons.mpr (.inr rfl)

def separator (level : Nat) : List Char :=
  ',' :: margin level

section Separated

variable (level : Nat) (text next : List Char) (others : List (List Char))

theorem separated_append (rest : List Char) :
    (separator level).intercalate (text :: next :: others) ++ rest =
      text ++ ',' :: (margin level ++
        ((separator level).intercalate (next :: others) ++ rest)) := by
  rw [List.intercalate_cons_cons, separator]
  simp

/-- The length of elements with separators in between, by the first of them. -/
theorem length_separated :
    ((separator level).intercalate (text :: next :: others)).length =
      text.length + (margin level).length + 1 +
        ((separator level).intercalate (next :: others)).length := by
  rw [List.intercalate_cons_cons, separator]
  simp only [List.length_append, List.length_cons]
  omega

end Separated

theorem skipSpace_comma (cs : List Char) : skipSpace (',' :: cs) = ',' :: cs := rfl

/-- Elements with separators between them are read one after the other. -/
theorem elements_intercalate {texts : List (List Char)} {xs : List Value}
    (h : List.Forall₂ (Readable nesting) texts xs) (nonempty : texts ≠ []) (level : Nat)
    (rest : List Char) (before : List Value) (fuel : Nat)
    (enough : 2 * ((separator (level + 1)).intercalate texts).length < fuel) :
    elements fuel nesting before
        ((separator (level + 1)).intercalate texts ++ (margin level ++ ']' :: rest)) =
      .ok (.list (before.reverse ++ xs), rest) := by
  induction h generalizing before fuel with
  | nil => exact absurd rfl nonempty
  | @cons text x texts xs here later ih =>
    cases fuel with
    | zero => exact absurd enough (Nat.not_lt_zero _)
    | succ fuel =>
      rw [elements]
      cases later with
      | nil =>
        rw [List.intercalate_singleton] at enough ⊢
        have closing : skipSpace (margin level ++ ']' :: rest) = ']' :: rest := skipSpace_margin _ _
        rw [here.reads fuel _ (by omega) (ends_margin level _)]
        simp only [bind, Except.bind, closing, List.reverse_cons]
        rfl
      | @cons next y others ys second more =>
        rw [length_separated] at enough
        obtain ⟨c, cs, rfl, -, visible⟩ := second.begins
        have begins := skipSpace_intercalate visible cs others (separator (level + 1))
          (margin level ++ ']' :: rest)
        rw [separated_append, here.reads fuel _ (by omega) (ends_cons.mpr (.inl rfl))]
        simp only [bind, Except.bind, skipSpace_comma, skipSpace_margin, begins]
        rw [ih (List.cons_ne_nil _ _) (x :: before) fuel (by omega), List.reverse_cons,
          List.append_assoc]
        rfl

def memberText (name : String) (cs : List Char) : List Char :=
  '"' :: (name.toList.flatMap escape ++ '"' :: ':' :: ' ' :: cs)

def ReadableMember (nesting : Nat) (cs : List Char) (field : String × Value) : Prop :=
  ∃ valueText, cs = memberText field.1 valueText ∧ Readable nesting valueText field.2

/-- What is made of the rest after a member has been read. -/
def afterMember (fuel nesting : Nat) (read : Assoc Value) (rest : List Char) :
    Except Refusal (Value × List Char) :=
  match skipSpace rest with
  | '\x7d' :: rest => .ok (.object read, rest)
  | ',' :: rest => members fuel nesting read (skipSpace rest)
  | rest => refuse .expectingComma rest

/-- A member is read, and the object goes on after it. -/
theorem members_memberText {cs rest : List Char} {v : Value} (h : Readable nesting cs v)
    {fuel : Nat} (enough : 2 * cs.length ≤ fuel) (ends : Ends rest) (name : String)
    (before : Assoc Value) :
    members (fuel + 1) nesting before (memberText name cs ++ rest) =
      afterMember fuel nesting (before.put name v) rest := by
  have shape : memberText name cs ++ rest =
      '"' :: (name.toList.flatMap escape ++ '"' :: ':' :: ' ' :: (cs ++ rest)) := by
    simp [memberText]
  have colon : ∀ more, skipSpace (':' :: more) = ':' :: more := fun _ => rfl
  have blank : skipSpace (' ' :: (cs ++ rest)) = cs ++ rest := h.skipSpace_append rest
  rw [shape, members]
  simp only [text_quoted, bind, Except.bind, colon, blank, h.reads fuel rest enough ends]
  rfl

/-- Members with separators between them are read one after the other. -/
theorem members_intercalate {texts : List (List Char)} {fields : Assoc Value}
    (h : List.Forall₂ (ReadableMember nesting) texts fields) (nonempty : texts ≠ []) (level : Nat)
    (rest : List Char) (before : Assoc Value) (fuel : Nat)
    (enough : 2 * ((separator (level + 1)).intercalate texts).length < fuel) :
    members fuel nesting before
        ((separator (level + 1)).intercalate texts ++ (margin level ++ '\x7d' :: rest)) =
      .ok (.object (before.merge fields), rest) := by
  induction h generalizing before fuel with
  | nil => exact absurd rfl nonempty
  | @cons text field texts fields here later ih =>
    obtain ⟨valueText, rfl, readable⟩ := here
    have shorter : valueText.length < (memberText field.1 valueText).length := by
      simp only [memberText, List.length_cons, List.length_append]
      omega
    cases fuel with
    | zero => exact absurd enough (Nat.not_lt_zero _)
    | succ fuel =>
      cases later with
      | nil =>
        rw [List.intercalate_singleton] at enough ⊢
        have closing : skipSpace (margin level ++ '\x7d' :: rest) = '\x7d' :: rest :=
          skipSpace_margin _ _
        rw [members_memberText readable (by omega) (ends_margin level _), afterMember, closing]
        rfl
      | @cons next second others fields' hnext more =>
        rw [length_separated] at enough
        have begins : skipSpace ((separator (level + 1)).intercalate (next :: others) ++
            (margin level ++ '\x7d' :: rest)) =
            (separator (level + 1)).intercalate (next :: others) ++
              (margin level ++ '\x7d' :: rest) := by
          obtain ⟨nextText, rfl, -⟩ := hnext
          exact skipSpace_intercalate (by decide) _ others (separator (level + 1)) _
        rw [separated_append, members_memberText readable (by omega) (ends_cons.mpr (.inl rfl)),
          afterMember]
        simp only [skipSpace_comma, skipSpace_margin, begins]
        rw [ih (List.cons_ne_nil _ _) (before.put field.1 field.2) fuel (by omega)]
        rfl

/-! ### Values -/

/-- A value that holds no others can be read in front of what may follow it. -/
theorem readable_of_scalar {cs : List Char} {v : Value} (h : scalar cs = .ok (v, []))
    (nesting : Nat) : Readable nesting cs v := by
  cases cs with
  | nil => cases h
  | cons c cs =>
    have plain : c ∉ marks := by
      intro mark
      rw [scalar_mark mark] at h
      cases h
    constructor
    · refine ⟨c, cs, rfl, ⟨?_, ?_⟩, ?_⟩
      · rintro rfl
        exact plain (by decide)
      · rintro rfl
        exact plain (by decide)
      · exact not_isSpace_of_not_mark plain
    · intro fuel rest enough ends
      cases fuel with
      | zero => exact absurd enough (by simp)
      | succ fuel =>
        rw [List.cons_append, value_of_not_mark plain, ← List.cons_append, scalar_append ends h]

/-- A text in quotes can be read in front of anything. -/
theorem readable_quoted (s : String) (nesting : Nat) :
    Readable nesting (quoted s).toList (.text s) := by
  have shape : (quoted s).toList = '"' :: (s.toList.flatMap escape ++ ['"']) := by
    simp [quoted]
  rw [shape]
  constructor
  · exact ⟨_, _, rfl, by decide, by decide⟩
  · intro fuel rest enough ends
    cases fuel with
    | zero => exact absurd enough (by simp)
    | succ fuel =>
      rw [List.cons_append, List.append_assoc, value, List.singleton_append, text_quoted]
      rfl

/-- The text of something that is laid out over lines. -/
theorem toList_layOut (opening closing : String) (level : Nat) {items : List String}
    (nonempty : items ≠ []) :
    (layOut opening closing level items).toList =
      opening.toList ++ (margin (level + 1) ++
        ((separator (level + 1)).intercalate (items.map String.toList) ++
          (margin level ++ closing.toList))) := by
  have lines : items.isEmpty = false := List.isEmpty_eq_false_iff.mpr nonempty
  rw [layOut, lines]
  simp only [Bool.false_eq_true, if_false, String.toList_append, String.toList_intercalate,
    toList_newLine, List.append_assoc]
  rfl

/-- A row of texts, laid out, begins as its first text does. -/
theorem skipSpace_layOut {c : Char} (h : isSpace c = false) (level : Nat) (cs : List Char)
    (texts : List (List Char)) (rest : List Char) :
    ∃ more, skipSpace (margin level ++
        ((separator level).intercalate ((c :: cs) :: texts) ++ rest)) = c :: more ∧
      (separator level).intercalate ((c :: cs) :: texts) ++ rest = c :: more := by
  rw [skipSpace_margin, skipSpace_intercalate h]
  cases texts with
  | nil => exact ⟨cs ++ rest, by simp⟩
  | cons text texts =>
    rw [List.intercalate_cons_cons]
    exact ⟨_, rfl, rfl⟩

/-- A bracket begins a list, where there is still room for one. -/
theorem value_list {c : Char} (h : c ≠ ']') {cs rest : List Char}
    (begins : skipSpace rest = c :: cs) (fuel : Nat) :
    value (fuel + 1) (nesting + 1) ('[' :: rest) = elements fuel nesting [] (c :: cs) := by
  rw [value, begins]
  split
  · next closing => exact absurd (List.cons.inj closing).1 h
  · rfl

/-- A brace begins an object, where there is still room for one. -/
theorem value_object {c : Char} (h : c ≠ '\x7d') {cs rest : List Char}
    (begins : skipSpace rest = c :: cs) (fuel : Nat) :
    value (fuel + 1) (nesting + 1) ('\x7b' :: rest) = members fuel nesting [] (c :: cs) := by
  rw [value, begins]
  split
  · next closing => exact absurd (List.cons.inj closing).1 h
  · rfl

/-- Opening brackets are read up to the first one that is too many. -/
theorem value_brackets (nesting : Nat) {fuel : Nat} (enough : 2 * nesting < fuel) :
    value fuel nesting (List.replicate (nesting + 1) '[') =
      refuse (.tooDeep "array") ['['] := by
  induction nesting generalizing fuel with
  | zero =>
    cases fuel with
    | zero => exact absurd enough (Nat.lt_irrefl _)
    | succ fuel => rfl
  | succ nesting ih =>
    obtain ⟨fuel, rfl⟩ := Nat.exists_eq_add_of_le' (Nat.le_of_lt (show 2 < fuel by omega))
    rw [List.replicate_succ, value_list (by decide : '[' ≠ ']') rfl, ← List.replicate_succ,
      elements, ih (by omega)]
    rfl

/-- However deeply brackets may nest, there is a text in which they nest too deeply. -/
theorem read_brackets (nesting : Nat) : ∃ before,
    read nesting (List.replicate (nesting + 1) '[') = .error ⟨.tooDeep "array", before⟩ := by
  have refused : whole nesting (List.replicate (nesting + 1) '[') =
      refuse (.tooDeep "array") ['['] := by
    rw [whole, List.length_replicate, List.replicate_succ, skipSpace_of_not_isSpace rfl,
      ← List.replicate_succ, value_brackets nesting (by omega)]
    rfl
  have unmarked : (List.replicate (nesting + 1) '[').head? ≠ some '\ufeff' := by
    simp [List.replicate_succ]
  rw [read, if_neg unmarked, refused]
  exact ⟨_, rfl⟩

section LaidOut

variable {opening closing : String} {o e : Char} {v : Value}
  (hopening : opening.toList = [o]) (hclosing : closing.toList = [e])
  (shown : (o ≠ ']' ∧ o ≠ '\ufeff') ∧ isSpace o = false) (level : Nat)
include hopening hclosing shown

/-- Two marks with nothing in between are read as the value that the first one announces. -/
theorem readable_closed
    (closes : ∀ fuel rest, value (fuel + 1) nesting (o :: e :: rest) = .ok (v, rest)) :
    Readable nesting (layOut opening closing level []).toList v := by
  have shape : (layOut opening closing level []).toList = [o, e] := by
    simp [layOut, hopening, hclosing]
  rw [shape]
  refine ⟨⟨o, [e], rfl, shown⟩, ?_⟩
  intro fuel rest enough ends
  cases fuel with
  | zero => exact absurd enough (by simp)
  | succ fuel => exact closes fuel rest

/-- Texts that are laid out between two marks are read as the value that comes of reading the
row. -/
theorem readable_row {item : String} {c : Char} {cs : List Char} (first : item.toList = c :: cs)
    (visible : isSpace c = false) (others : List String) {row : Nat → Reader Value}
    (enters : ∀ fuel rest more, skipSpace rest = c :: more →
      value (fuel + 1) nesting (o :: rest) = row fuel (c :: more))
    (reads : ∀ fuel rest,
      2 * ((separator (level + 1)).intercalate ((item :: others).map String.toList)).length <
        fuel →
      row fuel ((separator (level + 1)).intercalate ((item :: others).map String.toList) ++
        (margin level ++ e :: rest)) = .ok (v, rest)) :
    Readable nesting (layOut opening closing level (item :: others)).toList v := by
  rw [toList_layOut opening closing level (List.cons_ne_nil item others), hopening, hclosing]
  refine ⟨⟨o, _, rfl, shown⟩, ?_⟩
  intro fuel rest enough ends
  simp only [List.length_append, List.length_cons, List.length_nil] at enough
  cases fuel with
  | zero => exact absurd enough (by omega)
  | succ fuel =>
    have read := reads fuel rest (by omega)
    rw [List.map_cons, first] at read ⊢
    obtain ⟨more, begins, whole⟩ := skipSpace_layOut visible (level + 1) cs
      (others.map String.toList) (margin level ++ e :: rest)
    simp only [List.append_assoc, List.cons_append, List.nil_append]
    rw [enters fuel _ more begins, ← whole, read]

end LaidOut

/-- Elements that can be read make a list that can be read, one level deeper. -/
theorem readable_list {xs : List Value} {items : List String}
    (h : List.Forall₂ (Readable nesting) (items.map String.toList) xs) (level : Nat) :
    Readable (nesting + 1) (layOut "[" "]" level items).toList (.list xs) := by
  cases items with
  | nil =>
    cases h
    exact readable_closed (o := '[') (e := ']') (by simp) (by simp) (by decide) level
      fun _ _ => rfl
  | cons item others =>
    obtain ⟨x, -, here, -, -⟩ := List.forall₂_cons_left_iff.mp h
    obtain ⟨c, cs, first, apart, visible⟩ := here.begins
    exact readable_row (o := '[') (e := ']') (by simp) (by simp) (by decide) level first visible
      others (fun fuel _ _ begins => value_list apart.1 begins fuel)
      (fun fuel rest => elements_intercalate h (List.cons_ne_nil _ _) level rest [] fuel)

/-- Members that can be read make an object that can be read, one level deeper, if no name comes
twice. -/
theorem readable_object {fields : Assoc Value} {items : List String}
    (h : List.Forall₂ (ReadableMember nesting) (items.map String.toList) fields)
    (distinct : fields.keys.Nodup) (level : Nat) :
    Readable (nesting + 1) (layOut "\x7b" "\x7d" level items).toList (.object fields) := by
  cases items with
  | nil =>
    cases h
    exact readable_closed (o := '\x7b') (e := '\x7d') (by simp) (by simp) (by decide) level
      fun _ _ => rfl
  | cons item others =>
    have whole : Assoc.merge [] fields = fields :=
      Assoc.merge_of_apart distinct fun _ _ => List.not_mem_nil
    obtain ⟨field, -, ⟨valueText, first, -⟩, -, -⟩ := List.forall₂_cons_left_iff.mp h
    refine readable_row (o := '\x7b') (e := '\x7d') (by simp) (by simp) (by decide) level first
      (by decide) others (fun fuel _ _ begins => value_object (by decide) begins fuel)
      (fun fuel rest enough => ?_)
    rw [members_intercalate h (List.cons_ne_nil _ _) level rest [] fuel enough, whole]

/-! ### Whole values -/

/-- What is printed of the value is read as the value where brackets may nest so deeply. -/
def ReadsBack (nesting : Nat) (v : Value) : Prop :=
  read nesting (print v).toList = .ok v

mutual

def numbers : Value → List Value
  | .int n => [.int n]
  | .float x => [.float x]
  | .list xs => numbersOfElements xs
  | .object fields => numbersOfFields fields
  | _ => []

def numbersOfElements : List Value → List Value
  | [] => []
  | x :: xs => numbers x ++ numbersOfElements xs

def numbersOfFields : List (String × Value) → List Value
  | [] => []
  | (_, v) :: rest => numbers v ++ numbersOfFields rest

end

theorem mem_numbersOfFields {fields : List (String × Value)} {number : Value} :
    number ∈ numbersOfFields fields ↔ ∃ field ∈ fields, number ∈ numbers field.2 := by
  induction fields with
  | nil => simp [numbersOfFields]
  | cons field rest ih => simp [numbersOfFields, ih]

mutual

/-- What is printed of a value of JSON can be read, if there is room for its brackets and its
numbers read back. -/
theorem readable_print (level nesting : Nat) : ∀ v : Value, v.isJson = true →
    v.nesting ≤ nesting → (∀ number ∈ numbers v, ReadsBack 0 number) →
      Readable nesting (printAt level v).toList v
  | .null, _, _, _ => by
    rw [printAt]
    exact readable_of_scalar (by rfl) nesting
  | .bool true, _, _, _ => by
    rw [printAt]
    exact readable_of_scalar (by rfl) nesting
  | .bool false, _, _, _ => by
    rw [printAt]
    exact readable_of_scalar (by rfl) nesting
  | .int n, _, _, h => by
    have back := h (.int n) List.mem_cons_self
    rw [ReadsBack, print, printAt] at back
    rw [printAt]
    exact readable_of_scalar (scalar_of_read (fun _ mark => mark_not_mem_intText mark n) back) _
  | .float x, _, _, h => by
    have back := h (.float x) List.mem_cons_self
    rw [ReadsBack, print, printAt] at back
    rw [printAt]
    exact readable_of_scalar (scalar_of_read (fun _ mark => mark_not_mem_floatText mark x) back) _
  | .text s, _, _, _ => by
    rw [printAt]
    exact readable_quoted s nesting
  | .list xs, json, within, h => by
    obtain ⟨nesting, rfl⟩ := Nat.exists_eq_add_of_lt (Nat.zero_lt_of_lt within)
    have inside := Nat.le_of_succ_le_succ within
    rw [printAt]
    exact readable_list (readable_printElements (level + 1) _ xs json inside h) level
  | .object fields, json, within, h => by
    rw [Value.isJson, Bool.and_eq_true, decide_eq_true_eq] at json
    obtain ⟨nesting, rfl⟩ := Nat.exists_eq_add_of_lt (Nat.zero_lt_of_lt within)
    have inside := Nat.le_of_succ_le_succ within
    rw [printAt]
    exact readable_object (readable_printMembers (level + 1) _ fields json.2 inside h) json.1 level

theorem readable_printElements (level nesting : Nat) : ∀ xs : List Value,
    Value.areJson xs = true → Value.nestingOfElements xs ≤ nesting →
    (∀ number ∈ numbersOfElements xs, ReadsBack 0 number) →
      List.Forall₂ (Readable nesting) ((printElements level xs).map String.toList) xs
  | [], _, _, _ => .nil
  | x :: xs, json, within, h => by
    rw [Value.areJson, Bool.and_eq_true] at json
    rw [Value.nestingOfElements, Nat.max_le] at within
    obtain ⟨here, later⟩ := List.forall_mem_append.mp h
    exact .cons (readable_print level nesting x json.1 within.1 here)
      (readable_printElements level nesting xs json.2 within.2 later)

theorem readable_printMembers (level nesting : Nat) : ∀ fields : List (String × Value),
    Value.fieldsAreJson fields = true → Value.nestingOfFields fields ≤ nesting →
    (∀ number ∈ numbersOfFields fields, ReadsBack 0 number) →
      List.Forall₂ (ReadableMember nesting) ((printMembers level fields).map String.toList) fields
  | [], _, _, _ => .nil
  | (name, v) :: rest, json, within, h => by
    rw [Value.fieldsAreJson, Bool.and_eq_true] at json
    rw [Value.nestingOfFields, Nat.max_le] at within
    obtain ⟨here, later⟩ := List.forall_mem_append.mp h
    refine .cons ⟨_, ?_, readable_print level nesting v json.1 within.1 here⟩
      (readable_printMembers level nesting rest json.2 within.2 later)
    simp [quoted, memberText]

end

/-- Every value that JSON can hold reads back, if it nests no deeper than it may and the numbers in
it do. -/
theorem readsBack_of_numbers {v : Value} (json : v.isJson = true) (within : v.nesting ≤ nesting)
    (h : ∀ number ∈ numbers v, ReadsBack 0 number) : ReadsBack nesting v := by
  have readable := readable_print 0 nesting v json within h
  rw [← print] at readable
  rw [ReadsBack]
  generalize (print v).toList = cs at readable ⊢
  have visible : skipSpace cs = cs := by
    have alone := readable.skipSpace_append []
    rwa [List.append_nil] at alone
  have found : value (2 * cs.length + 1) nesting cs = .ok (v, []) := by
    have alone := readable.reads (2 * cs.length + 1) [] (Nat.le_succ _) ends_nil
    rwa [List.append_nil] at alone
  have made : whole nesting cs = .ok v := by
    rw [whole, visible, found]
    rfl
  obtain ⟨c, more, rfl, apart, -⟩ := readable.begins
  rw [read, if_neg (by simpa using apart.2), made]
  rfl

end CodeBehind.Json
