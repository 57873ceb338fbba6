import CodeBehind.Template.Reader
import Mathlib.Data.List.TakeDrop
import Mathlib.Tactic.Common

/-!
Reading the placeholders of a template.

A source is scanned piece by piece (`Scans`), each piece with its token in front of those of the
rest. An operand that ends a row is handed down through all levels of expressions as it is
(`expression_of_signed`), so a name alone and a method that is called with a number are read as what
they are (`placeholder_name`, `placeholder_call`).
-/

namespace CodeBehind

/-! ### Names -/

namespace Text

def blanks : List Nat :=
  List.range' 0x09 5 ++ List.range' 0x1C 5 ++ [0x85, 0xA0, 0x1680] ++ List.range' 0x2000 11 ++
    [0x2028, 0x2029, 0x202F, 0x205F, 0x3000]

theorem isBlank_eq_false_of_isWordChar {c : Char} (h : isWordChar c = true) :
    isBlank c = false := by
  have checked : ∀ n ∈ blanks, isWordChar (Char.ofNat n) = false := by decide +kernel
  by_contra blank
  have listed : c.toNat ∈ blanks := by
    simp only [isBlank, Bool.not_eq_false, Bool.or_eq_true, Bool.and_eq_true,
      decide_eq_true_eq, beq_iff_eq] at blank
    simp only [blanks, List.mem_append, List.mem_range'_1, List.mem_cons, List.not_mem_nil,
      or_false]
    omega
  have noLetter := checked _ listed
  rw [Char.ofNat_toNat, h] at noLetter
  cases noLetter

/-- Word characters are taken up to the first other one. -/
theorem span_isWordChar_append {word rest : List Char}
    (letters : ∀ c ∈ word, isWordChar c = true)
    (ends : ∀ c, rest.head? = some c → isWordChar c = false) :
    (word ++ rest).span isWordChar = (word, rest) := by
  rw [List.span_eq_takeWhile_dropWhile, List.takeWhile_append_of_pos letters,
    List.dropWhile_append_of_pos letters]
  cases rest with
  | nil => simp
  | cons c rest => simp [ends c rfl]

/-- A name begins with no digit and is made of word characters. -/
theorem isIdentifier_cons {c : Char} {cs : List Char} (h : isIdentifier (c :: cs) = true) :
    isDecimalDigit c = false ∧ ∀ d ∈ c :: cs, isWordChar d = true := by
  simp only [isIdentifier, List.head?_cons, Option.any_some, Bool.and_eq_true,
    Bool.not_eq_true', List.all_eq_true] at h
  obtain ⟨⟨-, noDigit⟩, all⟩ := h
  exact ⟨noDigit, fun d hd => (all d hd).1⟩

theorem return_not_mem_of_isIdentifier {cs : List Char} (h : isIdentifier cs = true) :
    '\r' ∉ cs := by
  cases cs with
  | nil => exact List.not_mem_nil
  | cons c cs =>
    intro broken
    have visible := isBlank_eq_false_of_isWordChar ((isIdentifier_cons h).2 _ broken)
    exact absurd visible (by decide)

end Text

namespace Template

open Thing (Operator)

/-! ### Scanning -/

theorem afterClosing?_of_isWordChar {c : Char} (h : Text.isWordChar c = true)
    (rest : List Char) : afterClosing? (c :: rest) = none := by
  have noDash : c ≠ '-' := by
    rintro rfl
    exact absurd h (by decide +kernel)
  have noBrace : c ≠ '\x7d' := by
    rintro rfl
    exact absurd h (by decide +kernel)
  simp [afterClosing?, noDash, noBrace]

/-- A text without an opening brace ends where a placeholder begins. -/
theorem plainText_append {text : List Char} (h : '\x7b' ∉ text) (rest : List Char) :
    plainText (text ++ '\x7b' :: '\x7b' :: rest) = (text, '\x7b' :: '\x7b' :: rest) := by
  induction text with
  | nil => simp [plainText]
  | cons c text ih =>
    obtain ⟨hc, htext⟩ := not_or.mp (mt List.mem_cons.mpr h)
    cases text with
    | nil => simp [plainText, Ne.symm hc]
    | cons d text =>
      have later := ih htext
      rw [List.cons_append] at later
      simp [plainText, Ne.symm hc, later]

/-- In this mode the text is scanned as these tokens, whatever the number of steps, if there are
more of them than characters. -/
def Scans (mode : Mode) (cs : List Char) (ts : Tokens) : Prop :=
  ∀ size steps, cs.length < steps → scan size steps mode cs = ts

section Scan

variable {rest : List Char} {ts : Tokens}

/-- A step that reads a character at least puts its tokens in front of those of the rest. -/
theorem Scans.step {mode mode' : Mode} {cs : List Char} (h : Scans mode' rest ts)
    (put : Tokens → Tokens) (shorter : rest.length < cs.length)
    (step : ∀ size steps, scan size (steps + 1) mode cs = put (scan size steps mode' rest)) :
    Scans mode cs (put ts) := by
  intro size steps enough
  obtain ⟨steps, rfl⟩ := Nat.exists_eq_succ_of_ne_zero (by omega : steps ≠ 0)
  rw [step, h size steps (by omega)]

theorem scans_end : Scans .text [] .done := by
  intro size steps enough
  obtain ⟨steps, rfl⟩ := Nat.exists_eq_succ_of_ne_zero (by omega : steps ≠ 0)
  rw [scan.eq_def]
  simp [plainText, Tokens.ofText]

/-- A text is scanned up to the placeholder after it. -/
theorem Scans.text {text : List Char} (nonempty : text ≠ []) (plain : '\x7b' ∉ text)
    (h : Scans (.code false [] false) (' ' :: rest) ts) :
    Scans .text (text ++ '\x7b' :: '\x7b' :: ' ' :: rest)
      (.next (.text (String.ofList text)) (.next .opening ts)) := by
  refine h.step (fun ts => .next (.text (String.ofList text)) (.next .opening ts)) ?_ ?_
  · simp only [List.length_append, List.length_cons]
    omega
  · intro size steps
    rw [scan.eq_def]
    simp [plainText_append plain, Tokens.ofText, nonempty]

/-- A blank inside a placeholder is passed over. -/
theorem Scans.blank {due : List Char} (h : Scans (.code false due false) rest ts)
    (afterPoint : Bool) : Scans (.code false due afterPoint) (' ' :: rest) ts := by
  have blank : Text.isBlank ' ' = true := by decide
  refine h.step id (Nat.lt_succ_self _) fun size steps => ?_
  rw [scan.eq_def]
  cases due <;> simp [blank, afterClosing?]

/-- A placeholder ends with its mark. -/
theorem Scans.closing (h : Scans .text rest ts) (afterPoint : Bool) :
    Scans (.code false [] afterPoint) ('\x7d' :: '\x7d' :: rest) (.next .closing ts) := by
  refine h.step (.next .closing) (Nat.lt_add_of_pos_right Nat.two_pos) fun size steps => ?_
  rw [scan.eq_def]
  simp [afterClosing?]

/-- A name is scanned up to its end. -/
theorem Scans.word {word : List Char} (name : Text.isIdentifier word = true)
    (ends : ∀ c, rest.head? = some c → Text.isWordChar c = false) {due : List Char}
    (h : Scans (.code false due false) rest ts) (afterPoint : Bool) :
    Scans (.code false due afterPoint) (word ++ rest)
      (.next (.word (String.ofList word)) ts) := by
  cases word with
  | nil => cases name
  | cons c cs =>
    obtain ⟨noDigit, letters⟩ := Text.isIdentifier_cons name
    have letter := letters c (.head _)
    have visible := Text.isBlank_eq_false_of_isWordChar letter
    have inside := afterClosing?_of_isWordChar letter (cs ++ rest)
    have span : (c :: (cs ++ rest)).span Text.isWordChar = (c :: cs, rest) :=
      Text.span_isWordChar_append letters ends
    refine h.step (.next (.word (String.ofList (c :: cs)))) ?_ fun size steps => ?_
    · simp only [List.length_append, List.length_cons]
      omega
    · rw [scan.eq_def]
      simp only [List.cons_append, inside, ite_self, visible, noDigit, letter, span, name,
        Bool.false_eq_true, if_false, if_true]

/-- A point or a bracket is scanned as a mark of its own. -/
theorem Scans.mark {c : Char} {m : String} (single : (c, m) ∈ [('.', "."), ('(', "("), (')', ")")])
    {due due' : List Char} (brackets : dueAfter due m = .ok due')
    (h : Scans (.code false due' (m == ".")) rest ts) (afterPoint : Bool) :
    Scans (.code false due afterPoint) (c :: rest) (.next (.mark m) ts) := by
  have facts : ∀ p ∈ [('.', "."), ('(', "("), (')', ")")],
      Text.isBlank p.1 = false ∧ Text.isDecimalDigit p.1 = false ∧
        Text.isWordChar p.1 = false ∧ ¬ (p.1 = '"' ∨ p.1 = '\'') ∧ p.1 ≠ '-' ∧ p.1 ≠ '\x7d' := by
    decide +kernel
  obtain ⟨visible, noDigit, noLetter, noQuote, noDash, noBrace⟩ := facts _ single
  have inside : afterClosing? (c :: rest) = none := by
    simp [afterClosing?, noDash, noBrace]
  have mark : mark? (c :: rest) = some (m, rest) := by
    simp only [List.mem_cons, List.not_mem_nil, or_false] at single
    rcases single with ⟨⟨⟩⟩ | ⟨⟨⟩⟩ | ⟨⟨⟩⟩ <;> rfl
  refine h.step (.next (.mark m)) (Nat.lt_succ_self _) fun size steps => ?_
  rw [scan.eq_def]
  simp only [inside, ite_self, visible, noDigit, noLetter, if_neg noQuote, mark, brackets,
    Bool.false_eq_true, if_false]

/-- A single digit in front of a bracket is scanned as an integer. -/
theorem Scans.two {due : List Char} (h : Scans (.code false due false) (')' :: rest) ts) :
    Scans (.code false due false) ('2' :: ')' :: rest) (.next (.integer 2) ts) := by
  have visible : Text.isBlank '2' = false := by decide
  have digit : Text.isDecimalDigit '2' = true := by decide
  have noDigit : Text.isDecimalDigit ')' = false := by decide
  have digits_eq : digits ('2' :: ')' :: rest) = (['2'], ')' :: rest) := by
    simp [digits, digit, noDigit]
  have noFloat : float? ('2' :: ')' :: rest) = none := by
    simp [float?, digits_eq, fraction?, exponent?]
  have integer : integer? ('2' :: ')' :: rest) = some (.integer 2, ')' :: rest) := by
    have value : Text.ofDigits ['2'] = 2 := by decide
    simp [integer?, digits_eq, value]
  have inside : afterClosing? ('2' :: ')' :: rest) = none := by
    simp [afterClosing?]
  refine h.step (.next (.integer 2)) (Nat.lt_succ_self _) fun size steps => ?_
  rw [scan.eq_def]
  simp only [inside, ite_self, visible, digit, noFloat, integer, Option.orElse,
    Bool.false_eq_true, if_false, if_true]

end Scan

/-! ### Levels of expressions -/

section Levels

variable {steps : Nat} {e : Expression} {ts rest : Tokens}

/-- A row of expressions ends with a closing mark or a parenthesis. -/
theorem endsRow_cases (h : endsRow ts = true) :
    (∃ rest, ts = .next .closing rest) ∨ (∃ rest, ts = .next .statementClosing rest) ∨
      ∃ rest, ts = .next (.mark ")") rest := by
  unfold endsRow at h
  split at h
  · exact .inl ⟨_, rfl⟩
  · exact .inr (.inl ⟨_, rfl⟩)
  · exact .inr (.inr ⟨_, rfl⟩)
  · cases h

/-! What ends a row ends an expression on every level. -/

section Ends

variable (ends : endsRow rest = true)
include ends

theorem operationRest_of_endsRow (level : List Operator) (higher : List (List Operator)) :
    operationRest steps level higher e rest = .ok (e, rest) := by
  have noOperator : level.find? (·.mark == ")") = none := by
    refine List.find?_eq_none.mpr fun op _ => ?_
    cases op <;> decide
  cases steps with
  | zero => rfl
  | succ steps =>
    rw [operationRest.eq_def]
    obtain ⟨rest, rfl⟩ | ⟨rest, rfl⟩ | ⟨rest, rfl⟩ := endsRow_cases ends
    · rfl
    · rfl
    · simp only [noOperator]

theorem compared_of_endsRow : compared steps rest = .ok ([], rest) := by
  have noComparison : comparisons.find? (·.mark == ")") = none := by decide
  cases steps with
  | zero => rfl
  | succ steps =>
    rw [compared.eq_def]
    obtain ⟨rest, rfl⟩ | ⟨rest, rfl⟩ | ⟨rest, rfl⟩ := endsRow_cases ends
    · rfl
    · rfl
    · simp only [noComparison]

theorem conjunctionRest_of_endsRow : conjunctionRest steps e rest = .ok (e, rest) := by
  cases steps with
  | zero => rfl
  | succ steps => obtain ⟨rest, rfl⟩ | ⟨rest, rfl⟩ | ⟨rest, rfl⟩ := endsRow_cases ends <;> rfl

theorem disjunctionRest_of_endsRow : disjunctionRest steps e rest = .ok (e, rest) := by
  cases steps with
  | zero => rfl
  | succ steps => obtain ⟨rest, rfl⟩ | ⟨rest, rfl⟩ | ⟨rest, rfl⟩ := endsRow_cases ends <;> rfl

/-- Where a row ends, nothing goes on an expression. -/
theorem continued_of_endsRow : continued steps e rest = .ok (e, rest) := by
  cases steps with
  | zero => rfl
  | succ steps => obtain ⟨rest, rfl⟩ | ⟨rest, rfl⟩ | ⟨rest, rfl⟩ := endsRow_cases ends <;> rfl

end Ends

section Operand

variable (h : signed steps ts = .ok (e, rest)) (ends : endsRow rest = true)
include h ends

/-- An expression without operators comes down through the levels of operators. -/
theorem operation_of_signed (levels : List (List Operator)) :
    operation (steps + levels.length + 1) levels ts = .ok (e, rest) := by
  induction levels with
  | nil => exact h
  | cons level higher ih =>
    rw [operation.eq_def]
    simp only [List.length_cons, ← Nat.add_assoc, ih]
    exact operationRest_of_endsRow ends level higher

/-- An expression without a negation comes down through comparisons and operators. -/
theorem negated_of_signed (affirmed : ∀ rest, ts ≠ .next (.word "not") rest) :
    negated (steps + 5) ts = .ok (e, rest) := by
  have operand : operation (steps + 4) operatorLevels ts = .ok (e, rest) :=
    operation_of_signed h ends operatorLevels
  rw [negated.eq_3 _ _ affirmed, operand]
  change (compared (steps + 4) rest >>= _) = _
  rw [compared_of_endsRow ends]
  rfl

/-- An operand that ends a row is an expression by itself. -/
theorem expression_of_signed (affirmed : ∀ rest, ts ≠ .next (.word "not") rest) :
    expression (steps + 7) ts = .ok (e, rest) := by
  have conjunct : negated (steps + 5) ts = .ok (e, rest) := negated_of_signed h ends affirmed
  have disjunct : conjunction (steps + 6) ts = .ok (e, rest) := by
    rw [conjunction.eq_def]
    simp only [conjunct]
    exact conjunctionRest_of_endsRow ends
  rw [expression.eq_def]
  simp only [disjunct]
  exact disjunctionRest_of_endsRow ends

end Operand

theorem signed_integer (ends : endsRow rest = true) (n : Nat) :
    signed (steps + 2) (.next (.integer n) rest) = .ok (.literal (.int n), rest) := by
  change continued (steps + 1) (.literal (.int n)) rest = _
  exact continued_of_endsRow ends

theorem signed_name {name : String} (h : constant? name = none) :
    signed (steps + 2) (.next (.word name) rest) = continued (steps + 1) (.name name) rest := by
  change continued (steps + 1) ((constant? name).elim (.name name) .literal) rest = _
  rw [h]
  rfl

/-- A number in brackets is the one argument of a call. -/
theorem arguments_integer (n : Nat) :
    arguments (steps + 11) (.next (.integer n) (.next (.mark ")") rest)) =
      .ok (([.literal (.int n)], []), rest) := by
  have operand : expression (steps + 9) (.next (.integer n) (.next (.mark ")") rest)) =
      .ok (.literal (.int n), .next (.mark ")") rest) :=
    expression_of_signed (signed_integer rfl n) rfl (fun _ h => by cases h)
  rw [arguments.eq_def]
  change (argument (steps + 10) _ >>= _) = _
  have placed : argument (steps + 10) (.next (.integer n) (.next (.mark ")") rest)) =
      .ok (([.literal (.int n)], []), .next (.mark ")") rest) := by
    change (expression (steps + 9) _ >>= _) = _
    rw [operand]
    rfl
  rw [placed]
  rfl

/-! ### Placeholders -/

/-- A signed expression alone is that of its placeholder. -/
theorem placeholder_of_signed (h : signed steps ts = .ok (e, .next .closing rest))
    (affirmed : ∀ rest, ts ≠ .next (.word "not") rest) (begins : endsRow ts = false) :
    placeholder (steps + 8) ts = .ok (e, rest) := by
  have row_eq : row (steps + 8) ts = .ok (([e], false), .next .closing rest) := by
    rw [row.eq_def]
    simp only [begins, expression_of_signed h rfl affirmed]
    rfl
  rw [placeholder, row_eq]
  rfl

section Name

variable {name : String} (free : constant? name = none) (affirmed : name ≠ "not")
include free affirmed

/-- A name alone is read as that name. -/
theorem placeholder_name :
    placeholder (steps + 10) (.next (.word name) (.next .closing rest)) =
      .ok (.name name, rest) := by
  refine placeholder_of_signed ?_ ?_ rfl
  · rw [signed_name free]
    exact continued_of_endsRow rfl
  · rintro _ ⟨⟩
    exact affirmed rfl

/-- A method that is called with a number is read as that call. -/
theorem placeholder_call (method : String) (n : Nat) :
    placeholder (steps + 22) (.next (.word name) <| .next (.mark ".") <| .next (.word method) <|
        .next (.mark "(") <| .next (.integer n) <| .next (.mark ")") <| .next .closing rest) =
      .ok (.call (.member (.name name) method) [.literal (.int n)] [], rest) := by
  have called : continued (steps + 12) (.member (.name name) method)
      (.next (.mark "(") <| .next (.integer n) <| .next (.mark ")") <| .next .closing rest) =
        .ok (.call (.member (.name name) method) [.literal (.int n)] [], .next .closing rest) := by
    change (arguments (steps + 11) _ >>= _) = _
    rw [arguments_integer]
    exact continued_of_endsRow rfl
  refine placeholder_of_signed ?_ ?_ rfl
  · rw [signed_name free]
    exact called
  · rintro _ ⟨⟩
    exact affirmed rfl

end Name

end Levels

end Template

end CodeBehind
