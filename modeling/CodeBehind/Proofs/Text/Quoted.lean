import CodeBehind.Text.Quoted
import Mathlib.Algebra.Ring.Nat

/-!
Reading a literal gives the quoted text back.

Every step of reading takes what one character was written as (`unquoteStep?_quoteChar`), so a
written literal is one literal from end to end (`unquote?_quoteWith`), whatever characters count as
printable, and it stands on one line (`not_mem_quoteWith`).
-/

namespace CodeBehind.Text

/-! ### Numbers -/

theorem hexValue?_digitChar {d : Nat} (h : d < 16) : hexValue? (Nat.digitChar d) = some d := by
  have all : ∀ d < 16, hexValue? (Nat.digitChar d) = some d := by decide
  exact all d h

/-- The digits of a number are read before whatever follows them. -/
theorem readHex?_hexDigits (acc width n more : Nat) (rest : List Char) :
    readHex? acc (width + more) (hexDigits width n ++ rest) =
      readHex? (acc * 16 ^ width + n % 16 ^ width) more rest := by
  induction width generalizing n more rest with
  | zero => simp [hexDigits, Nat.mod_one]
  | succ width ih =>
    have value : 16 * (acc * 16 ^ width + n / 16 % 16 ^ width) + n % 16 =
        acc * 16 ^ (width + 1) + n % 16 ^ (width + 1) := by
      rw [Nat.pow_succ', Nat.mod_mul, Nat.mul_left_comm acc]
      omega
    rw [hexDigits, List.append_assoc, Nat.succ_add_eq_add_succ, ih, List.singleton_append, readHex?,
      hexValue?_digitChar (Nat.mod_lt n (by decide)), ← value]

/-- A number that fits into the digits is read back. -/
theorem readHex?_of_lt (width : Nat) {n : Nat} (h : n < 16 ^ width) (rest : List Char) :
    readHex? 0 width (hexDigits width n ++ rest) = some (n, rest) := by
  have read := readHex?_hexDigits 0 width n 0 rest
  rwa [Nat.zero_mul, Nat.zero_add, Nat.mod_eq_of_lt h] at read

theorem charOfCode?_toNat (c : Char) : charOfCode? c.toNat = some c := by
  have valid : c.toNat.isValidChar := c.valid
  rw [charOfCode?, if_pos valid, Char.ofNat_toNat]

theorem toNat_lt (c : Char) : c.toNat < 16 ^ 8 := by
  have valid : c.toNat.isValidChar := c.valid
  unfold Nat.isValidChar at valid
  omega

/-! ### One character -/

section Step

variable {printable : Char → Bool} {mark : Char}

/-- A character that stands for itself is read as itself. -/
theorem unquoteStep?_cons {c : Char} (notMark : c ≠ mark) (notEscape : c ≠ '\\')
    (notFeed : c ≠ '\n') (notReturn : c ≠ '\r') (rest : List Char) :
    unquoteStep? mark (c :: rest) = some (c, rest) := by
  unfold unquoteStep?
  split <;> simp_all

/-- One step reads back what one character was quoted as. -/
theorem unquoteStep?_quoteChar (hmark : mark = '\'' ∨ mark = '"') (c : Char) (rest : List Char) :
    unquoteStep? mark (quoteChar printable mark c ++ rest) = some (c, rest) := by
  have code := charOfCode?_toNat c
  unfold quoteChar
  split
  · next special => rcases hmark with rfl | rfl <;> rcases special with rfl | rfl <;> rfl
  · next ordinary =>
    obtain ⟨notMark, notEscape⟩ := not_or.mp ordinary
    split_ifs with tab feed carriage shown small medium
    · subst tab
      rfl
    · subst feed
      rfl
    · subst carriage
      rfl
    · exact unquoteStep?_cons notMark notEscape feed carriage rest
    · simp [unquoteStep?, readHex?_of_lt 2 small rest, code]
    · simp [unquoteStep?, readHex?_of_lt 4 medium rest, code]
    · simp [unquoteStep?, readHex?_of_lt 8 (toNat_lt c) rest, code]

end Step

theorem quoteChar_ne_nil (printable : Char → Bool) (mark c : Char) :
    quoteChar printable mark c ≠ [] := by
  unfold quoteChar
  split_ifs <;> simp

/-- Quoting makes no text shorter, so there is fuel enough. -/
theorem length_le_flatMap_quoteChar (printable : Char → Bool) (mark : Char) (text : List Char) :
    text.length ≤ (text.flatMap (quoteChar printable mark)).length := by
  induction text with
  | nil => exact Nat.le_refl 0
  | cons c text ih =>
    have some_length := List.length_pos_iff.mpr (quoteChar_ne_nil printable mark c)
    rw [List.flatMap_cons, List.length_append, List.length_cons]
    omega

/-! ### The literal -/

section Literal

variable {printable : Char → Bool} {mark : Char}

/-- A body is read up to its closing quote. -/
theorem unquoteBody?_flatMap (hmark : mark = '\'' ∨ mark = '"') (text : List Char) {fuel : Nat}
    (h : text.length < fuel) :
    unquoteBody? mark fuel (text.flatMap (quoteChar printable mark) ++ [mark]) = some text := by
  induction text generalizing fuel with
  | nil =>
    obtain ⟨fuel, rfl⟩ := Nat.exists_eq_succ_of_ne_zero (Nat.ne_of_gt h)
    exact if_pos rfl
  | cons c text ih =>
    -- one step reads all that one character was written as, so the fuel outlasts the text
    obtain ⟨fuel, rfl⟩ := Nat.exists_eq_succ_of_ne_zero (Nat.ne_of_gt (Nat.zero_lt_of_lt h))
    have more : quoteChar printable mark c ++ (text.flatMap (quoteChar printable mark) ++ [mark]) ≠
        [mark] := by
      intro alone
      have length := congrArg List.length alone
      have some_length := List.length_pos_iff.mpr (quoteChar_ne_nil printable mark c)
      simp only [List.length_append, List.length_singleton] at length
      omega
    rw [List.flatMap_cons, List.append_assoc, unquoteBody?, if_neg more,
      unquoteStep?_quoteChar hmark]
    dsimp only
    rw [ih (Nat.lt_of_succ_lt_succ h)]
    rfl

theorem quoteMark_cases (text : List Char) : quoteMark text = '\'' ∨ quoteMark text = '"' := by
  unfold quoteMark
  split
  · exact .inr rfl
  · exact .inl rfl

/-- A literal that was written is one literal from end to end. -/
theorem unquote?_quoteWith (printable : Char → Bool) (text : List Char) :
    unquote? (quoteWith printable text) = some text := by
  have hmark := quoteMark_cases text
  rw [quoteWith, List.cons_append, unquote?, if_pos hmark]
  refine unquoteBody?_flatMap hmark text ?_
  rw [List.length_append]
  exact Nat.lt_succ_of_le (length_le_flatMap_quoteChar _ _ text)

end Literal

/-! ### One line -/

theorem not_mem_hexDigits {c : Char} (h : c = '\n' ∨ c = '\r') (width n : Nat) :
    c ∉ hexDigits width n := by
  have digit : ∀ d < 16, Nat.digitChar d ≠ '\n' ∧ Nat.digitChar d ≠ '\r' := by decide
  induction width generalizing n with
  | zero => exact List.not_mem_nil
  | succ width ih =>
    obtain ⟨notFeed, notReturn⟩ := digit (n % 16) (Nat.mod_lt n (by decide))
    rw [hexDigits, List.mem_append, not_or]
    constructor
    · exact ih _
    · rw [List.mem_singleton]
      rintro rfl
      rcases h with h | h
      · exact notFeed h
      · exact notReturn h

/-- No line end is left as it is between quotes. -/
theorem not_mem_quoteChar {c mark : Char} (h : c = '\n' ∨ c = '\r') (notMark : c ≠ mark)
    (printable : Char → Bool) (d : Char) : c ∉ quoteChar printable mark d := by
  have digits := fun width => not_mem_hexDigits h width d.toNat
  by_cases same : c = d
  · subst same
    rcases h with rfl | rfl <;> simp [quoteChar, notMark]
  · unfold quoteChar
    rcases h with rfl | rfl <;> split_ifs <;> simp_all

/-- No line ends inside a literal. -/
theorem not_mem_quoteWith {c : Char} (h : c = '\n' ∨ c = '\r') (printable : Char → Bool)
    (text : List Char) : c ∉ quoteWith printable text := by
  have notMark : c ≠ quoteMark text := by
    rcases quoteMark_cases text with eq | eq <;> rcases h with rfl | rfl <;> rw [eq] <;> decide
  rw [quoteWith, List.cons_append, List.mem_cons, List.mem_append, List.mem_singleton,
    List.mem_flatMap]
  rintro (eq | ⟨d, -, mem⟩ | eq)
  · exact notMark eq
  · exact not_mem_quoteChar h notMark printable d mem
  · exact notMark eq

end CodeBehind.Text
