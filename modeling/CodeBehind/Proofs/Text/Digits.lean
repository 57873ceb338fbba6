import CodeBehind.Text.Digits
import CodeBehind.Value
import Mathlib.Algebra.Ring.Nat
import Mathlib.Data.List.Basic
import Mathlib.Data.List.Induction

/-!
Integers in decimal and the numbers that digits denote.

The digits that are written are digits that are read, and denote the number they were written for
(`ofDigits_toDigits`). Digits of any script, with zeros in front or without, denote a number that
can be written with as many digits as there were (`length_repr_ofDigits_le`). The text of an integer
is made of digits, with a minus in front of them at most, so no point stands in it
(`point_not_mem_intText`), and it tells the integer (`intText_inj`).
-/

namespace CodeBehind

namespace Text

variable {c : Char} {n : Nat}

/-! ### Single digits -/

theorem digitValue?_of_isDigit (digit : c.isDigit = true) :
    digitValue? c = some (c.toNat - '0'.toNat) := by
  have bounds : 0x30 ≤ c.toNat ∧ c.toNat ≤ 0x39 := by
    simpa [Char.isDigit, UInt32.le_iff_toNat_le] using digit
  have first : (decimalZeros.find? fun z => z ≤ c.toNat && c.toNat ≤ z + 9) = some 0x30 := by
    rw [decimalZeros, List.find?_cons_of_pos]
    simpa using bounds
  rw [digitValue?, first]
  rfl

theorem isDecimalDigit_of_isDigit (digit : c.isDigit = true) : isDecimalDigit c = true := by
  rw [isDecimalDigit, digitValue?_of_isDigit digit]
  rfl

/-- No digit is worth more than nine. -/
theorem digitValue?_le (c : Char) : (digitValue? c).getD 0 ≤ 9 := by
  rw [digitValue?]
  cases found : decimalZeros.find? fun z => z ≤ c.toNat && c.toNat ≤ z + 9 with
  | none => exact Nat.zero_le _
  | some z =>
    have inside := List.find?_some found
    simp only [Bool.and_eq_true, decide_eq_true_eq] at inside
    simp only [Option.map_some, Option.getD_some]
    omega

/-! ### Runs of digits -/

theorem isDigit_of_mem_toDigits (mem : c ∈ Nat.toDigits 10 n) : c.isDigit = true :=
  Nat.isDigit_of_mem_toDigits (by decide) (by decide) mem

/-- A character that is no digit is not in a number. -/
theorem not_mem_toDigits (other : c.isDigit = false) (n : Nat) : c ∉ Nat.toDigits 10 n := by
  intro mem
  cases (isDigit_of_mem_toDigits mem).symm.trans other

/-- The digits of a number denote the number. -/
theorem ofDigits_toDigits (n : Nat) : ofDigits (Nat.toDigits 10 n) = n := by
  have written : Nat.ofDigitChars 10 (Nat.toDigits 10 n) 0 = n := Nat.ofDigitChars_ten_toDigits
  rw [Nat.ofDigitChars_eq_foldl] at written
  rw [ofDigits]
  refine (List.foldl_ext _ _ _ ?_).trans written
  intro sofar c mem
  rw [digitValue?_of_isDigit (isDigit_of_mem_toDigits mem)]
  rfl

theorem ofDigits_concat (digits : List Char) (last : Char) :
    ofDigits (digits ++ [last]) = 10 * ofDigits digits + (digitValue? last).getD 0 :=
  List.foldl_concat ..

/-- A run of digits denotes less than the power of ten with its length. -/
theorem ofDigits_lt (digits : List Char) : ofDigits digits < 10 ^ digits.length := by
  induction digits using List.reverseRecOn with
  | nil => decide
  | append_singleton digits last ih =>
    have digit := digitValue?_le last
    rw [ofDigits_concat, List.length_append, List.length_singleton, Nat.pow_succ]
    omega

/-- A number is written with no more digits than it was read from. -/
theorem length_repr_ofDigits_le {digits : List Char} (nonempty : digits ≠ []) :
    (Nat.repr (ofDigits digits)).length ≤ digits.length :=
  (Nat.length_repr_le_iff (List.length_pos_iff.mpr nonempty)).mpr (ofDigits_lt digits)

end Text

/-! ### Integers -/

namespace Value

theorem intText_natCast (n : Nat) : intText n = Nat.repr n := by
  have natural : ¬ (n : Int) < 0 := by omega
  rw [intText, if_neg natural, String.empty_append, Int.natAbs_natCast]

/-- An integer is its sign and the digits of its size. -/
theorem toList_intText (n : Int) :
    (intText n).toList = (if n < 0 then ['-'] else []) ++ Nat.toDigits 10 n.natAbs := by
  rw [intText, String.toList_append, Nat.toList_repr]
  split <;> rfl

/-- An integer can be written if its digits are not too many. -/
theorem isWritableInt_iff {n : Int} :
    isWritableInt n = true ↔ n.natAbs < 10 ^ Text.maxDigits := by
  rw [isWritableInt, decide_eq_true_iff]
  exact Nat.length_repr_le_iff (by decide)

/-- There is a sign on negative integers only. -/
theorem minus_mem_intText {n : Int} : '-' ∈ (intText n).toList ↔ n < 0 := by
  have digits := Text.not_mem_toDigits (c := '-') rfl n.natAbs
  rw [toList_intText]
  by_cases negative : n < 0 <;> simp [negative, digits]

theorem point_not_mem_intText (n : Int) : '.' ∉ (intText n).toList := by
  have digits := Text.not_mem_toDigits (c := '.') rfl n.natAbs
  rw [toList_intText]
  split <;> simp [digits]

/-- Integers with the same text are the same. -/
theorem intText_inj {m n : Int} : intText m = intText n ↔ m = n := by
  constructor
  · intro same
    have sign : m < 0 ↔ n < 0 := by
      rw [← minus_mem_intText, same, minus_mem_intText]
    have lists := congrArg String.toList same
    simp only [toList_intText, sign, List.append_cancel_left_eq] at lists
    have size : m.natAbs = n.natAbs := by
      rw [← Text.ofDigits_toDigits m.natAbs, lists, Text.ofDigits_toDigits]
    omega
  · exact congrArg intText

end Value

end CodeBehind
