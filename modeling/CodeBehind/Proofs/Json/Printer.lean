import CodeBehind.Json.Printer
import CodeBehind.Proofs.Text.Lines

/-!
Printed JSON.

What is printed of a number holds no character that means something else to a reader, neither space
nor quote nor bracket (`mark_not_mem_intText`, `mark_not_mem_floatText`). What is printed of any
value holds no carriage return (`return_not_mem_print`): the ones inside texts are escaped, and
lines end with a line feed alone. So a text file gives it back as it was written, line ends and all.
-/

namespace CodeBehind

open Number (Binary64 Decimal)

/-! ### Numbers -/

/-- The characters that mark a text, a list, an object or a file, and those that stand between
values. -/
def Json.marks : List Char :=
  ['"', '[', ']', '\x7b', '\x7d', '\ufeff', ' ', '\t', '\n', '\r']

namespace Number

open Json (marks)

theorem mem_of_mem_dropZeros {c : Char} {ds : List Char} (h : c ∈ dropZeros ds) : c ∈ ds := by
  have mem := (List.dropWhile_suffix _).subset (List.mem_reverse.mp h)
  exact List.mem_reverse.mp mem

section Mark

variable {c : Char} (mark : c ∈ marks)
include mark

theorem mark_not_mem_toDigits (n : Nat) : c ∉ Nat.toDigits 10 n := by
  have noDigit : ∀ d ∈ marks, d.isDigit = false := by simp [marks]
  intro mem
  have digit := Nat.isDigit_of_mem_toDigits (by decide) (by decide) mem
  cases digit.symm.trans (noDigit c mark)

theorem mark_not_mem_decimalText (d : Decimal) : c ∉ decimalText d := by
  have apart : ∀ d ∈ marks, d ≠ '.' ∧ d ≠ 'e' ∧ d ≠ '+' ∧ d ≠ '-' ∧ d ≠ '0' := by
    simp [marks]
  obtain ⟨point, letter, plus, minus, zero⟩ := apart c mark
  have digits : c ∉ dropZeros (Nat.toDigits 10 d.digits) := fun mem =>
    mark_not_mem_toDigits mark _ (mem_of_mem_dropZeros mem)
  have front := fun n => mt (List.mem_of_mem_take (i := n)) digits
  have back := fun n => mt (List.mem_of_mem_drop (i := n)) digits
  have tail : c ∉ (dropZeros (Nat.toDigits 10 d.digits)).tail := mt List.mem_of_mem_tail digits
  have exponent : ∀ e, c ∉ exponentText e := by
    intro e
    have magnitude := mark_not_mem_toDigits mark e.natAbs
    unfold exponentText
    split <;> split <;> simp [magnitude, plus, minus, zero]
  unfold decimalText
  dsimp only
  split
  · split <;> simp [front, tail, exponent, point, letter]
  split
  · simp [digits, point, zero]
  · split <;> simp [front, back, point, zero]

theorem Binary64.mark_not_mem_text (x : Binary64) : c ∉ x.text := by
  have names : ∀ d ∈ marks, d ∉ "nan".toList ∧ d ∉ "-inf".toList ∧ d ∉ "inf".toList ∧
      d ∉ "0.0".toList ∧ d ≠ '-' := by simp [marks]
  obtain ⟨nan, below, above, zero, minus⟩ := names c mark
  cases x with
  | nan => exact nan
  | infinite negative =>
    cases negative
    · exact above
    · exact below
  | finite negative mantissa exponent =>
    have digits := mark_not_mem_decimalText mark (shortest mantissa exponent)
    rw [text]
    split <;> split <;> simp_all

end Mark

end Number

namespace Json

section Mark

variable {c : Char} (mark : c ∈ marks)
include mark

theorem mark_not_mem_intText (n : Int) : c ∉ (Value.intText n).toList := by
  have minus : ∀ d ∈ marks, d ≠ '-' := by simp [marks]
  have digits := Number.mark_not_mem_toDigits mark n.natAbs
  unfold Value.intText
  split <;> simp [digits, minus c mark]

theorem mark_not_mem_floatText (x : Binary64) : c ∉ (floatText x).toList := by
  have names : ∀ d ∈ marks, d ∉ "NaN".toList ∧ d ∉ "-Infinity".toList ∧ d ∉ "Infinity".toList := by
    simp [marks]
  obtain ⟨nan, below, above⟩ := names c mark
  unfold floatText
  split
  · exact nan
  · split
    · exact below
    · exact above
  · rw [String.toList_ofList]
    exact x.mark_not_mem_text mark

end Mark

/-! ### Texts -/

theorem digitChar_ne_return : ∀ n < 16, Nat.digitChar n ≠ '\r' := by
  decide

/-- No character is escaped with a carriage return. -/
theorem return_not_mem_escape (c : Char) : '\r' ∉ escape c := by
  unfold escape
  split
  all_goals try decide
  next noReturn _ _ _ =>
    split
    · next control =>
      have high := digitChar_ne_return (c.toNat / 16) (by omega)
      have low := digitChar_ne_return (c.toNat % 16) (by omega)
      simp [Ne.symm high, Ne.symm low]
    · simpa using Ne.symm noReturn

theorem return_not_mem_quoted (s : String) : '\r' ∉ (quoted s).toList := by
  have inside : '\r' ∉ s.toList.flatMap escape := by
    intro mem
    obtain ⟨c, -, hc⟩ := List.mem_flatMap.mp mem
    exact return_not_mem_escape c hc
  simp [quoted, inside]

/-! ### Values -/

theorem toList_margin (n : Nat) : ("".pushn ' ' n).toList = List.replicate n ' ' := by
  induction n with
  | zero => rfl
  | succ n ih =>
    rw [String.pushn_eq_repeat_push] at ih ⊢
    rw [Nat.repeat, String.toList_push, ih, ← List.replicate_succ']

theorem return_not_mem_newLine (level : Nat) : '\r' ∉ (newLine level).toList := by
  rw [newLine, String.toList_append, toList_margin]
  simp

/-- Laying out adds no carriage return. -/
theorem return_not_mem_layOut {opening closing : String} {items : List String}
    (hopening : '\r' ∉ opening.toList) (hclosing : '\r' ∉ closing.toList)
    (hitems : ∀ item ∈ items, '\r' ∉ item.toList) (level : Nat) :
    '\r' ∉ (layOut opening closing level items).toList := by
  have lines := return_not_mem_newLine
  have inside : '\r' ∉ (',' :: (newLine (level + 1)).toList).intercalate
      (items.map String.toList) := by
    intro mem
    rcases Text.mem_intercalate mem with h | ⟨line, hline, h⟩
    · simp [lines] at h
    · obtain ⟨item, hitem, rfl⟩ := List.mem_map.mp hline
      exact hitems item hitem h
  unfold layOut
  split
  · simp [hopening, hclosing]
  · simp [hopening, hclosing, lines, inside]

mutual

theorem return_not_mem_printAt (level : Nat) : ∀ v : Value, '\r' ∉ (printAt level v).toList
  | .null => by simp [printAt]
  | .bool b => by cases b <;> simp [printAt]
  | .int n => by simpa [printAt] using mark_not_mem_intText (by decide) n
  | .float x => by simpa [printAt] using mark_not_mem_floatText (by decide) x
  | .text s => by simpa [printAt] using return_not_mem_quoted s
  | .list xs => by
    rw [printAt]
    exact return_not_mem_layOut (by decide) (by decide)
      (return_not_mem_printElements (level + 1) xs) level
  | .object fields => by
    rw [printAt]
    exact return_not_mem_layOut (by decide) (by decide)
      (return_not_mem_printMembers (level + 1) fields) level
  | .mapping entries => by
    rw [printAt]
    exact return_not_mem_layOut (by decide) (by decide)
      (return_not_mem_printEntries (level + 1) entries) level

theorem return_not_mem_printElements (level : Nat) :
    ∀ xs : List Value, ∀ item ∈ printElements level xs, '\r' ∉ item.toList
  | [] => List.forall_mem_nil _
  | x :: xs => List.forall_mem_cons.mpr
    ⟨return_not_mem_printAt level x, return_not_mem_printElements level xs⟩

theorem return_not_mem_printMembers (level : Nat) :
    ∀ fields : List (String × Value), ∀ item ∈ printMembers level fields, '\r' ∉ item.toList
  | [] => List.forall_mem_nil _
  | (k, v) :: rest => by
    refine List.forall_mem_cons.mpr ⟨?_, return_not_mem_printMembers level rest⟩
    simp [return_not_mem_quoted k, return_not_mem_printAt level v]

theorem return_not_mem_printEntries (level : Nat) :
    ∀ entries : List (Value × Value), ∀ item ∈ printEntries level entries, '\r' ∉ item.toList
  | [] => List.forall_mem_nil _
  | (k, v) :: rest => by
    refine List.forall_mem_cons.mpr ⟨?_, return_not_mem_printEntries level rest⟩
    simp [return_not_mem_quoted (keyText k), return_not_mem_printAt level v]

end

/-- What is printed has no carriage return in it, so reading does not change its line ends. -/
theorem return_not_mem_print (v : Value) : '\r' ∉ (print v).toList :=
  return_not_mem_printAt 0 v

end Json

end CodeBehind
