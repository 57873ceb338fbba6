import CodeBehind.Text.Blank
import Mathlib.Data.List.DropRight

/-!
What trimming leaves.

Trimming keeps a piece of the text that ends with a visible character, or nothing
(`trim_eq_nil_or_concat`). Nothing is left of a text exactly when it is blank all through
(`trim_eq_nil_iff`), and all of it when neither of its ends is blank (`trim_eq_self_iff`).
-/

namespace CodeBehind.Text

/-! ### What is left -/

theorem trimRight_isPrefix (text : List Char) : trimRight text <+: text :=
  List.rdropWhile_prefix isBlank text

theorem mem_of_mem_trim {c : Char} {text : List Char} (h : c ∈ trim text) : c ∈ text :=
  (List.dropWhile_suffix isBlank).subset ((trimRight_isPrefix _).subset h)

theorem trimRight_concat {last : Char} (h : isBlank last = false) (front : List Char) :
    trimRight (front ++ [last]) = front ++ [last] :=
  List.rdropWhile_concat_neg isBlank _ _ (Bool.eq_false_iff.mp h)

/-- A text that ends with a visible character is kept in front of anything. -/
theorem prefix_trimRight {front : List Char} {last : Char} (h : isBlank last = false)
    (rest : List Char) : front ++ [last] <+: trimRight (front ++ [last] ++ rest) := by
  induction rest using List.reverseRecOn with
  | nil => simp [trimRight_concat h]
  | append_singleton rest c ih =>
    have trim_eq : trimRight (front ++ [last] ++ (rest ++ [c])) =
        if isBlank c then trimRight (front ++ [last] ++ rest)
        else front ++ [last] ++ rest ++ [c] := by
      rw [← List.append_assoc]
      exact List.rdropWhile_concat isBlank _ _
    rw [trim_eq]
    split
    · exact ih
    · rw [List.append_assoc]
      exact List.prefix_append _ _

/-- Nothing is left of a blank text. -/
theorem trim_eq_nil_iff {text : List Char} : trim text = [] ↔ ∀ c ∈ text, isBlank c = true := by
  have right : trim text = [] ↔ ∀ c ∈ trimLeft text, isBlank c = true :=
    List.rdropWhile_eq_nil_iff
  rw [right]
  constructor
  · intro blank
    by_contra visible
    -- what is dropped in front ends before the first character that can be seen
    have kept : trimLeft text ≠ [] := mt List.dropWhile_eq_nil_iff.mp visible
    have first : isBlank ((trimLeft text).head kept) = false :=
      List.head_dropWhile_not isBlank kept
    rw [blank _ (List.head_mem kept)] at first
    cases first
  · intro blank c mem
    exact blank c ((List.dropWhile_suffix isBlank).subset mem)

/-- What is left between blanks is nothing, or ends with a visible character. -/
theorem trim_eq_nil_or_concat (text : List Char) :
    trim text = [] ∨ ∃ front last, trim text = front ++ [last] ∧ isBlank last = false := by
  rcases List.eq_nil_or_concat' (trim text) with none | ⟨front, last, trim_eq⟩
  · exact .inl none
  · refine .inr ⟨front, last, trim_eq, Bool.eq_false_iff.mpr ?_⟩
    have nonempty : trim text ≠ [] := by simp [trim_eq]
    have last_eq : (trim text).getLast nonempty = last := by simp [trim_eq]
    rw [← last_eq]
    exact List.rdropWhile_last_not isBlank (trimLeft text) nonempty

/-! ### Texts that stay as they are -/

def HasVisibleEnds (cs : List Char) : Prop :=
  (∀ c ∈ cs.head?, isBlank c = false) ∧ ∀ c ∈ cs.getLast?, isBlank c = false

/-- A text with visible ends stays as it is, and no other. -/
theorem trim_eq_self_iff {cs : List Char} : trim cs = cs ↔ HasVisibleEnds cs := by
  have left : trimLeft cs = cs ↔ ∀ c ∈ cs.head?, isBlank c = false := by
    cases cs <;> simp [trimLeft, List.dropWhile_eq_self_iff]
  have right : trimRight cs = cs ↔ ∀ c ∈ cs.getLast?, isBlank c = false := by
    rw [trimRight, ← List.rdropWhile, List.rdropWhile_eq_self_iff]
    cases cs <;> simp [List.getLast?_eq_some_getLast]
  rw [HasVisibleEnds, ← left, ← right]
  constructor
  · intro same
    -- what is cut off in front cannot come back at the end
    have cut : trimLeft cs = cs := by
      have shorter : (trim cs).length ≤ (trimLeft cs).length :=
        (List.rdropWhile_prefix isBlank _).length_le
      rw [same] at shorter
      exact (List.dropWhile_suffix isBlank).eq_of_length_le shorter
    refine ⟨cut, ?_⟩
    rw [trim, cut] at same
    exact same
  · rintro ⟨front, back⟩
    rw [trim, front, back]

end CodeBehind.Text
