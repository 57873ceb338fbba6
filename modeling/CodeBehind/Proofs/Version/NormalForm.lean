import CodeBehind.Proofs.Text.Digits
import CodeBehind.Proofs.Version.Grammar

/-!
Versions and their texts.

The text of a version whose components are natural numbers is a written version with these numbers
(`writes_of_wraps`), and so it is with blanks around it, a mark in front and numbers behind. So what
is read from it are the components that it shows. What is read from any text has components that can
be written and read again (`isNatural_of_parse`), which makes the text of a version the one normal
form of all the texts that are read as this version (`parse_shown`).
-/

namespace CodeBehind.Version

open Text

/-- A component that can be written and read: a natural number with no more digits than a number is
read with. -/
def IsNatural (n : Int) : Prop :=
  0 ≤ n ∧ (Value.intText n).length ≤ maxDigits

instance (n : Int) : Decidable (IsNatural n) := by
  unfold IsNatural; infer_instance

def ofComponents (components : List Int) : Version where
  major := components.getD 0 0
  minor := components.getD 1 0
  patch := components.getD 2 0

/-- The version with its first components, the others being zero. -/
def truncate (v : Version) (count : Nat) : Version :=
  ofComponents (v.components.take count)

/-- What may stand around the text of a version: blanks, a mark in front, and further numbers
behind. -/
inductive Wraps (core : List Char) : List (List Char) → List Char → Prop where
  | intro {before mark after : List Char} {further : List (List Char)}
    (opens : ∀ c ∈ before, isBlank c = true) (marked : mark = [] ∨ mark = ['v'])
    (numbers : ∀ digits ∈ further, IsNumber digits) (closes : ∀ c ∈ after, isBlank c = true) :
    Wraps core further (before ++ (mark ++ (core ++ (dots further ++ after))))

variable {v : Version} {count : Nat}

theorem Wraps.refl (core : List Char) : Wraps core [] core := by
  have no_blanks : ∀ c ∈ ([] : List Char), isBlank c = true := List.forall_mem_nil _
  have wraps : Wraps core [] _ := .intro no_blanks (.inl rfl) (List.forall_mem_nil _) no_blanks
  simpa [dots] using wraps

/-! ### The numbers of a text -/

def digitsOf (n : Int) : List Char :=
  (Value.intText n).toList

theorem digitsOf_natCast (n : Nat) : digitsOf n = Nat.toDigits 10 n := by
  rw [digitsOf, Value.intText_natCast, Nat.toList_repr]

theorem isNumber_digitsOf {n : Int} (natural : IsNatural n) : IsNumber (digitsOf n) := by
  lift n to Nat using natural.1
  rw [digitsOf_natCast]
  exact ⟨Nat.toDigits_ne_nil, fun _ mem => isDecimalDigit_of_isDigit (isDigit_of_mem_toDigits mem)⟩

/-- The digits of a natural component denote the component. -/
theorem valueOf_digitsOf {n : Int} (natural : IsNatural n) : valueOf (some (digitsOf n)) = n := by
  lift n to Nat using natural.1
  rw [digitsOf_natCast, valueOf, Option.map_some, Option.getD_some, ofDigits_toDigits]

theorem intercalate_point (first : List Char) (others : List (List Char)) :
    ['.'].intercalate (first :: others) = first ++ dots others := by
  induction others generalizing first with
  | nil => simp [dots]
  | cons second others ih =>
    rw [List.intercalate_cons_cons, ih]
    simp [dots]

/-- The text of components is that of a written version with their digits. -/
theorem toList_intercalate_intText (first : Int) (others : List Int) :
    (".".intercalate ((first :: others).map Value.intText)).toList =
      digitsOf first ++ dots (others.map digitsOf) := by
  have point : ".".toList = ['.'] := rfl
  rw [String.toList_intercalate, point, List.map_map, List.map_cons, intercalate_point]
  rfl

section Components

variable {components : List Int} {further : List (List Char)}
  (natural : ∀ n ∈ components, IsNatural n)
include natural

/-- A version with blanks, a mark and further numbers around it writes its components. -/
theorem writes_of_wraps {text : List Char} (some_first : components ≠ [])
    (wraps : Wraps (".".intercalate (components.map Value.intText)).toList further text) :
    Writes (components.map digitsOf ++ further) text := by
  obtain ⟨first, others, rfl⟩ := List.exists_cons_of_ne_nil some_first
  cases wraps with
  | intro opens marked numbers closes =>
    have all : ∀ digits ∈ (first :: others).map digitsOf ++ further, IsNumber digits := by
      rw [List.forall_mem_append, List.forall_mem_map]
      exact ⟨fun n mem => isNumber_digitsOf (natural n mem), numbers⟩
    have writes := Writes.intro opens marked all closes
    rw [toList_intercalate_intText, List.append_assoc, ← List.append_assoc (dots _), ← dots_append]
    exact writes

/-- The numbers count from the first one, and the further ones only after all components. -/
theorem ofNumbers_digitsOf (enough : further = [] ∨ 3 ≤ components.length) :
    ofNumbers (components.map digitsOf ++ further) = ofComponents components := by
  have value : ∀ i < 3, valueOf (components.map digitsOf ++ further)[i]? = components.getD i 0 := by
    intro i below
    have inside : (components.map digitsOf ++ further)[i]? = components[i]?.map digitsOf := by
      rcases enough with rfl | long
      · rw [List.append_nil, List.getElem?_map]
      · rw [List.getElem?_append_left (by simpa using by omega), List.getElem?_map]
    rw [inside, List.getD_eq_getElem?_getD]
    cases found : components[i]? with
    | none => rfl
    | some n => exact valueOf_digitsOf (natural n (List.mem_of_getElem? found))
  rw [ofNumbers, ofComponents, value 0 (by decide), value 1 (by decide), value 2 (by decide)]

/-- The components are what is read, whatever stands around them. -/
theorem parse_of_wraps {text : String} (some_first : components ≠ [])
    (enough : further = [] ∨ 3 ≤ components.length)
    (wraps : Wraps (".".intercalate (components.map Value.intText)).toList further text.toList) :
    parse (some text) = .ok (ofComponents components) := by
  rw [parse_of_fit (writes_of_wraps natural some_first wraps), ofNumbers_digitsOf natural enough]
  intro digits mem
  have own : digits ∈ components.map digitsOf := by
    rcases enough with rfl | long
    · rw [List.append_nil] at mem
      exact List.mem_of_mem_take mem
    · rw [List.take_append_of_le_length (by simpa using long)] at mem
      exact List.mem_of_mem_take mem
  obtain ⟨n, known, rfl⟩ := List.mem_map.mp own
  exact (natural n known).2

end Components

theorem isWritableInt_of_isNatural {n : Int} (natural : IsNatural n) :
    Value.isWritableInt n = true := by
  obtain ⟨nonneg, short⟩ := natural
  lift n to Nat using nonneg
  rw [Value.intText_natCast] at short
  rw [Value.isWritableInt, decide_eq_true_iff, Int.natAbs_natCast]
  exact short

section Natural

variable (natural : ∀ n ∈ v.components, IsNatural n)
include natural

/-- A version whose components can be written is shown. -/
theorem shortText_of_natural (count : Nat) : v.shortText count = .ok (v.digits count) := by
  have writable : v.isWritable count = true := List.all_eq_true.mpr fun n mem =>
    isWritableInt_of_isNatural (natural n (List.mem_of_mem_take mem))
  rw [shortText, if_pos writable]

/-- A version that is shown in full is read back. -/
theorem parse_text_of_natural : ∃ shown, v.text = .ok shown ∧ parse (some shown) = .ok v :=
  ⟨v.digits 3, shortText_of_natural natural 3,
    parse_of_wraps natural (List.cons_ne_nil _ _) (.inl rfl) (.refl _)⟩

end Natural

/-! ### What was read -/

theorem Writes.isNumber {numbers : List (List Char)} {text : List Char}
    (writes : Writes numbers text) : ∀ digits ∈ numbers, IsNumber digits := by
  cases writes
  assumption

theorem isNatural_valueOf {number? : Option (List Char)}
    (number : ∀ digits ∈ number?, IsNumber digits)
    (fit : ∀ digits ∈ number?, digits.length ≤ maxDigits) : IsNatural (valueOf number?) := by
  cases number? with
  | none => exact ⟨Int.le_refl 0, by decide⟩
  | some digits =>
    rw [valueOf, Option.map_some, Option.getD_some]
    refine ⟨Int.natCast_nonneg _, ?_⟩
    rw [Value.intText_natCast]
    exact (length_repr_ofDigits_le (number digits rfl).1).trans (fit digits rfl)

/-- Every version that was read can be shown. -/
theorem isNatural_of_parse {text? : Option String} (read : parse text? = .ok v) :
    ∀ n ∈ v.components, IsNatural n := by
  rcases refuses_or_fits text? with ⟨e, refuses⟩ | ⟨s, numbers, rfl, writes, fit⟩
  · rw [parse_of_refuses refuses] at read
    cases read
  · rw [parse_of_fit writes fit] at read
    obtain rfl := Except.ok.inj read
    have natural : ∀ i < 3, IsNatural (valueOf numbers[i]?) := by
      intro i below
      apply isNatural_valueOf
      · intro digits found
        exact writes.isNumber digits (List.mem_of_getElem? found)
      · intro digits found
        have early : (numbers.take 3)[i]? = some digits := by
          rw [List.getElem?_take_of_lt below]
          exact found
        exact fit digits (List.mem_of_getElem? early)
    rw [components, List.forall_mem_cons, List.forall_mem_cons, List.forall_mem_singleton]
    exact ⟨natural 0 (by decide), natural 1 (by decide), natural 2 (by decide)⟩

/-- A version is read from its text whenever it is read from any text. -/
theorem parse_text_of_parse {text? : Option String} (read : parse text? = .ok v) :
    ∃ shown, v.text = .ok shown ∧ parse (some shown) = .ok v :=
  parse_text_of_natural (isNatural_of_parse read)

/-! ### The normal form -/

theorem textWith_of_le (one : 1 ≤ count) (three : count ≤ 3) :
    v.textWith count = v.shortText count := by
  have allowed : 1 ≤ (count : Int) ∧ (count : Int) ≤ 3 := by omega
  rw [textWith, if_pos allowed, Int.toNat_natCast]

/-- A version whose components are natural numbers is read from its text. From the text of its first
components these are read, whatever stands around the text; numbers may follow where all components
are shown. A version that was read from any text is read from its own text again, so two texts are
read as one version exactly if what is read has one text. -/
theorem parse_shown :
    (∀ v : Version, (∀ n ∈ v.components, IsNatural n) →
      (∃ shown, v.text = .ok shown ∧ parse (some shown) = .ok v) ∧
      ∀ count : Nat, 1 ≤ count → count ≤ 3 → ∃ shown, v.textWith count = .ok shown ∧
        ∀ further text, Wraps shown.toList further text.toList → (further = [] ∨ count = 3) →
          parse (some text) = .ok (v.truncate count)) ∧
    (∀ text? v, parse text? = .ok v →
      ∃ shown, v.text = .ok shown ∧ parse (some shown) = .ok v) ∧
    ∀ text? text'? v v', parse text? = .ok v → parse text'? = .ok v' →
      ∀ shown shown', v.text = .ok shown → v'.text = .ok shown' → (v = v' ↔ shown = shown') := by
  refine ⟨?_, fun _ _ => parse_text_of_parse, ?_⟩
  · intro v natural
    refine ⟨parse_text_of_natural natural, ?_⟩
    intro count one three
    refine ⟨v.digits count, (textWith_of_le one three).trans (shortText_of_natural natural count),
      ?_⟩
    intro further text wraps enough
    have shown : ∀ n ∈ v.components.take count, IsNatural n := fun n mem =>
      natural n (List.mem_of_mem_take mem)
    have long : further = [] ∨ 3 ≤ (v.components.take count).length := by
      refine enough.imp_right ?_
      rintro rfl
      exact Nat.le_refl 3
    have some_first : v.components.take count ≠ [] := by
      rw [components, ne_eq, List.take_eq_nil_iff]
      simpa using by omega
    exact parse_of_wraps shown some_first long wraps
  · intro text? text'? v v' read read' shown shown' show_eq show_eq'
    obtain ⟨_, again_eq, again⟩ := parse_text_of_parse read
    obtain ⟨_, again_eq', again'⟩ := parse_text_of_parse read'
    cases show_eq.symm.trans again_eq
    cases show_eq'.symm.trans again_eq'
    constructor
    · rintro rfl
      exact Except.ok.inj (show_eq.symm.trans show_eq')
    · rintro rfl
      exact Except.ok.inj (again.symm.trans again')

/-- Blanks, a mark, other digits and a fourth number change nothing. -/
theorem parse_shown_marked :
    parse (some "3.9.74") = .ok ⟨3, 9, 74⟩ ∧
      parse (some "\t v3.9\n") = .ok ⟨3, 9, 0⟩ ∧
      parse (some "\t v3.9.74.٠0.1\n") = .ok ⟨3, 9, 74⟩ ∧
      parse (some "3.9.0") = .ok ⟨3, 9, 0⟩ ∧
      ((⟨3, 9, 0⟩ : Version) = ⟨3, 9, 74⟩ ↔ "3.9.0" = "3.9.74") := by
  have natural : ∀ n ∈ components ⟨3, 9, 74⟩, IsNatural n := by decide
  have opens : ∀ c ∈ ['\t', ' '], isBlank c = true := List.all_eq_true.mp (by decide)
  have closes : ∀ c ∈ ['\n'], isBlank c = true := List.all_eq_true.mp (by decide)
  have release : Wraps "3.9".toList [] "\t v3.9\n".toList :=
    .intro opens (.inr rfl) (List.forall_mem_nil _) closes
  have numbers : ∀ digits ∈ [['٠', '0'], ['1']], IsNumber digits := by
    have zeros : ['٠', '0'].all isDecimalDigit = true := by decide
    have one : ['1'].all isDecimalDigit = true := by decide
    simp only [List.forall_mem_cons]
    exact ⟨⟨by decide, List.all_eq_true.mp zeros⟩, ⟨by decide, List.all_eq_true.mp one⟩,
      List.forall_mem_nil _⟩
  have whole : Wraps "3.9.74".toList [['٠', '0'], ['1']] "\t v3.9.74.٠0.1\n".toList :=
    .intro opens (.inr rfl) numbers closes
  have written : text ⟨3, 9, 74⟩ = .ok "3.9.74" := by rfl
  have written' : text ⟨3, 9, 0⟩ = .ok "3.9.0" := by rfl
  obtain ⟨⟨s, show_eq, plain⟩, shown⟩ := parse_shown.1 ⟨3, 9, 74⟩ natural
  cases written.symm.trans show_eq
  have read : parse (some "\t v3.9\n") = .ok ⟨3, 9, 0⟩ := by
    obtain ⟨s, show_eq, reads⟩ := shown 2 (by decide) (by decide)
    obtain rfl : "3.9" = s := Except.ok.inj (.trans (by rfl) show_eq)
    exact reads [] _ release (.inl rfl)
  have read' : parse (some "\t v3.9.74.٠0.1\n") = .ok ⟨3, 9, 74⟩ := by
    obtain ⟨s, show_eq, reads⟩ := shown 3 (by decide) (by decide)
    obtain rfl : "3.9.74" = s := Except.ok.inj (.trans (by rfl) show_eq)
    exact reads _ _ whole (.inr rfl)
  obtain ⟨s, show_eq, again⟩ := parse_shown.2.1 _ _ read
  cases written'.symm.trans show_eq
  exact ⟨plain, read, read', again, parse_shown.2.2 _ _ _ _ read read' _ _ written' written⟩

end CodeBehind.Version
