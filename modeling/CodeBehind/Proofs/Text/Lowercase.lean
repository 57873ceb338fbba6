import CodeBehind.Proofs.Text.Trimming
import CodeBehind.Text.Lowercase

/-!
Lower-casing once is enough.

The partner of a capital letter is no capital letter itself (`partner?_partner`), so lower-casing
leaves every character alone that it has put into a text (`isLow_of_mem_lower`). Hence a text that
is lower-cased already stays as it is (`lowercase_lowercase`), and so does what is left of it
between blanks (`lowercase_strip_lowercase`).

Lower-casing goes character by character: each is replaced by a piece that is not empty (`Lowers`),
although the piece of a capital sigma depends on its neighbours. No such piece brings in a blank
character, so a text without blanks around it has none around it after lower-casing
(`strip_lowercase`).
-/

namespace CodeBehind.Text

/-! ### Runs of letters -/

namespace CaseRun

variable {r s : CaseRun} {n : Nat}

/-- The letter with this code point belongs to the run. -/
def Holds (r : CaseRun) (n : Nat) : Prop :=
  r.first ≤ n ∧ n ≤ r.last ∧ (n - r.first) % r.step = 0

instance (r : CaseRun) (n : Nat) : Decidable (r.Holds n) :=
  inferInstanceAs (Decidable (_ ∧ _ ∧ _))

def firstPartner (r : CaseRun) : Nat :=
  (r.first + r.shift).toNat

def lastPartner (r : CaseRun) : Nat :=
  r.firstPartner + (r.last - r.first)

/-- All partners are characters. -/
def HasPartners (r : CaseRun) : Prop :=
  0 ≤ r.first + r.shift ∧
    (r.lastPartner < 0xD800 ∨ 0xDFFF < r.firstPartner ∧ r.lastPartner < 0x110000)

instance (r : CaseRun) : Decidable r.HasPartners :=
  inferInstanceAs (Decidable (_ ∧ _))

/-- No partner of a letter of `r` is a letter of `s`: the partners lie in front of `s` or behind it,
or keep step with it and fall between its letters. -/
def misses (r s : CaseRun) : Bool :=
  -- in Booleans, because every pair of runs in the table is checked
  Nat.blt r.lastPartner s.first || Nat.blt s.last r.firstPartner ||
    (Nat.beq r.first r.last || Nat.beq (r.step % s.step) 0) &&
      !Nat.beq ((r.firstPartner - s.first) % s.step) 0

/-- The code point of the partner of a letter. -/
theorem Holds.partner_eq (h : r.Holds n) (partners : r.HasPartners) :
    (n + r.shift).toNat = r.firstPartner + (n - r.first) := by
  obtain ⟨from_first, -, -⟩ := h
  have start := partners.1
  rw [firstPartner]
  omega

/-- No letter of a run that is missed is a partner. -/
theorem Holds.not_holds_partner (h : r.Holds n) (partners : r.HasPartners)
    (missing : r.misses s = true) : ¬ s.Holds (n + r.shift).toNat := by
  rw [h.partner_eq partners]
  obtain ⟨from_first, to_last, in_step⟩ := h
  intro holds
  obtain ⟨after_first, before_last, onto⟩ := holds
  simp only [misses, Bool.or_eq_true, Bool.and_eq_true, Nat.blt_eq, Nat.beq_eq,
    Bool.not_eq_true', lastPartner, Bool.eq_false_iff, ne_eq] at missing
  rcases missing with (before | behind) | ⟨step, between⟩
  · omega
  · omega
  · -- the steps of `r` are steps of `s`, and so the first partner would have to be on `s`
    have steps : s.step ∣ n - r.first := by
      rcases step with single | multiple
      · have only : n - r.first = 0 := by omega
        rw [only]
        exact Nat.dvd_zero _
      · exact Nat.dvd_trans (Nat.dvd_of_mod_eq_zero multiple) (Nat.dvd_of_mod_eq_zero in_step)
    apply between
    have inside : r.firstPartner - s.first ≠ 0 := by
      intro zero
      simp [zero] at between
    have split : r.firstPartner + (n - r.first) - s.first =
        (r.firstPartner - s.first) + (n - r.first) := by omega
    rw [split] at onto
    exact Nat.mod_eq_zero_of_dvd ((Nat.dvd_add_left steps).mp (Nat.dvd_of_mod_eq_zero onto))

end CaseRun

section Partners

variable {runs : List CaseRun} {c d : Char}

theorem partner?_eq_map (runs : List CaseRun) (c : Char) :
    partner? runs c = (runs.find? fun r => decide (r.Holds c.toNat)).map fun r : CaseRun =>
      Char.ofNat ((c.toNat : Int) + r.shift).toNat := by
  have same : (fun r : CaseRun => decide (r.Holds c.toNat)) = fun r =>
      r.first ≤ c.toNat && c.toNat ≤ r.last && (c.toNat - r.first) % r.step == 0 := by
    funext r
    rw [Bool.eq_iff_iff, decide_eq_true_iff]
    simp [CaseRun.Holds, and_assoc]
  rw [partner?, same]
  split
  · next found => rw [found, Option.map_some]
  · next missing => rw [missing, Option.map_none]

/-- A letter has no partner if it belongs to no run. -/
theorem partner?_eq_none_iff :
    partner? runs c = none ↔ ∀ r ∈ runs, ¬ r.Holds c.toNat := by
  simp [partner?_eq_map]

/-- A partner is the letter moved by the shift of its run. -/
theorem partner?_eq_some (h : partner? runs c = some d) :
    ∃ r ∈ runs, r.Holds c.toNat ∧ d = Char.ofNat (c.toNat + r.shift).toNat := by
  rw [partner?_eq_map] at h
  obtain ⟨r, found, rfl⟩ := Option.map_eq_some_iff.mp h
  have holds := List.find?_some found
  exact ⟨r, List.mem_of_find?_eq_some found, of_decide_eq_true holds, rfl⟩

end Partners

/-! ### The table of capital letters -/

def blankRanges : List (Nat × Nat) :=
  [(0x09, 0x0D), (0x1C, 0x20), (0x85, 0x85), (0xA0, 0xA0), (0x1680, 0x1680), (0x2000, 0x200A),
    (0x2028, 0x2029), (0x202F, 0x202F), (0x205F, 0x205F), (0x3000, 0x3000)]

/-- All partners of capital letters are characters. -/
theorem hasPartners_lowerRuns : ∀ r ∈ lowerRuns, r.HasPartners := by decide +kernel

/-- No partner of a capital letter is a capital letter. -/
theorem misses_lowerRuns : (lowerRuns.all fun r => lowerRuns.all r.misses) = true := by
  decide +kernel

/-- No partner is blank, and none is the capital I with a dot. -/
theorem partners_apart : ∀ r ∈ lowerRuns, ∀ range ∈ (0x130, 0x130) :: blankRanges,
    r.lastPartner < range.1 ∨ range.2 < r.firstPartner := by
  decide +kernel

theorem isBlank_eq_inRanges (c : Char) : isBlank c = inRanges blankRanges c := by
  rw [Bool.eq_iff_iff]
  simp only [isBlank, inRanges, blankRanges, List.any_cons, List.any_nil, Bool.or_eq_true,
    Bool.and_eq_true, decide_eq_true_eq, beq_iff_eq, Bool.or_false]
  omega

section Lowering

variable {c d : Char} {cs piece : List Char}

theorem toNat_partner (h : partner? lowerRuns c = some d) :
    ∃ r ∈ lowerRuns, r.Holds c.toNat ∧ d.toNat = (c.toNat + r.shift).toNat := by
  obtain ⟨r, mem, holds, rfl⟩ := partner?_eq_some h
  refine ⟨r, mem, holds, ?_⟩
  have partners := hasPartners_lowerRuns r mem
  have valid : (c.toNat + r.shift).toNat.isValidChar := by
    rw [holds.partner_eq partners]
    obtain ⟨from_first, to_last, -⟩ := holds
    have scalar := partners.2
    rw [CaseRun.lastPartner] at scalar
    rw [Nat.isValidChar]
    omega
  rw [Char.ofNat, dif_pos valid]
  rfl

/-- The partner of a capital letter is no capital letter. -/
theorem partner?_partner (h : partner? lowerRuns c = some d) : partner? lowerRuns d = none := by
  obtain ⟨r, mem, holds, code⟩ := toNat_partner h
  rw [partner?_eq_none_iff, code]
  intro s other
  have missing := List.all_eq_true.mp (List.all_eq_true.mp misses_lowerRuns r mem) s other
  exact holds.not_holds_partner (hasPartners_lowerRuns r mem) missing

theorem inRanges_partner (h : partner? lowerRuns c = some d) :
    inRanges ((0x130, 0x130) :: blankRanges) d = false := by
  obtain ⟨r, mem, holds, code⟩ := toNat_partner h
  rw [holds.partner_eq (hasPartners_lowerRuns r mem)] at code
  obtain ⟨from_first, to_last, -⟩ := holds
  rw [inRanges, List.any_eq_false]
  intro range inside
  have apart := partners_apart r mem range inside
  rw [CaseRun.lastPartner] at apart
  simp only [Bool.and_eq_true, decide_eq_true_eq, not_and]
  omega

/-! ### Characters that are lower-cased already -/

/-- Lower-casing leaves the character as it is. -/
def IsLow (c : Char) : Prop :=
  c ≠ '\u03A3' ∧ lowerChar c = [c]

instance (c : Char) : Decidable (IsLow c) :=
  inferInstanceAs (Decidable (_ ∧ _))

theorem isLow_of_partner? (unpaired : partner? lowerRuns c = none) (other : c ≠ '\u0130') :
    IsLow c := by
  constructor
  · rintro rfl
    revert unpaired
    decide +kernel
  · rw [lowerChar]
    split
    · have small : ¬ ('A'.val ≤ c.val ∧ c.val ≤ 'Z'.val) := by
        rintro ⟨above, below⟩
        refine partner?_eq_none_iff.mp unpaired ⟨0x41, 0x5A, 1, 32⟩ List.mem_cons_self ?_
        exact ⟨UInt32.le_iff_toNat_le.mp above, UInt32.le_iff_toNat_le.mp below, Nat.mod_one _⟩
      have same : c.toLower = c := dif_neg small
      rw [same]
    · rw [unpaired, Option.getD_none]

/-- A partner stays as it is. -/
theorem isLow_partner (h : partner? lowerRuns c = some d) : IsLow d := by
  apply isLow_of_partner? (partner?_partner h)
  rintro rfl
  have outside := inRanges_partner h
  revert outside
  decide

/-- No partner is blank. -/
theorem isBlank_partner (h : partner? lowerRuns c = some d) : isBlank d = false := by
  have outside := inRanges_partner h
  rw [inRanges, List.any_cons, Bool.or_eq_false_iff] at outside
  rw [isBlank_eq_inRanges, inRanges, outside.2]

theorem toLower_ascii : ∀ n : Fin 0x80, IsLow (Char.ofNat n).toLower ∧
    (isBlank (Char.ofNat n).toLower = true → isBlank (Char.ofNat n) = true) := by
  decide +kernel

/-- A character that lower-casing brings in is left as it is from then on, and it is blank only if
it replaces a blank character. -/
theorem of_mem_lowerChar (mem : d ∈ lowerChar c) (other : c ≠ '\u03A3') :
    IsLow d ∧ (isBlank d = true → isBlank c = true) := by
  rw [lowerChar] at mem
  split at mem
  · next ascii =>
    have facts := toLower_ascii ⟨c.toNat, ascii⟩
    rw [Char.ofNat_toNat] at facts
    rw [List.mem_singleton.mp mem]
    exact facts
  · split at mem
    · next dotted =>
      subst dotted
      rcases List.mem_pair.mp mem with rfl | rfl <;> decide +kernel
    · next undotted =>
      rw [List.mem_singleton.mp mem]
      cases found : partner? lowerRuns c with
      | none => exact ⟨isLow_of_partner? found undotted, id⟩
      | some partner =>
        rw [Option.getD_some, isBlank_partner found]
        exact ⟨isLow_partner found, by simp⟩

/-- What a character is replaced by. A capital sigma has two forms. -/
inductive Lowers : Char → List Char → Prop where
  | medial : Lowers '\u03A3' ['\u03C3']
  | final : Lowers '\u03A3' ['\u03C2']
  | other {c : Char} (h : c ≠ '\u03A3') : Lowers c (lowerChar c)

/-- What a character is lowered to stays as it is, and is blank only where the character is. -/
theorem Lowers.of_mem (h : Lowers c piece) (mem : d ∈ piece) :
    IsLow d ∧ (isBlank d = true → isBlank c = true) := by
  cases h with
  | medial =>
    rw [List.mem_singleton.mp mem]
    decide +kernel
  | final =>
    rw [List.mem_singleton.mp mem]
    decide +kernel
  | other apart => exact of_mem_lowerChar mem apart

theorem Lowers.ne_nil (h : Lowers c piece) : piece ≠ [] := by
  cases h with
  | medial => simp
  | final => simp
  | other => rw [lowerChar]; split <;> [simp; split <;> simp]

/-- A text is lowered character by character. -/
theorem lowerFrom_cons (before : List Char) (c : Char) (rest : List Char) :
    ∃ piece, Lowers c piece ∧
      lowerFrom before (c :: rest) = piece ++ lowerFrom (c :: before) rest := by
  refine ⟨_, ?_, rfl⟩
  split
  · next sigma =>
    subst sigma
    split
    · exact .final
    · exact .medial
  · next other => exact .other other

theorem isLow_of_mem_lowerFrom {before : List Char} (mem : c ∈ lowerFrom before cs) :
    IsLow c := by
  induction cs generalizing before with
  | nil => cases mem
  | cons first rest ih =>
    obtain ⟨piece, lowers, step⟩ := lowerFrom_cons before first rest
    rw [step] at mem
    rcases List.mem_append.mp mem with here | later
    · exact (lowers.of_mem here).1
    · exact ih later

/-- Every character of a lowered text stays as it is. -/
theorem isLow_of_mem_lower (mem : c ∈ lower cs) : IsLow c :=
  isLow_of_mem_lowerFrom mem

theorem lowerFrom_eq_self {before : List Char} (low : ∀ c ∈ cs, IsLow c) :
    lowerFrom before cs = cs := by
  induction cs generalizing before with
  | nil => rfl
  | cons first rest ih =>
    obtain ⟨here, later⟩ := List.forall_mem_cons.mp low
    rw [lowerFrom, if_neg here.1, here.2, ih later]
    rfl

/-- A text whose characters stay as they are stays as it is. -/
theorem lower_eq_self (low : ∀ c ∈ cs, IsLow c) : lower cs = cs :=
  lowerFrom_eq_self low

end Lowering

/-! ### Blanks at the ends -/

section Ends

variable {cs : List Char}

theorem lowerFrom_ne_nil {before : List Char} (h : cs ≠ []) : lowerFrom before cs ≠ [] := by
  cases cs with
  | nil => exact absurd rfl h
  | cons first rest =>
    obtain ⟨piece, lowers, step⟩ := lowerFrom_cons before first rest
    rw [step]
    exact List.append_ne_nil_of_left_ne_nil lowers.ne_nil _

/-- The last character comes from the last one. -/
theorem getLast?_lowerFrom {before : List Char} {d : Char}
    (h : (lowerFrom before cs).getLast? = some d) :
    ∃ c piece, cs.getLast? = some c ∧ Lowers c piece ∧ d ∈ piece := by
  induction cs generalizing before with
  | nil => cases h
  | cons first rest ih =>
    obtain ⟨piece, lowers, step⟩ := lowerFrom_cons before first rest
    rw [step] at h
    cases rest with
    | nil =>
      rw [lowerFrom, List.append_nil] at h
      exact ⟨first, piece, rfl, lowers, List.mem_of_getLast? h⟩
    | cons second more =>
      rw [List.getLast?_append_of_ne_nil _ (lowerFrom_ne_nil (by simp))] at h
      rw [List.getLast?_cons_cons]
      exact ih h

/-- Lowering makes no end blank. -/
theorem HasVisibleEnds.lower (h : HasVisibleEnds cs) : HasVisibleEnds (lower cs) := by
  obtain ⟨front, back⟩ := h
  constructor
  · intro d head
    cases cs with
    | nil => cases head
    | cons first rest =>
      obtain ⟨piece, lowers, step⟩ := lowerFrom_cons [] first rest
      rw [Text.lower, step, List.head?_append_of_ne_nil _ lowers.ne_nil] at head
      have visible := front first rfl
      have kept := (lowers.of_mem (List.mem_of_mem_head? head)).2
      exact Bool.eq_false_iff.mpr fun blank => by simp [kept blank] at visible
  · intro d last
    obtain ⟨c, piece, final, lowers, mem⟩ := getLast?_lowerFrom last
    have visible := back c final
    have kept := (lowers.of_mem mem).2
    exact Bool.eq_false_iff.mpr fun blank => by simp [kept blank] at visible

end Ends

/-! ### Texts -/

/-- Lowering twice is lowering once. -/
theorem lowercase_lowercase (s : String) : lowercase (lowercase s) = lowercase s := by
  rw [lowercase, lowercase, String.toList_ofList, lower_eq_self fun _ => isLow_of_mem_lower]

/-- Dropping the blanks around a lower-cased text leaves it lower-cased. -/
theorem lowercase_strip_lowercase (s : String) :
    lowercase (strip (lowercase s)) = strip (lowercase s) := by
  have low : ∀ c ∈ trim (lower s.toList), IsLow c := by
    intro c mem
    exact isLow_of_mem_lower (mem_of_mem_trim mem)
  rw [lowercase, strip, lowercase, String.toList_ofList, String.toList_ofList, lower_eq_self low]

/-- A text without blanks around it has none around it after lower-casing. -/
theorem strip_lowercase {s : String} (h : strip s = s) : strip (lowercase s) = lowercase s := by
  have ends : HasVisibleEnds s.toList := by
    rw [← trim_eq_self_iff, ← String.toList_ofList (l := trim s.toList)]
    exact congrArg String.toList h
  rw [strip, lowercase, String.toList_ofList, trim_eq_self_iff.mpr ends.lower]

end CodeBehind.Text
