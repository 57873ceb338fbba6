import CodeBehind.Proofs.Language.Decoding

/-!
Directives with nothing to tell.

A message without visible lines is a bare directive, and that is all there is of it. A visible line
is a bare directive too when a compiler accepts none of the characters that can be seen in it: such
a line counts as visible because control characters are no blanks, and it loses them afterwards
(`payload_eq_nil_iff`). So bare directives do stand next to others, for exactly these lines
(`directives_bare_iff`), as a line with nothing but a bell shows (`not_forall_told`).
-/

namespace CodeBehind.Language

open Text

/-! ### Lines with something to tell -/

/-- The line has a character that can be seen and that a compiler accepts in a directive. -/
def IsTold (line : List Char) : Prop :=
  ∃ c ∈ line, isBlank c = false ∧ IsClean c

instance (line : List Char) : Decidable (IsTold line) :=
  List.decidableBEx _ line

/-- A directive tells something of a line exactly when a character of the line can be seen and is
accepted. -/
theorem payload_eq_nil_iff {line : List Char} : payload line = [] ↔ ¬ IsTold line := by
  rw [payload, trim_eq_nil_iff]
  constructor
  · rintro blank ⟨c, mem, visible, clean⟩
    have kept : c ∈ line.filter (IsClean ·) := List.mem_filter.mpr ⟨mem, decide_eq_true clean⟩
    rw [blank c kept] at visible
    cases visible
  · intro untold c mem
    obtain ⟨mem, clean⟩ := List.mem_filter.mp mem
    by_contra visible
    exact untold ⟨c, mem, Bool.eq_false_iff.mpr visible, of_decide_eq_true clean⟩

/-- A directive is its keyword alone if it has nothing to tell. -/
theorem directiveOf_eq_iff {keyword : String} {text : List Char} :
    directiveOf keyword text = keyword.toList ↔ text = [] := by
  unfold directiveOf
  split
  · next none => simp [none]
  · next some_text => simp [some_text]

/-! ### Bare directives in a message -/

/-- What stands between the line endings of a content. -/
def statements (ending content : String) : List (List Char) :=
  cutAt ending.toList content.toList

/-- Which directives of a message are bare: those for lines with nothing to tell, of which a message
without visible lines is one. -/
structure TellsLines (keyword : String) (message? : Option String) (ending content : String) :
    Prop where
  bare : List.Forall₂ (fun line statement => statement = keyword.toList ↔ ¬ IsTold line)
    (messageLines message?) (statements ending content)
  alone : splitLines (message?.getD "").toList = [] →
    statements ending content = [keyword.toList]
  several : 1 < (statements ending content).length →
    ((∀ statement ∈ statements ending content, statement ≠ keyword.toList) ↔
      ∀ line ∈ splitLines (message?.getD "").toList, IsTold line)

/-- The directive of a line is bare exactly if the line has nothing that is told. -/
theorem directiveOf_payload_eq_iff {keyword : String} {line : List Char} :
    directiveOf keyword (payload line) = keyword.toList ↔ ¬ IsTold line :=
  directiveOf_eq_iff.trans payload_eq_nil_iff

/-- Directives tell their lines. -/
theorem HoldsDirectives.tellsLines {keyword : String} {message? : Option String}
    {ending content : String} (h : HoldsDirectives keyword message? ending content) :
    TellsLines keyword message? ending content := by
  have statements_eq : statements ending content =
      (messageLines message?).map fun line => directiveOf keyword (payload line) := h.cut
  refine ⟨?_, ?_, ?_⟩
  · rw [statements_eq, List.forall₂_map_right_iff, List.forall₂_same]
    intro line _
    exact directiveOf_payload_eq_iff
  · intro unseen
    have untold : ¬ IsTold [] := by simp [IsTold]
    rw [statements_eq, messageLines, if_pos unseen, List.map_singleton,
      directiveOf_payload_eq_iff.mpr untold]
  · intro several
    have lines_eq : messageLines message? = splitLines (message?.getD "").toList := by
      refine if_neg fun unseen => ?_
      rw [statements_eq, messageLines, if_pos unseen] at several
      exact absurd several (by simp)
    rw [statements_eq, lines_eq, List.forall_mem_map]
    refine forall₂_congr fun line _ => ?_
    rw [ne_eq, directiveOf_payload_eq_iff, not_not]

/-- In a message of C# or Visual Basic a directive is bare exactly when no character of its line can
be seen and is accepted by a compiler. Where there are several directives, they all have something
to tell exactly when every visible line of the message has such a character. -/
theorem directives_bare_iff (message? : Option String) {ending : String}
    (admitted : ending ∈ Config.lineEndings) :
    (∃ content, csharp.renderLines message? ending = .ok content ∧
        TellsLines "#error" message? ending content) ∧
      ∃ content, visualBasic.renderLines message? ending = .ok content ∧
        TellsLines "#Error" message? ending content := by
  obtain ⟨content, rendered, holds⟩ :=
    holdsDirectives_of_rule (r := csharp) isKeyword_csharp rfl message? admitted
  obtain ⟨content', rendered', holds'⟩ :=
    holdsDirectives_of_rule (r := visualBasic) isKeyword_visualBasic rfl message? admitted
  exact ⟨⟨content, rendered, holds.tellsLines⟩, content', rendered', holds'.tellsLines⟩

def bell : String :=
  "\x07\nhello"

/-- A line with nothing but a bell becomes a bare directive beside another one. -/
theorem directives_bare_bell :
    "\n" ∈ Config.lineEndings ∧
      csharp.renderLines (some bell) "\n" = .ok "#error\n#error hello" ∧
      TellsLines "#error" (some bell) "\n" "#error\n#error hello" := by
  have admitted : "\n" ∈ Config.lineEndings := by decide
  have shown : csharp.renderLines (some bell) "\n" = .ok "#error\n#error hello" := by rfl
  obtain ⟨⟨content, rendered, tells⟩, -⟩ := directives_bare_iff (some bell) admitted
  cases shown.symm.trans rendered
  exact ⟨admitted, shown, tells⟩

/-- Several directives need not all have something to tell, in C# and in Visual Basic. -/
theorem not_forall_told :
    ¬ (∀ (message? : Option String) (ending content : String), ending ∈ Config.lineEndings →
        csharp.renderLines message? ending = .ok content →
        1 < (statements ending content).length →
        ∀ statement ∈ statements ending content, statement ≠ "#error".toList) ∧
      ¬ ∀ (message? : Option String) (ending content : String), ending ∈ Config.lineEndings →
        visualBasic.renderLines message? ending = .ok content →
        1 < (statements ending content).length →
        ∀ statement ∈ statements ending content, statement ≠ "#Error".toList := by
  constructor
  · intro told
    exact told (some bell) "\n" "#error\n#error hello" (by decide) (by rfl) (by decide)
      "#error".toList (by decide) rfl
  · intro told
    exact told (some bell) "\n" "#Error\n#Error hello" (by decide) (by rfl) (by decide)
      "#Error".toList (by decide) rfl

end CodeBehind.Language
