import CodeBehind.Config
import CodeBehind.Language.Bundled
import CodeBehind.Proofs.Text.Lines
import CodeBehind.Proofs.Text.Quoted
import CodeBehind.Proofs.Text.Trimming

/-!
Statements of the bundled languages.

Whatever the text of a diagnostic is, its statement stays one: a line directive begins with its
keyword and holds nothing that a compiler would take for the end of the line
(`isDirective_directive`), and a raised text is a single literal (`isRaising_raising`). So rendered
messages are cut into statements by whoever reads them (`allStatements_of_rendered`).
-/

namespace CodeBehind

namespace Text

/-! ### Clean characters -/

/-- A compiler accepts the character inside a directive: it is a tab or no control character. -/
def IsClean (c : Char) : Prop :=
  (0x20 ≤ c.toNat ∨ c = '\t') ∧ c.toNat ≠ 0x7F

instance (c : Char) : Decidable (IsClean c) := by
  unfold IsClean; infer_instance

/-- What is no control character and ends no line is accepted in a directive. -/
theorem isClean_of_not_isControl {c : Char} (noControl : isControl c = false)
    (noBreak : isLineBreak c = false) : IsClean c := by
  have code : ∀ d : Char, isLineBreak d = true → c.toNat ≠ d.toNat := by
    rintro d hd same
    rw [Char.toNat_inj.mp same, hd] at noBreak
    cases noBreak
  have notFeed : c.toNat ≠ 0x0A := code '\n' rfl
  have notReturn : c.toNat ≠ 0x0D := code '\r' rfl
  have tab : c.toNat = 0x09 → c = '\t' := fun h => Char.toNat_inj.mp h
  simp only [isControl, Bool.or_eq_false_iff, Bool.and_eq_false_iff, decide_eq_false_iff_not,
    beq_eq_false_iff_ne] at noControl
  constructor
  · by_cases h : c.toNat = 0x09
    · exact .inr (tab h)
    · exact .inl (by omega)
  · exact noControl.2

theorem not_isControl_of_isClean {c : Char} (clean : IsClean c) : isControl c = false := by
  obtain ⟨visible, notDelete⟩ := clean
  have code : 0x20 ≤ c.toNat ∨ c.toNat = 0x09 := visible.imp_right (by rintro rfl; rfl)
  simp only [isControl, Bool.or_eq_false_iff, Bool.and_eq_false_iff, decide_eq_false_iff_not,
    beq_eq_false_iff_ne]
  omega

end Text

namespace Language

open Text

/-! ### Directives -/

/-- A word that can open a line directive. -/
structure IsKeyword (keyword : String) : Prop where
  visible : ∃ front last, keyword.toList = front ++ [last] ∧ isBlank last = false
  clean : ∀ c ∈ keyword.toList, IsClean c
  unbroken : IsUnbroken keyword.toList

/-- The line is a directive: its keyword stands in front, and a compiler accepts all its
characters. -/
structure IsDirective (keyword : String) (line : List Char) : Prop where
  begins : keyword.toList <+: line
  clean : ∀ c ∈ line, IsClean c

/-- The characters of a directive come from its keyword and its line. -/
theorem mem_directive {keyword : String} {text : List Char} {c : Char}
    (h : c ∈ directive keyword text) :
    c ∈ keyword.toList ∨ c = ' ' ∨ c ∈ text ∧ isControl c = false := by
  rcases List.mem_append.mp ((trimRight_isPrefix _).subset h) with h | h
  · exact .inl h
  · rcases List.mem_cons.mp h with h | h
    · exact .inr (.inl h)
    · obtain ⟨mem, noControl⟩ := List.mem_filter.mp (mem_of_mem_trim h)
      exact .inr (.inr ⟨mem, by simpa using noControl⟩)

section Directive

variable {keyword : String} (hkeyword : IsKeyword keyword) {line : List Char}
  (unbroken : IsUnbroken line)
include hkeyword unbroken

/-- The statement of a line is a directive. -/
theorem isDirective_directive : IsDirective keyword (directive keyword line) where
  begins := by
    obtain ⟨front, last, keyword_eq, visible⟩ := hkeyword.visible
    rw [directive, keyword_eq]
    exact prefix_trimRight visible _
  clean := by
    intro c hc
    rcases mem_directive hc with h | rfl | ⟨mem, noControl⟩
    · exact hkeyword.clean c h
    · exact ⟨.inl (by decide), by decide⟩
    · exact isClean_of_not_isControl noControl (unbroken c mem)

theorem isUnbroken_directive : IsUnbroken (directive keyword line) := by
  intro c hc
  rcases mem_directive hc with h | rfl | ⟨mem, -⟩
  · exact hkeyword.unbroken c h
  · rfl
  · exact unbroken c mem

end Directive

theorem isKeyword_csharp : IsKeyword "#error" where
  visible := ⟨"#erro".toList, 'r', rfl, by decide⟩
  clean := by simp [IsClean]
  unbroken := by simp [IsUnbroken, isLineBreak]

theorem isKeyword_visualBasic : IsKeyword "#Error" where
  visible := ⟨"#Erro".toList, 'r', rfl, by decide⟩
  clean := by simp [IsClean]
  unbroken := by simp [IsUnbroken, isLineBreak]

/-! ### Raised texts -/

def raisingWith (printable : Char → Bool) (text : List Char) : List Char :=
  "raise RuntimeError(".toList ++ quoteWith printable (trim text) ++ [')']

/-- The line raises one literal. -/
def IsRaising (line : List Char) : Prop :=
  ∃ literal text, line = "raise RuntimeError(".toList ++ literal ++ [')'] ∧
    unquote? literal = some text

/-- The statement of a line raises one literal. -/
theorem isRaising_raising (text : List Char) : IsRaising (raising text) :=
  ⟨quote (trim text), trim text, rfl, unquote?_quoteWith _ _⟩

/-- A raising statement has no line end in it. -/
theorem not_mem_raisingWith {c : Char} (h : c = '\n' ∨ c = '\r') (printable : Char → Bool)
    (text : List Char) : c ∉ raisingWith printable text := by
  have literal : c ∉ quoteWith printable (trim text) := not_mem_quoteWith h printable (trim text)
  have opening : c ∉ "raise RuntimeError(".toList := by
    rcases h with rfl | rfl <;> decide
  intro mem
  unfold raisingWith at mem
  rcases List.mem_append.mp mem with mem | mem
  · rcases List.mem_append.mp mem with mem | mem
    · exact opening mem
    · exact literal mem
  · rw [List.mem_singleton.mp mem] at h
    revert h
    decide

/-! ### Rendered messages -/

theorem linesOf_ne_nil (message? : Option String) : Renderer.linesOf message? ≠ [] := by
  unfold Renderer.linesOf
  split
  · exact List.cons_ne_nil _ _
  · next lines => simpa using lines

/-- No line that is rendered holds a line break. -/
theorem isUnbroken_of_mem_linesOf {message? : Option String} {line : String}
    (h : line ∈ Renderer.linesOf message?) : IsUnbroken line.toList := by
  unfold Renderer.linesOf at h
  split at h
  · rw [List.mem_singleton.mp h]
    exact isUnbroken_nil
  · obtain ⟨chars, mem, rfl⟩ := List.mem_map.mp h
    rw [String.toList_ofList]
    exact isUnbroken_of_mem_cut (List.mem_filter.mp mem).1

/-- No bundled language fails on a line. -/
theorem exists_statement_of_bundled {r : Renderer} (h : r ∈ bundled) (line : String) :
    ∃ statement, r.statement line = .ok statement := by
  simp only [bundled, List.mem_cons, List.not_mem_nil, or_false] at h
  rcases h with rfl | rfl | rfl <;> exact ⟨_, rfl⟩

/-- A rule that never fails makes a statement of each line of a message. -/
theorem renderLines_of_sure {r : Renderer} {rule : List Char → List Char}
    (hrule : r.statement = sure rule) (message? : Option String) (ending : String) :
    r.renderLines message? ending = .ok (ending.intercalate
      ((Renderer.linesOf message?).map fun line => .ofList (rule line.toList))) := by
  have made : (Renderer.linesOf message?).mapM r.statement =
      .ok ((Renderer.linesOf message?).map fun line => String.ofList (rule line.toList)) := by
    rw [hrule]
    exact List.mapM_pure
  rw [Renderer.renderLines, made]
  rfl

theorem toList_intercalate_map (rule : List Char → List Char) (ending : String)
    (lines : List String) :
    (ending.intercalate (lines.map fun line => .ofList (rule line.toList))).toList =
      ending.toList.intercalate ((lines.map String.toList).map rule) := by
  rw [String.toList_intercalate, List.map_map, List.map_map]
  congr 1
  exact List.map_congr_left fun line _ => String.toList_ofList

/-- Some messages, each rendered and then joined. -/
def IsRendered (r : Renderer) (ending content : String) : Prop :=
  ∃ messages blocks, messages ≠ [] ∧
    messages.mapM (fun m => r.renderLines m ending) = .ok blocks ∧
    content = ending.intercalate blocks

/-- A rule that never fails makes a statement of each line, and nothing else comes between the line
endings. -/
theorem statements_of_isRendered {r : Renderer} {rule : List Char → List Char}
    {ending content : String} (hrule : r.statement = sure rule) (h : IsRendered r ending content) :
    ∃ lines : List (List Char), lines ≠ [] ∧ (∀ line ∈ lines, IsUnbroken line) ∧
      content.toList = ending.toList.intercalate (lines.map rule) := by
  obtain ⟨messages, blocks, nonempty, rendered, rfl⟩ := h
  have blocks_eq : blocks = messages.map fun m =>
      ending.intercalate ((Renderer.linesOf m).map fun line => .ofList (rule line.toList)) := by
    simp only [renderLines_of_sure hrule] at rendered
    have all := rendered.symm.trans List.mapM_pure
    cases all
    rfl
  refine ⟨messages.flatMap fun m => (Renderer.linesOf m).map String.toList, ?_, ?_, ?_⟩
  · obtain ⟨first, rest, rfl⟩ := List.exists_cons_of_ne_nil nonempty
    rw [List.flatMap_cons]
    exact List.append_ne_nil_of_left_ne_nil (by simpa using linesOf_ne_nil first) _
  · intro chars mem
    obtain ⟨m, -, inside⟩ := List.mem_flatMap.mp mem
    obtain ⟨line, hline, rfl⟩ := List.mem_map.mp inside
    exact isUnbroken_of_mem_linesOf hline
  · have made : ∀ m, ((Renderer.linesOf m).map String.toList).map rule ≠ [] := fun m => by
      simpa using linesOf_ne_nil m
    rw [blocks_eq, String.toList_intercalate, List.map_map, List.map_flatMap,
      ← intercalate_flatMap made]
    exact congrArg _ (List.map_congr_left fun m _ =>
      toList_intercalate_map rule ending (Renderer.linesOf m))

/-! ### Cut by a reader -/

def AllDirectives (keyword content : String) : Prop :=
  ∀ line ∈ cut content.toList, IsDirective keyword line

/-- Between the line endings, every line raises a text. -/
def AllRaising (ending content : String) : Prop :=
  ∀ line ∈ cutAt ending.toList content.toList, IsRaising line

/-- Wherever the reader of a bundled language cuts the content, every piece is an error statement of
the language. -/
structure AllStatements (r : Renderer) (ending content : String) : Prop where
  csharp : r.statement = csharp.statement → AllDirectives "#error" content
  visualBasic : r.statement = visualBasic.statement → AllDirectives "#Error" content
  python : r.statement = python.statement → AllRaising ending content

section Cut

variable {ending : String} (admitted : ending ∈ Config.lineEndings)
include admitted

theorem toList_of_mem_lineEndings : ending.toList = ['\n'] ∨ ending.toList = ['\r', '\n'] := by
  rcases List.mem_pair.mp admitted with rfl | rfl
  · exact .inl rfl
  · exact .inr rfl

/-- Lines that hold neither a carriage return nor a line feed are got back at the line ending. -/
theorem cutAt_lineEnding {lines : List (List Char)} (nonempty : lines ≠ [])
    (apart : ∀ {c : Char}, c = '\n' ∨ c = '\r' → ∀ line ∈ lines, c ∉ line) :
    cutAt ending.toList (ending.toList.intercalate lines) = lines := by
  rcases toList_of_mem_lineEndings admitted with eq | eq
  · rw [eq]
    exact cutAt_intercalate nonempty (apart (.inl rfl))
  · rw [eq]
    exact cutAt_intercalate nonempty (apart (.inr rfl))

variable {r : Renderer} {content : String} (h : IsRendered r ending content)
include h

/-- What directives are rendered to holds nothing but directives. -/
theorem allDirectives_of_rendered {keyword : String} (hkeyword : IsKeyword keyword)
    (hrule : r.statement = sure (directive keyword)) : AllDirectives keyword content := by
  obtain ⟨lines, nonempty, unbroken, content_eq⟩ := statements_of_isRendered hrule h
  have statements : ∀ line ∈ lines.map (directive keyword), IsUnbroken line := by
    intro line hline
    obtain ⟨text, mem, rfl⟩ := List.mem_map.mp hline
    exact isUnbroken_directive hkeyword (unbroken text mem)
  intro line hline
  rw [content_eq, cut_intercalate (by simpa using nonempty) statements
    (toList_of_mem_lineEndings admitted)] at hline
  obtain ⟨text, mem, rfl⟩ := List.mem_map.mp hline
  exact isDirective_directive hkeyword (unbroken text mem)

/-- What raising statements are rendered to holds nothing but these. -/
theorem allRaising_of_rendered (hrule : r.statement = sure raising) :
    AllRaising ending content := by
  obtain ⟨lines, nonempty, -, content_eq⟩ := statements_of_isRendered hrule h
  have apart : ∀ {c : Char}, c = '\n' ∨ c = '\r' → ∀ line ∈ lines.map raising, c ∉ line := by
    intro c hc line hline
    obtain ⟨text, -, rfl⟩ := List.mem_map.mp hline
    exact not_mem_raisingWith hc isPrintable text
  intro line hline
  rw [content_eq, cutAt_lineEnding admitted (by simpa using nonempty) apart] at hline
  obtain ⟨text, -, rfl⟩ := List.mem_map.mp hline
  exact isRaising_raising text

/-- What a bundled language renders holds nothing but its statements. -/
theorem allStatements_of_rendered : AllStatements r ending content where
  csharp := allDirectives_of_rendered admitted h isKeyword_csharp
  visualBasic := allDirectives_of_rendered admitted h isKeyword_visualBasic
  python := allRaising_of_rendered admitted h

end Cut

end Language

end CodeBehind
