import CodeBehind.Proofs.Language.Statement
import Mathlib.Data.List.Forall2

/-!
Reading rendered messages back.

A message is rendered line by line, and whoever cuts what was rendered gets one statement for each
visible line of the message. A raised line is got back from its statement by the rules of literals
(`pythonWith_decodes`), a directive's line except for the control characters that no compiler
accepts (`directives_decode`). No notion of printable characters is needed for the one, and no text
of a message can begin a directive of its own in the other.
-/

namespace CodeBehind.Language

open Text

/-! ### Lines of a message -/

/-- The lines that are told of a message: its visible ones, or one empty line where it has none. -/
def messageLines (message? : Option String) : List (List Char) :=
  if splitLines (message?.getD "").toList = [] then [[]] else splitLines (message?.getD "").toList

/-- The lines that are told of a message are those that are rendered. -/
theorem map_toList_linesOf (message? : Option String) :
    (Renderer.linesOf message?).map String.toList = messageLines message? := by
  unfold Renderer.linesOf messageLines
  split
  · next none => rw [if_pos none]; rfl
  · next some_line =>
    rw [if_neg some_line, List.map_map]
    exact List.map_id'' (fun line => String.toList_ofList) _

theorem messageLines_ne_nil (message? : Option String) : messageLines message? ≠ [] := by
  rw [← map_toList_linesOf]
  simpa using linesOf_ne_nil message?

/-- No line that is told holds a line break. -/
theorem isUnbroken_of_mem_messageLines {message? : Option String} {line : List Char}
    (h : line ∈ messageLines message?) : IsUnbroken line := by
  rw [← map_toList_linesOf] at h
  obtain ⟨text, mem, rfl⟩ := List.mem_map.mp h
  exact isUnbroken_of_mem_linesOf mem

/-- A rule that never fails makes one statement of each line that is told. -/
theorem rendered_messageLines {r : Renderer} {rule : List Char → List Char}
    (hrule : r.statement = sure rule) (message? : Option String) (ending : String) :
    ∃ content, r.renderLines message? ending = .ok content ∧
      content.toList = ending.toList.intercalate ((messageLines message?).map rule) := by
  refine ⟨_, renderLines_of_sure hrule message? ending, ?_⟩
  rw [toList_intercalate_map, map_toList_linesOf]

/-! ### Raised texts -/

def pythonWith (printable : Char → Bool) : Renderer :=
  { python with statement := sure (raisingWith printable) }

theorem pythonWith_isPrintable : pythonWith isPrintable = python :=
  rfl

/-- The line raises the text: one literal stands in it, and the literal denotes the text. -/
def Raises (line text : List Char) : Prop :=
  ∃ literal, line = "raise RuntimeError(".toList ++ literal ++ [')'] ∧ unquote? literal = some text

/-- The statement raises the text without blanks around it. -/
theorem raises_raisingWith (printable : Char → Bool) (text : List Char) :
    Raises (raisingWith printable text) (trim text) :=
  ⟨quoteWith printable (trim text), rfl, unquote?_quoteWith printable (trim text)⟩

/-- Between the line endings, each visible line of a message is raised without the blanks around it,
in order, whatever characters count as printable. -/
theorem pythonWith_decodes (printable : Char → Bool) (message? : Option String) {ending : String}
    (admitted : ending ∈ Config.lineEndings) :
    ∃ content, (pythonWith printable).renderLines message? ending = .ok content ∧
      List.Forall₂ Raises (cutAt ending.toList content.toList)
        ((messageLines message?).map trim) := by
  obtain ⟨content, rendered, content_eq⟩ :=
    rendered_messageLines (r := pythonWith printable) rfl message? ending
  have some_line : (messageLines message?).map (raisingWith printable) ≠ [] := by
    simpa using messageLines_ne_nil message?
  have apart : ∀ {c : Char}, c = '\n' ∨ c = '\r' →
      ∀ line ∈ (messageLines message?).map (raisingWith printable), c ∉ line := by
    intro c hc line hline
    obtain ⟨text, -, rfl⟩ := List.mem_map.mp hline
    exact not_mem_raisingWith hc printable text
  refine ⟨content, rendered, ?_⟩
  rw [content_eq, cutAt_lineEnding admitted some_line apart, List.forall₂_map_left_iff,
    List.forall₂_map_right_iff, List.forall₂_same]
  intro line _
  exact raises_raisingWith printable line

/-- A message with quotes, a backslash, a control character and several kinds of line breaks. -/
def tangled : String :=
  " it's \"so\"\r\n\n\t\\x41 \x07 end\u2028é"

/-- Quotes, backslashes, controls and blanks around a line come back. -/
theorem python_decodes_tangled :
    "\r\n" ∈ Config.lineEndings ∧
      ∃ content, python.renderLines (some tangled) "\r\n" = .ok content ∧
        List.Forall₂ Raises (cutAt "\r\n".toList content.toList)
          ["it's \"so\"".toList, "\\x41 \x07 end".toList, "é".toList] := by
  have admitted : "\r\n" ∈ Config.lineEndings := by decide
  have told : (messageLines (some tangled)).map trim =
      ["it's \"so\"".toList, "\\x41 \x07 end".toList, "é".toList] := by decide
  refine ⟨admitted, ?_⟩
  rw [← told, ← pythonWith_isPrintable]
  exact pythonWith_decodes isPrintable (some tangled) admitted

/-! ### Directives -/

/-- What a directive tells of a line: the characters that a compiler accepts, without the blanks
around them. -/
def payload (line : List Char) : List Char :=
  trim (line.filter (IsClean ·))

/-- A directive with its payload: the keyword alone where the payload is empty. -/
def directiveOf (keyword : String) (payload : List Char) : List Char :=
  if payload = [] then keyword.toList else keyword.toList ++ ' ' :: payload

def directivesOf (keyword : String) (message? : Option String) : List (List Char) :=
  (messageLines message?).map fun line => directiveOf keyword (payload line)

/-- The content holds the directives for a message and nothing else, whether it is cut at the line
ending or at every line break. -/
structure HoldsDirectives (keyword : String) (message? : Option String) (ending content : String) :
    Prop where
  cut : cutAt ending.toList content.toList = directivesOf keyword message?
  split : splitLines content.toList = directivesOf keyword message?

/-- What is left of a line are the characters that a compiler accepts. -/
theorem stripControl_of_isUnbroken {line : List Char} (h : IsUnbroken line) :
    stripControl line = line.filter (IsClean ·) := by
  refine List.filter_congr fun c hc => ?_
  rw [Bool.eq_iff_iff, Bool.not_eq_true', decide_eq_true_iff]
  constructor
  · exact fun noControl => isClean_of_not_isControl noControl (h c hc)
  · exact not_isControl_of_isClean

section Directive

variable {keyword : String} (hkeyword : IsKeyword keyword)
include hkeyword

/-- The blank behind a keyword goes when nothing follows, and nothing else ever goes. -/
theorem trimRight_keyword (text : List Char) :
    trimRight (keyword.toList ++ ' ' :: trim text) = directiveOf keyword (trim text) := by
  rcases trim_eq_nil_or_concat text with none | ⟨front, last, trim_eq, visible⟩
  · obtain ⟨front, last, keyword_eq, visible⟩ := hkeyword.visible
    rw [none, directiveOf, if_pos rfl, keyword_eq]
    have blank : trimRight (front ++ [last] ++ [' ']) = trimRight (front ++ [last]) :=
      List.rdropWhile_concat_pos isBlank _ _ rfl
    rw [blank, trimRight_concat visible]
  · have whole : keyword.toList ++ ' ' :: (front ++ [last]) =
        (keyword.toList ++ ' ' :: front) ++ [last] := by simp
    rw [trim_eq, directiveOf, if_neg (by simp), whole, trimRight_concat visible]

/-- The directive of a line is that with the line's payload. -/
theorem directive_eq_directiveOf {line : List Char} (unbroken : IsUnbroken line) :
    directive keyword line = directiveOf keyword (payload line) := by
  rw [directive, stripControl_of_isUnbroken unbroken, trimRight_keyword hkeyword, payload]

theorem isVisible_directiveOf (payload : List Char) :
    isVisible (directiveOf keyword payload) = true := by
  obtain ⟨front, last, keyword_eq, visible⟩ := hkeyword.visible
  have mem : last ∈ directiveOf keyword payload := by
    unfold directiveOf
    split <;> simp [keyword_eq]
  exact List.any_eq_true.mpr ⟨last, mem, by simp [visible]⟩

/-- A language whose statements are directives renders a message as its directives. -/
theorem holdsDirectives_of_rule {r : Renderer} (hrule : r.statement = sure (directive keyword))
    (message? : Option String) {ending : String} (admitted : ending ∈ Config.lineEndings) :
    ∃ content, r.renderLines message? ending = .ok content ∧
      HoldsDirectives keyword message? ending content := by
  obtain ⟨content, rendered, content_eq⟩ := rendered_messageLines hrule message? ending
  have statements : (messageLines message?).map (directive keyword) =
      directivesOf keyword message? :=
    List.map_congr_left fun line mem =>
      directive_eq_directiveOf hkeyword (isUnbroken_of_mem_messageLines mem)
  have nonempty : directivesOf keyword message? ≠ [] := by
    simpa [directivesOf] using messageLines_ne_nil message?
  have unbroken : ∀ line ∈ directivesOf keyword message?, IsUnbroken line := by
    intro line mem
    rw [← statements] at mem
    obtain ⟨text, told, rfl⟩ := List.mem_map.mp mem
    exact isUnbroken_directive hkeyword (isUnbroken_of_mem_messageLines told)
  have visible : ∀ line ∈ directivesOf keyword message?, isVisible line = true := by
    intro line mem
    obtain ⟨text, -, rfl⟩ := List.mem_map.mp mem
    exact isVisible_directiveOf hkeyword (payload text)
  rw [statements] at content_eq
  refine ⟨content, rendered, ?_, ?_⟩
  · rw [content_eq]
    refine cutAt_lineEnding admitted nonempty fun {c} hc line mem inside => ?_
    have unended := unbroken line mem c inside
    rcases hc with rfl | rfl <;> cases unended
  · rw [content_eq, splitLines,
      cut_intercalate nonempty unbroken (toList_of_mem_lineEndings admitted)]
    exact List.filter_eq_self.mpr visible

end Directive

/-- C# and Visual Basic tell each visible line of a message in one directive, in order, and no text
in a message makes a line of its own. -/
theorem directives_decode (message? : Option String) {ending : String}
    (admitted : ending ∈ Config.lineEndings) :
    (∃ content, csharp.renderLines message? ending = .ok content ∧
        HoldsDirectives "#error" message? ending content) ∧
      ∃ content, visualBasic.renderLines message? ending = .ok content ∧
        HoldsDirectives "#Error" message? ending content :=
  ⟨holdsDirectives_of_rule isKeyword_csharp rfl message? admitted,
    holdsDirectives_of_rule isKeyword_visualBasic rfl message? admitted⟩

/-- Quotes and backslashes stay as they are, and a bell is left out. -/
theorem directives_decode_tangled :
    "\r\n" ∈ Config.lineEndings ∧
      ∃ content, csharp.renderLines (some tangled) "\r\n" = .ok content ∧
        splitLines content.toList =
          ["#error it's \"so\"".toList, "#error \\x41  end".toList, "#error é".toList] := by
  have admitted : "\r\n" ∈ Config.lineEndings := by decide
  obtain ⟨⟨content, rendered, holds⟩, -⟩ := directives_decode (some tangled) admitted
  refine ⟨admitted, content, rendered, ?_⟩
  rw [holds.split]
  decide

end CodeBehind.Language
