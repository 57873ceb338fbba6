import CodeBehind.Proofs.Template.Reading
import CodeBehind.Proofs.Text.Lines
import CodeBehind.Templates

/-!
Forms.

A form is a template without expressions of its own: texts with a placeholder after each of them,
which asks for what a name stands for or for the release of the version that it stands for. Such a
template is read back part by part (`read_source`), and rendering it puts the values in their places
and does nothing else (`render_form`): what a value holds is never read as a template.
-/

namespace CodeBehind

namespace Template

/-- A name that a placeholder may ask for: not a literal, not the word that negates, and not the
template itself. -/
structure IsName (s : String) : Prop where
  identifier : Text.isIdentifier s.toList = true
  free : constant? s = none
  affirmed : s ≠ "not"
  foreign : s ≠ "self"

instance (s : String) : Decidable (IsName s) :=
  decidable_of_iff (Text.isIdentifier s.toList = true ∧ (constant? s).isNone = true ∧ s ≠ "not" ∧
      s ≠ "self")
    ⟨fun ⟨identifier, free, affirmed, foreign⟩ =>
      ⟨identifier, Option.isNone_iff_eq_none.mp free, affirmed, foreign⟩,
    fun h => ⟨h.identifier, Option.isNone_iff_eq_none.mpr h.free, h.affirmed, h.foreign⟩⟩

/-- A text between placeholders: there is some, and nothing in it opens a placeholder or is changed
when line ends are unified. -/
structure IsPlain (s : String) : Prop where
  nonempty : s.toList ≠ []
  unopened : '\x7b' ∉ s.toList
  unbroken : '\r' ∉ s.toList

instance (s : String) : Decidable (IsPlain s) :=
  decidable_of_iff (s.toList ≠ [] ∧ '\x7b' ∉ s.toList ∧ '\r' ∉ s.toList)
    ⟨fun ⟨nonempty, unopened, unbroken⟩ => ⟨nonempty, unopened, unbroken⟩,
    fun h => ⟨h.nonempty, h.unopened, h.unbroken⟩⟩

/-- What a placeholder of a form asks for: what a name stands for, or the first two components of
the version that it stands for. -/
inductive Slot where
  | name (s : String) (h : IsName s)
  | release (s : String) (h : IsName s)

/-- A text and the placeholder after it. -/
structure Segment where
  text : String
  slot : Slot
  isPlain : IsPlain text

/-- A template of texts and the placeholders after them. -/
abbrev Form := List Segment

namespace Slot

def asked : Slot → String
  | .name s _ | .release s _ => s

theorem asked_isName : ∀ slot : Slot, IsName slot.asked
  | .name _ h | .release _ h => h

def tail : Slot → String
  | .name _ _ => ""
  | .release _ _ => ".to_string(2)"

def source (slot : Slot) : String :=
  "\x7b\x7b " ++ (slot.asked ++ (slot.tail ++ " \x7d\x7d"))

def tokens (slot : Slot) (rest : Tokens) : Tokens :=
  match slot with
  | .name s _ => .next (.word s) (.next .closing rest)
  | .release s _ =>
    .next (.word s) <| .next (.mark ".") <| .next (.word "to_string") <| .next (.mark "(") <|
      .next (.integer 2) <| .next (.mark ")") <| .next .closing rest

def expression : Slot → Expression
  | .name s _ => .name s
  | .release s _ => .call (.member (.name s) "to_string") [.literal (.int 2)] []

/-- What a placeholder shows, or the fault of a number in it that is too long to be shown. -/
def shown? (context : Context) : Slot → Option (Except Fault String)
  | .name s _ => (context.get? s).map Thing.shown
  | .release s _ =>
    match context.get? s with
    | some (.version v) => some ((v.shortText 2).mapError VersionError.fault)
    | _ => none

end Slot

namespace Form

def source : Form → String
  | [] => ""
  | segment :: rest => segment.text ++ (segment.slot.source ++ source rest)

def tokens : Form → Tokens
  | [] => .done
  | segment :: rest =>
    .next (.text segment.text) (.next .opening (segment.slot.tokens (tokens rest)))

def parts : Form → Template
  | [] => []
  | segment :: rest =>
    .text segment.text :: .placeholder segment.slot.expression :: parts rest

/-- A form with every placeholder replaced by what it shows, up to the first one that cannot be
shown. -/
def fill? (context : Context) : Form → Option (Except Fault String)
  | [] => some (.ok "")
  | segment :: rest => do
    let value ← segment.slot.shown? context
    let later ← fill? context rest
    return value >>= fun value => later.map fun later => segment.text ++ (value ++ later)

/-- A form is filled from its first gap on. -/
theorem fill?_cons {context : Context} {segment : Segment} {rest : Form}
    {value later : Except Fault String} (shown : segment.slot.shown? context = some value)
    (filled : fill? context rest = some later) :
    fill? context (segment :: rest) =
      some (value >>= fun value => later.map fun later => segment.text ++ (value ++ later)) := by
  rw [fill?, shown, filled]
  rfl

end Form

/-! ### Scanning a form -/

/-- A placeholder is scanned as its tokens. -/
theorem Scans.slot {cs : List Char} {ts : Tokens} (h : Scans .text cs ts) (slot : Slot) :
    Scans (.code false [] false)
      (' ' :: (slot.asked.toList ++ (slot.tail.toList ++ ' ' :: '\x7d' :: '\x7d' :: cs)))
      (slot.tokens ts) := by
  have closed : Scans (.code false [] false) (' ' :: '\x7d' :: '\x7d' :: cs) (.next .closing ts) :=
    (h.closing false).blank false
  cases slot with
  | name s isName =>
    have ends : Text.isWordChar ' ' = false := by decide +kernel
    have word := closed.word isName.identifier (by simp [ends]) false
    rw [String.ofList_toList] at word
    exact word.blank false
  | release s isName =>
    have point : Text.isWordChar '.' = false := by decide +kernel
    have bracket : Text.isWordChar '(' = false := by decide +kernel
    have closing : Scans (.code false [')'] false) (')' :: ' ' :: '\x7d' :: '\x7d' :: cs)
        (.next (.mark ")") (.next .closing ts)) :=
      closed.mark (by decide) rfl false
    have opening := closing.two.mark (by decide : ('(', "(") ∈ _) rfl false
    have called : Scans (.code false [] true)
        ("to_string".toList ++ '(' :: '2' :: ')' :: ' ' :: '\x7d' :: '\x7d' :: cs) _ :=
      opening.word (by decide +kernel) (by simp [bracket]) true
    have pointed := called.mark (by decide : ('.', ".") ∈ _) rfl false
    have word := pointed.word isName.identifier (by simp [point]) false
    have tail_eq : (Slot.release s isName).tail.toList =
        '.' :: ("to_string".toList ++ ['(', '2', ')']) := by
      simp [Slot.tail]
    rw [String.ofList_toList] at word
    rw [tail_eq, List.cons_append, List.append_assoc]
    exact word.blank false

theorem Slot.toList_source (slot : Slot) (cs : List Char) :
    slot.source.toList ++ cs =
      '\x7b' :: '\x7b' :: ' ' ::
        (slot.asked.toList ++ (slot.tail.toList ++ ' ' :: '\x7d' :: '\x7d' :: cs)) := by
  simp [Slot.source]

/-- The source of a form is scanned as the tokens of the form. -/
theorem Form.scans_source (form : Form) : Scans .text form.source.toList form.tokens := by
  induction form with
  | nil => exact scans_end
  | cons segment rest ih =>
    have placeholder := ih.slot segment.slot
    have text := placeholder.text segment.isPlain.nonempty segment.isPlain.unopened
    rw [String.ofList_toList, ← Slot.toList_source] at text
    rw [Form.source, String.toList_append, String.toList_append]
    exact text

/-! ### Reading a form -/

/-- A name and a call go through the levels of expressions, the number in the call once more. -/
theorem placeholder_slot {steps : Nat} (enough : 22 ≤ steps) (slot : Slot) (rest : Tokens) :
    placeholder steps (slot.tokens rest) = .ok (slot.expression, rest) := by
  obtain ⟨steps, rfl⟩ := Nat.exists_eq_add_of_le' enough
  cases slot with
  | name s isName => exact placeholder_name isName.free isName.affirmed
  | release s isName => exact placeholder_call isName.free isName.affirmed "to_string" 2

/-- The tokens of a form are read as its parts. -/
theorem parts_tokens (form : Form) {steps count : Nat} (enough : 22 * form.length ≤ steps)
    (counted : 2 * form.length < count) :
    Template.parts steps count form.tokens = .ok form.parts := by
  induction form generalizing count with
  | nil =>
    obtain ⟨count, rfl⟩ := Nat.exists_eq_succ_of_ne_zero (Nat.ne_of_gt counted)
    rfl
  | cons segment rest ih =>
    rw [List.length_cons] at enough counted
    obtain ⟨count, rfl⟩ : ∃ more, count = more + 2 := ⟨count - 2, by omega⟩
    change (placeholder steps (segment.slot.tokens (Form.tokens rest)) >>= _) >>= _ = _
    rw [placeholder_slot (by omega)]
    change ((Template.parts steps count (Form.tokens rest)) >>= _) >>= _ = _
    rw [ih (by omega) (by omega)]
    rfl

/-- Each segment of a form takes two characters of its source at least. -/
theorem Form.length_le_source (form : Form) : 2 * form.length ≤ form.source.toList.length := by
  induction form with
  | nil => exact Nat.zero_le _
  | cons segment rest ih =>
    have slot := congrArg List.length (segment.slot.toList_source [])
    simp only [List.append_nil, List.length_cons] at slot
    simp only [Form.source, String.toList_append, List.length_append, List.length_cons]
    omega

theorem Form.return_not_mem_source (form : Form) : '\r' ∉ form.source.toList := by
  induction form with
  | nil => exact List.not_mem_nil
  | cons segment rest ih =>
    have name := Text.return_not_mem_of_isIdentifier segment.slot.asked_isName.identifier
    have tail : '\r' ∉ segment.slot.tail.toList := by
      cases segment.slot <;> simp [Slot.tail]
    simp only [Form.source, String.toList_append, List.mem_append, Slot.toList_source,
      List.mem_cons]
    rintro (text | slot)
    · exact segment.isPlain.unbroken text
    · simp [name, tail, ih] at slot

/-- The source of a form ends with a placeholder, if it is not empty. -/
theorem Form.source_cases (form : Form) :
    form.source.toList = [] ∨ ∃ front, form.source.toList = front ++ ['\x7d'] := by
  induction form with
  | nil => exact .inl rfl
  | cons segment rest ih =>
    rw [Form.source, String.toList_append, String.toList_append]
    right
    rcases ih with empty | ⟨front, later⟩
    · rw [empty, Slot.toList_source]
      exact ⟨segment.text.toList ++ '\x7b' :: '\x7b' :: ' ' :: (segment.slot.asked.toList ++
        (segment.slot.tail.toList ++ [' ', '\x7d'])), by simp⟩
    · rw [later]
      exact ⟨segment.text.toList ++ (segment.slot.source.toList ++ front), by simp⟩

theorem Form.dropFinalBreak_source (form : Form) :
    dropFinalBreak form.source.toList = form.source.toList := by
  rcases form.source_cases with empty | ⟨front, ends⟩
  · rw [empty]
    rfl
  · simp [ends, dropFinalBreak]

/-- A form is read as its parts. -/
theorem Form.read_source (form : Form) : read form.source = .ok form.parts := by
  have tokens_eq : Template.tokens form.source.toList = form.tokens := by
    rw [Template.tokens, Text.unifyBreaks_of_not_mem form.return_not_mem_source,
      form.dropFinalBreak_source]
    exact form.scans_source _ _ (Nat.lt_succ_self _)
  have length_le := form.length_le_source
  rw [read, tokens_eq]
  exact parts_tokens form (by rw [depth]; omega) (by omega)

/-! ### Rendering a form -/

section Render

variable (name : String) {context : Context}

/-- A name that the context knows stands for what the context says. -/
theorem lookup_of_known {s : String} {t : Thing} (isName : IsName s)
    (known : context.get? s = some t) : lookup name context s = .ok t := by
  rw [lookup, if_neg isName.foreign, known]
  rfl

/-- The method answers with the text of the first two components. -/
theorem answer_release (v : Version) :
    answer (.method (.version v) "to_string") { placed := [.value (.int 2)] } =
      ((v.shortText 2).mapError VersionError.fault).map fun s => .value (.text s) := by
  change Thing.versionText v (.value (.int 2)) = _
  rw [Thing.versionText]
  change (((v.shortText 2).mapError VersionError.fault) >>= _) = _
  cases v.shortText 2 <;> rfl

/-- A placeholder shows what its slot shows. -/
theorem renderPart_slot {slot : Slot} {value : Except Fault String}
    (h : slot.shown? context = some value) :
    renderPart name context (.placeholder slot.expression) = value.mapError .fault := by
  cases slot with
  | name s isName =>
    obtain ⟨t, known, rfl⟩ := Option.map_eq_some_iff.mp h
    simp only [renderPart, evaluate, Slot.expression, find, lookup_of_known name isName known]
    rfl
  | release s isName =>
    rw [Slot.shown?] at h
    split at h
    · next v known =>
      cases h
      -- The version answers for its method, and the method for its text.
      simp only [renderPart, evaluate, Slot.expression, find, findAll, findNamed, present,
        lookup_of_known name isName known, bind_assoc, pure_bind]
      change (answer (.method (.version v) "to_string")
        { placed := [.value (.int 2)] }).mapError TemplateError.fault >>= _ = _
      rw [answer_release]
      cases v.shortText 2 <;> rfl
    · cases h

/-- A text and a placeholder are shown in front of what follows. -/
theorem render_cons (s : String) (e : Expression) (rest : Template) :
    render name context (.text s :: .placeholder e :: rest) =
      renderPart name context (.placeholder e) >>= fun value =>
        (render name context rest).map fun later => s ++ (value ++ later) := by
  rw [render, render, List.mapM_cons, List.mapM_cons]
  cases renderPart name context (.placeholder e) with
  | error e => rfl
  | ok value =>
    cases rest.mapM (renderPart name context) with
    | error e => rfl
    | ok texts =>
      have joined : String.join (s :: value :: texts) = s ++ (value ++ String.join texts) := by
        rw [String.join_cons, String.join_cons]
      exact congrArg Except.ok joined

/-- A form is rendered by putting what its placeholders show in their places, up to the first one
that cannot be shown. -/
theorem Form.render_parts {form : Form} {text : Except Fault String}
    (h : form.fill? context = some text) :
    render name context form.parts = text.mapError .fault := by
  induction form generalizing text with
  | nil =>
    cases h
    rfl
  | cons segment rest ih =>
    rw [Form.fill?] at h
    obtain ⟨value, hvalue, h⟩ := Option.bind_eq_some_iff.mp h
    obtain ⟨later, hlater, h⟩ := Option.bind_eq_some_iff.mp h
    cases h
    rw [Form.parts, render_cons, renderPart_slot name hvalue, ih hlater]
    cases value with
    | error f => rfl
    | ok value => cases later <;> rfl

end Render

end Template

/-- A template with the source of a form is rendered by putting what its placeholders show in their
places, up to the first one that cannot be shown. -/
theorem Templates.render_form {t : Templates} {name : String} {form : Template.Form}
    {context : Context} {text : Except Fault String}
    (found : Assoc.get? t name = some form.source) (foreign : Assoc.has context "self" = false)
    (filled : form.fill? context = some text) : t.render name context = text := by
  have checked : checkContext context = .ok () := by
    rw [checkContext, foreign]
    rfl
  rw [render, found]
  change Except.mapError _ (Template.read form.source >>= _) = _
  rw [form.read_source]
  change Except.mapError _ (checkContext context >>= _) = _
  rw [checked]
  change Except.mapError _ (Template.render name context form.parts) = _
  rw [Template.Form.render_parts name filled]
  cases text <;> rfl

end CodeBehind
