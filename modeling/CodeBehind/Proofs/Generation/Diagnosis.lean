import CodeBehind.Proofs.Generation.Announcement
import CodeBehind.Proofs.Generation.Closing
import CodeBehind.Proofs.Generation.Written
import CodeBehind.Proofs.Language.Rendering

/-!
Diagnostics of a generation that failed.

The diagnostics of a generator are told all together or not at all. Where every line of theirs has
its statement, each is emitted in order, and then their statements are written; where a line has
none, nothing is emitted and nothing written, and the fault of the first such line is reported
(`run_errors_all_or_nothing`). A fault of the generator is one diagnostic, and what is written of it
are the statements for the lines of its message, of its kind and of its trace, one after the other
(`run_tells_fault`).
-/

namespace CodeBehind

/-! ### Steps that tell nothing -/

theorem Step.IsGeneratorCall.diagnostic?_eq_none {s : Step} (h : s.IsGeneratorCall) :
    s.diagnostic? = none := by
  cases h <;> rfl

namespace Journal

/-- No notice is emitted, and the writer is not called. -/
structure IsQuiet (steps : List Step) : Prop where
  diagnosed : diagnosed steps = []
  reported : reported steps = []
  unwritten : writerCalls steps = []

/-- Two quiet stretches are one quiet stretch. -/
theorem IsQuiet.append {steps more : List Step} (h : IsQuiet steps) (hmore : IsQuiet more) :
    IsQuiet (steps ++ more) where
  diagnosed := (filterMap_append_of_unseen h.diagnosed more).trans hmore.diagnosed
  reported := (filterMap_append_of_unseen h.reported more).trans hmore.reported
  unwritten := (filterMap_append_of_unseen h.unwritten more).trans hmore.unwritten

section After

variable {steps : List Step} (h : IsQuiet steps) (r : Run)
include h

theorem IsQuiet.diagnosed_after : Journal.diagnosed (r.after steps).journal =
    Journal.diagnosed r.journal :=
  filterMap_append_of_unseen h.diagnosed r.journal

theorem IsQuiet.reported_after : Journal.reported (r.after steps).journal =
    Journal.reported r.journal :=
  filterMap_append_of_unseen h.reported r.journal

theorem IsQuiet.writerCalls_after : Journal.writerCalls (r.after steps).journal =
    Journal.writerCalls r.journal :=
  filterMap_append_of_unseen h.unwritten r.journal

end After

end Journal

/-! ### The message of a fault -/

/-- The first fault of a rule is ordinary if all of them are. -/
theorem FirstFault.isOrdinary {α β : Type} {rule : α → Except Fault β} {as : List α} {f : Fault}
    (first : FirstFault rule as f) (h : ∀ a, OnlyOrdinary (rule a)) : f.isOrdinary = true := by
  obtain ⟨before, a, after, -, -, raised⟩ := first
  exact h a f raised

/-- The message of a fault is its description, unless that is missing or empty. -/
theorem Fault.summary_eq (f : Fault) :
    f.summary = (f.description?.filter (· ≠ "")).getD f.kind.name := by
  unfold summary
  cases f.description? with
  | none => rfl
  | some text =>
    by_cases empty : text = ""
    · simp [empty, Option.filter_some]
    · simp [empty, Option.filter_some]

namespace ProjectSetup

/-- Texts with a line ending in between have the visible lines of each. -/
theorem visibleLines_intercalate {ending : String} (admitted : ending ∈ Config.lineEndings)
    (texts : List String) :
    Renderer.visibleLines (ending.intercalate texts) = texts.flatMap Renderer.visibleLines := by
  have split := Text.splitLines_intercalate (Language.toList_of_mem_lineEndings admitted)
    (texts.map String.toList)
  rw [Renderer.visibleLines, String.toList_intercalate, split, List.flatMap_map, List.map_flatMap]
  rfl

/-- The kind of a fault can always be seen. -/
theorem visibleLines_source (k : FaultKind) : Renderer.visibleLines k.source ≠ [] := by
  have dot : '.' ∈ k.source.toList := by
    simp [FaultKind.source]
  exact Renderer.visibleLines_ne_nil dot (by decide) (by decide)

/-- Whatever the parts of a fault's message end or begin with, none runs into the next. -/
theorem linesOf_faultMessage {ending : String} (admitted : ending ∈ Config.lineEndings)
    (q : Request) (f : Fault) :
    Renderer.linesOf (some (faultMessage q f ending)) =
      [f.summary, f.kind.source, String.join q.trace].flatMap Renderer.visibleLines := by
  have blank : Renderer.visibleLines "" = [] := rfl
  have lines := visibleLines_intercalate admitted
    [f.summary, "", f.kind.source, String.join q.trace]
  simp only [List.flatMap_cons, blank, List.nil_append] at lines
  rw [← faultMessage] at lines
  have visible : Renderer.visibleLines (faultMessage q f ending) ≠ [] := by
    rw [lines]
    simp [visibleLines_source]
  rw [Renderer.linesOf_of_visible visible, lines]
  rfl

/-! ### Coming to the generator -/

section Arrival

variable (p : ProjectSetup) (q : Request)

/-- A generation comes to the generator of a target with this text of the feature file. -/
structure Arrives (t : Target) (source : String) : Prop where
  located : p.Located q t
  fits : p.Fits t.services
  reads : (q.reader q.input).outcome = .ok source

/-- What the generator of a target is asked to make code of. -/
def fileFor (t : Target) (source : String) : FeatureFile :=
  featureFile q.directory t.settings.folder q.input source

end Arrival

variable {p : ProjectSetup} {q : Request} {t : Target} {source ending : String} {channel : Channel}

variable (p q t source) in
/-- Nothing is told or written until the content is made. -/
theorem isQuiet_approaching (code : Except Fault GenerationResult) :
    Journal.IsQuiet (p.approach q ++ (generateCode q t source).journal ++
      (p.contentOf q t code).journal) := by
  have calls := generateCode_isGeneratorCall q t source
  have rendering := contentOf_isRendering (p := p) (q := q) (t := t) code
  refine .append (.append ?_ ?_) ?_
  · exact ⟨approach_unseen (fun _ hs => hs.diagnostic?_eq_none) rfl,
      approach_unseen (fun _ hs => hs.fault?_eq_none) rfl,
      approach_unseen (fun _ hs => hs.writing?_eq_none) rfl⟩
  · exact ⟨Journal.filterMap_eq_nil (fun _ hs => hs.diagnostic?_eq_none) calls,
      Journal.filterMap_eq_nil (fun _ hs => hs.fault?_eq_none) calls,
      Journal.filterMap_eq_nil (fun _ hs => hs.writing?_eq_none) calls⟩
  · exact ⟨Journal.filterMap_eq_nil (fun _ hs => hs.diagnostic?_eq_none) rendering,
      Journal.filterMap_eq_nil (fun _ hs => hs.fault?_eq_none) rendering,
      Journal.filterMap_eq_nil (fun _ hs => hs.writing?_eq_none) rendering⟩

section Arrives

variable {code : Except Fault GenerationResult} (h : p.Arrives q t source)
  (code_eq : (generateCode q t source).outcome = code)
include h code_eq

/-- A run that comes to the generator goes on with what the generator comes to. -/
theorem Arrives.run_eq : p.run channel q = (p.finish q t channel code).after
    (p.approach q ++ (generateCode q t source).journal) := by
  rw [p.run_of_reads q h.located h.fits h.reads, generate_eq_finish, Run.after_after, code_eq]

/-- Up to its content, a run is quiet; then the content is published. -/
theorem Arrives.publishes {c : Content} (made : (p.contentOf q t code).outcome = .ok c)
    (channel : Channel) :
    ∃ steps, Journal.IsQuiet steps ∧
      p.run channel q = (p.publish q t channel c).after steps := by
  refine ⟨_, isQuiet_approaching p q t source code, ?_⟩
  rw [h.run_eq code_eq, finish, proceed_of_ok made, Run.after_after]

/-- A run whose content cannot be made is quiet, up to giving up. -/
theorem Arrives.givesUp {f : Fault} (unmade : (p.contentOf q t code).outcome = .error f)
    (channel : Channel) :
    ∃ steps, Journal.IsQuiet steps ∧
      p.run channel q = (p.giveUp channel (contentTrouble q) f).after steps := by
  refine ⟨_, isQuiet_approaching p q t source code, ?_⟩
  rw [h.run_eq code_eq, finish, proceed_of_error unmade, Run.after_after]

end Arrives

/-! ### Content that is made or not -/

/-- The content for diagnostics are their blocks, if all of them can be rendered. -/
theorem errorContent_outcome (separator : p.config.separator = .ok ending)
    (errors : List Diagnostic) :
    (p.errorContent t errors).outcome =
      (errors.mapM fun e => t.renderer.renderLines e.message? ending).map fun blocks =>
        { text := ending.intercalate blocks, diagnostics := errors } := by
  simp only [errorContent, Part.outcome_bind, Part.outcome_liftM, Part.outcome_mapM, separator,
    render_of_separator separator]
  cases errors.mapM fun e => t.renderer.renderLines e.message? ending <;> rfl

/-- The content for a fault is its message, if that can be rendered. -/
theorem faultContent_outcome (separator : p.config.separator = .ok ending) (f : Fault) :
    (p.faultContent q t f).outcome =
      (t.renderer.renderLines (some (faultMessage q f ending)) ending).map fun text =>
        { text, diagnostics := [.ofFault f] } := by
  have rendered : (p.faultContent q t f).outcome =
      t.renderer.renderLines (some (faultMessage q f ending)) ending >>= fun text =>
        .ok { text, diagnostics := [.ofFault f] } := by
    simp only [faultContent, Part.outcome_bind, Part.outcome_liftM, separator,
      render_of_separator separator]
    rfl
  rw [rendered]
  cases t.renderer.renderLines (some (faultMessage q f ending)) ending <;> rfl

/-- The content for a fault are the statements of its lines. -/
theorem faultContent_statements (separator : p.config.lineEnding = .text ending)
    (admitted : ending ∈ Config.lineEndings) (f : Fault) :
    (p.faultContent q t f).outcome =
      ((([f.summary, f.kind.source, String.join q.trace].flatMap Renderer.visibleLines).mapM
        t.renderer.statement).mapError Fault.leavingIteration).map fun statements =>
          { text := ending.intercalate statements, diagnostics := [.ofFault f] } := by
  rw [faultContent_outcome (separator_of_text separator), Renderer.renderLines_eq_map,
    linesOf_faultMessage admitted]
  cases List.mapM t.renderer.statement
    ([f.summary, f.kind.source, String.join q.trace].flatMap Renderer.visibleLines) <;> rfl

/-! ### Giving up -/

/-- A fault that interrupts the program is not reported. -/
theorem giveUp_interrupting {f : Fault} (interrupts : f.isOrdinary = false) (trouble : String) :
    Journal.reported (p.giveUp channel trouble f).journal = [] := by
  rw [giveUp, interrupts]
  rfl

theorem giveUp_undiagnosed (trouble : String) (f : Fault) :
    Journal.diagnosed (p.giveUp channel trouble f).journal = [] :=
  p.giveUp_unseen (fun _ hs => hs.diagnostic?_eq_none) rfl channel trouble

theorem giveUp_unwriting (trouble : String) (f : Fault) :
    Journal.writerCalls (p.giveUp channel trouble f).journal = [] :=
  p.giveUp_unseen (fun _ hs => hs.writing?_eq_none) rfl channel trouble

/-- Giving up for an ordinary fault returns nothing. -/
theorem giveUp_outcome (handlers : p.behaviour.IsOrdinary) {f : Fault}
    (ordinary : f.isOrdinary = true) (trouble : String) :
    (p.giveUp channel trouble f).outcome = .ok none := by
  rw [giveUp, if_pos ordinary]
  simp only [announce_returned handlers]

/-! ### Publishing -/

theorem publish_of_returned (handlers : p.behaviour.IsOrdinary) (c : Content) :
    let told := p.announce (c.diagnostics.map .generation) channel
    p.publish q t channel c = (p.deliver q t told.channel c.text).after told.journal := by
  rw [publish, announce_returned handlers]

/-- Delivering calls the writer once. -/
theorem deliver_calls (text : String) :
    Journal.writerCalls (p.deliver q t channel text).journal =
      [(t.output, text, faultOf? (q.writer t.output text).outcome)] :=
  deliver_filterMap (fun _ hs => hs.writing?_eq_none) (fun _ => rfl) channel text

theorem deliver_undiagnosed (text : String) :
    Journal.diagnosed (p.deliver q t channel text).journal = [] :=
  deliver_filterMap (fun _ hs => hs.diagnostic?_eq_none) (fun _ => rfl) channel text

/-- A content with one diagnostic has it emitted, even where handlers interrupt. -/
theorem publish_diagnosed_singleton (text : String) (d : Diagnostic) :
    Journal.diagnosed (p.publish q t channel { text, diagnostics := [d] }).journal = [d] := by
  have told : (p.announce [.generation d] channel).journal.filterMap Step.diagnostic? = [d] :=
    p.announce_singleton_filterMap (fun _ hs => hs.diagnostic?_eq_none) (.generation d) channel
  rw [Journal.diagnosed, publish_filterMap (fun _ hs => hs.diagnostic?_eq_none) (fun _ => rfl),
    List.map_singleton, told]
  split <;> rfl

variable (p) in
/-- The run emits these diagnostics in order, each of them to every handler before the next one, and
then calls the writer once, with this path and this text. -/
structure Publishes (r : Run) (channel : Channel) (diagnostics : List Diagnostic)
    (path text : String) : Prop where
  diagnosed : Journal.diagnosed r.journal = diagnostics
  calls : ∃ fault?, Journal.writerCalls r.journal = [(path, text, fault?)]
  announced : ∃ before told after, r.journal = before ++ told ++ after ∧
    Announced p.behaviour p.depth channel diagnostics told ∧ Journal.writerCalls before = []

/-- The run emits no diagnostic, does not call the writer, returns nothing, and reports this fault
and no other. -/
structure Withholds (r : Run) (f : Fault) : Prop where
  undiagnosed : Journal.diagnosed r.journal = []
  unwritten : Journal.writerCalls r.journal = []
  outcome : r.outcome = .ok none
  reported : Journal.reported r.journal = [f]

/-- A quiet stretch in front of publishing is no obstacle to it. -/
theorem publishes_of_quiet {steps : List Step} (quiet : Journal.IsQuiet steps)
    (handlers : p.behaviour.IsOrdinary) (c : Content) :
    p.Publishes ((p.publish q t channel c).after steps) channel c.diagnostics t.output c.text := by
  let told := p.announce (c.diagnostics.map .generation) channel
  have all : Journal.diagnosed told.journal = c.diagnostics :=
    (p.announce_diagnosed c.diagnostics channel).2 (announce_returned handlers _ _)
  have unwriting : Journal.writerCalls told.journal = [] :=
    p.announce_unseen_of_diagnostics _ _ (fun _ hs => hs.writing?_eq_none) fun _ => rfl
  rw [publish_of_returned handlers]
  constructor
  · rw [quiet.diagnosed_after, Journal.diagnosed_after, all, deliver_undiagnosed, List.append_nil]
  · refine ⟨faultOf? (q.writer t.output c.text).outcome, ?_⟩
    rw [quiet.writerCalls_after, Journal.writerCalls_after, unwriting, deliver_calls]
    rfl
  · exact ⟨steps, told.journal, _, (List.append_assoc ..).symm,
      announce_announced handlers c.diagnostics channel, quiet.unwritten⟩

/-- A run that is quiet up to giving up withholds everything. -/
theorem withholds_of_quiet {steps : List Step} (quiet : Journal.IsQuiet steps)
    (handlers : p.behaviour.IsOrdinary) {f : Fault} (ordinary : f.isOrdinary = true)
    (trouble : String) : Withholds ((p.giveUp channel trouble f).after steps) f where
  undiagnosed := (quiet.diagnosed_after _).trans (giveUp_undiagnosed trouble f)
  unwritten := (quiet.writerCalls_after _).trans (giveUp_unwriting trouble f)
  outcome := giveUp_outcome handlers ordinary trouble
  reported := (quiet.reported_after _).trans (giveUp_reported ordinary channel trouble)

/-! ### Failed results -/

/-- A result of a generator that can be closed is what generating comes to. -/
theorem generateCode_failure {generator : TestGenerator} {result : GenerationResult}
    (created : t.services.create = .ok generator)
    (answer : generator.generate (fileFor q t source) {} = .ok (some result))
    (closed : generator.close = .ok ()) : (generateCode q t source).outcome = .ok result := by
  rw [generateCode_of_created q t created]
  exact (codeOutcome_of_closed closed _).trans (congrArg counted answer)

section Failure

variable {result : GenerationResult} (failed : result.errors ≠ [])
  (separator : p.config.lineEnding = .text ending)
include failed separator

/-- The content for a failed result are the blocks of its diagnostics. -/
theorem contentOf_errors : (p.contentOf q t (.ok result)).outcome =
    (result.errors.mapM fun e => t.renderer.renderLines e.message? ending).map fun blocks =>
      { text := ending.intercalate blocks, diagnostics := result.errors } := by
  have unsuccessful : result.isSuccess = false := by
    rw [GenerationResult.isSuccess, List.isEmpty_eq_false_iff]
    exact failed
  rw [contentOf_failure unsuccessful]
  exact errorContent_outcome (separator_of_text separator) result.errors

omit failed separator in
/-- The blocks cannot be rendered because of the first line of them all that has no statement. -/
theorem mapM_renderLines_errors {f : Fault} :
    (result.errors.mapM fun e => t.renderer.renderLines e.message? ending) = .error f ↔
      ∃ g, FirstFault t.renderer.statement
          (result.errors.flatMap fun e => Renderer.linesOf e.message?) g ∧
        g.leavingIteration = f := by
  have lines_eq : (result.errors.flatMap fun e => Renderer.linesOf e.message?) =
      (result.errors.map (·.message?)).flatMap Renderer.linesOf := (List.flatMap_map _ _ _).symm
  rw [lines_eq, ← Renderer.mapM_renderLines_eq_error ending, List.mapM_map]
  rfl

/-- A line without a statement is the end of a run with a failed result. -/
theorem Arrives.withholds (arrives : p.Arrives q t source)
    (code : (generateCode q t source).outcome = .ok result) (handlers : p.behaviour.IsOrdinary)
    {f : Fault} (first : FirstFault t.renderer.statement
      (result.errors.flatMap fun e => Renderer.linesOf e.message?) f)
    (ordinary : f.isOrdinary = true) (channel : Channel) :
    Withholds (p.run channel q) f.leavingIteration := by
  have unmade : (p.contentOf q t (.ok result)).outcome = .error f.leavingIteration := by
    rw [contentOf_errors failed separator, mapM_renderLines_errors.mpr ⟨f, first, rfl⟩]
    rfl
  obtain ⟨steps, quiet, run_eq⟩ := arrives.givesUp code unmade channel
  rw [run_eq]
  exact withholds_of_quiet quiet handlers (f.leavingIteration_isOrdinary ordinary) _

end Failure

/-- The diagnostics of a failed result are told all or none. Where each of their lines has a
statement, they are emitted and then their blocks are written, with the line ending in between;
where a line has none, only the fault of the first such line is told, as it leaves the joining of
statements. -/
theorem run_errors_all_or_nothing {generator : TestGenerator} {result : GenerationResult}
    (arrives : p.Arrives q t source) (created : t.services.create = .ok generator)
    (answer : generator.generate (fileFor q t source) {} = .ok (some result))
    (closed : generator.close = .ok ()) (failed : result.errors ≠ [])
    (separator : p.config.lineEnding = .text ending) (handlers : p.behaviour.IsOrdinary)
    (statements : ∀ line, OnlyOrdinary (t.renderer.statement line)) (channel : Channel) :
    let lines := result.errors.flatMap fun e => Renderer.linesOf e.message?
    ((∀ line ∈ lines, ∃ statement, t.renderer.statement line = .ok statement) →
      ∃ blocks, List.Forall₂ (fun e block => t.renderer.renderLines e.message? ending = .ok block)
          result.errors blocks ∧
        p.Publishes (p.run channel q) channel result.errors t.output
          (ending.intercalate blocks)) ∧
    ((∃ line ∈ lines, ∃ f, t.renderer.statement line = .error f) →
      ∃ f, FirstFault t.renderer.statement lines f ∧
        Withholds (p.run channel q) f.leavingIteration) := by
  intro lines
  have code := generateCode_failure created answer closed
  constructor
  · intro all
    obtain ⟨made, lines_ok⟩ := exists_mapM_eq_ok_iff.mpr all
    have content := contentOf_errors (q := q) (t := t) failed separator
    cases rendered : result.errors.mapM fun e => t.renderer.renderLines e.message? ending with
    | error f =>
      obtain ⟨g, first, -⟩ := mapM_renderLines_errors.mp rendered
      cases (mapM_eq_error.mpr first).symm.trans lines_ok
    | ok blocks =>
      rw [rendered] at content
      obtain ⟨steps, quiet, run_eq⟩ := arrives.publishes code content channel
      refine ⟨blocks, mapM_eq_ok.mp rendered, ?_⟩
      rw [run_eq]
      exact publishes_of_quiet quiet handlers _
  · intro some_fails
    obtain ⟨f, first⟩ := exists_firstFault some_fails
    exact ⟨f, first, arrives.withholds failed separator code handlers first
      (first.isOrdinary statements) channel⟩

def unsayable : Fault :=
  .builtin "KeyError" "?"

def exhausted : Fault :=
  .builtin "StopIteration" "?"

/-- A language that has no statement for a question mark. -/
def fussy (f : Fault) : Renderer where
  name := "fussy"
  fileExtension := ".fz"
  statement line := if line = "?" then .error f else .ok ("error " ++ line)

def fussyProject (f : Fault) : ProjectSetup where
  project := { name := "Bookshop", referenced? := some ⟨3, 9, 0⟩ }
  registry := { renderers := [("fussy", fussy f)] }
  config := { Config.standard with lineEnding := .text "\r\n" }
  behaviour := fun _ _ => [.raise unsayable]

def fussyTarget (f : Fault) (generator : TestGenerator) : Target where
  services := {
    settings := .ok { folder := "/proj", language? := some "Fussy" }
    version := .ok (some ⟨3, 9, 1⟩)
    create := .ok generator }
  settings := { folder := "/proj", language? := some "Fussy" }
  renderer := fussy f
  output := "Login.feature" ++ ".fz"

def fussyRequest (f : Fault) (generator : TestGenerator) : Request where
  input := "Login.feature"
  provider := .ok (fussyTarget f generator).services
  reader := fun _ => { outcome := .ok "Feature: Login" }
  writer := fun _ _ => { outcome := .ok () }
  directory := "/"
  trace := ["  File \"a.py\"\n", "    raise x\r"]

theorem fussy_found (f : Fault) :
    (fussyProject f).registry.get (some "Fussy") = .ok (fussy f) := by
  rfl

theorem fussy_arrives (f : Fault) (generator : TestGenerator) :
    (fussyProject f).Arrives (fussyRequest f generator) (fussyTarget f generator)
      "Feature: Login" where
  located := {
    services := rfl
    settings := rfl
    renderer := fussy_found f
    output := rfl }
  fits := ⟨⟨3, 9, 0⟩, ⟨3, 9, 1⟩, rfl, rfl, rfl, rfl⟩
  reads := rfl

theorem fussyProject_isOrdinary (f : Fault) : (fussyProject f).behaviour.IsOrdinary := by
  intro handler notice g hg
  cases List.mem_singleton.mp hg
  rfl

/-- The only fault of the language is the one it was made with. -/
theorem fussy_fault {f g : Fault} {line : String} (h : (fussy f).statement line = .error g) :
    g = f := by
  unfold fussy at h
  dsimp only at h
  split at h
  · exact (Except.error.inj h).symm
  · cases h

theorem fussy_firstFault {f g : Fault} {lines : List String}
    (first : FirstFault (fussy f).statement lines g) : g = f := by
  obtain ⟨before, line, after, -, -, raised⟩ := first
  exact fussy_fault raised

/-- A failed result that cannot be told as a whole. -/
def muddle : GenerationResult :=
  { errors := [
      { message? := some "lost\nfound" },
      { message? := some "then\r\n?" },
      { message? := none }] }

def muddled : TestGenerator where
  generate := fun _ _ => .ok (some muddle)
  close := .ok ()

/-- The two diagnostics in front of the one that cannot be said are not told either. -/
theorem run_withholds_muddle :
    Withholds ((fussyProject unsayable).run ⟨["listener"], []⟩ (fussyRequest unsayable muddled))
      unsayable := by
  obtain ⟨f, first, withheld⟩ := (run_errors_all_or_nothing (fussy_arrives unsayable muddled) rfl
    rfl rfl (List.cons_ne_nil _ _) rfl (fussyProject_isOrdinary unsayable)
    (fun line f raised => fussy_fault raised ▸ rfl) ⟨["listener"], []⟩).2
    ⟨"?", by decide, unsayable, rfl⟩
  rw [fussy_firstFault first] at withheld
  exact withheld

/-- What is reported need not be the fault of the line. -/
theorem not_forall_withholds :
    ¬ ∀ (p : ProjectSetup) (q : Request) (t : Target) (source ending : String)
      (generator : TestGenerator) (result : GenerationResult) (channel : Channel),
      p.Arrives q t source → t.services.create = .ok generator →
      generator.generate (fileFor q t source) {} = .ok (some result) →
      generator.close = .ok () → result.errors ≠ [] → p.config.lineEnding = .text ending →
      p.behaviour.IsOrdinary → (∀ line, OnlyOrdinary (t.renderer.statement line)) →
      (∃ line ∈ result.errors.flatMap fun e => Renderer.linesOf e.message?,
        ∃ f, t.renderer.statement line = .error f) →
      ∃ line f, t.renderer.statement line = .error f ∧ Withholds (p.run channel q) f := by
  intro all
  have arrives := fussy_arrives exhausted muddled
  have ordinary := fussyProject_isOrdinary exhausted
  have fails : ∃ line ∈ muddle.errors.flatMap fun e => Renderer.linesOf e.message?,
      ∃ f, (fussy exhausted).statement line = .error f := ⟨"?", by decide, exhausted, rfl⟩
  obtain ⟨f, first⟩ := exists_firstFault fails
  have withheld := arrives.withholds (List.cons_ne_nil _ _) rfl
    (generateCode_failure rfl rfl rfl) ordinary first (fussy_firstFault first ▸ rfl) {}
  obtain ⟨line, g, raised, told⟩ := all _ _ _ _ "\r\n" muddled muddle {} arrives rfl rfl rfl
    (List.cons_ne_nil _ _) rfl ordinary (fun line f raised => fussy_fault raised ▸ rfl) fails
  rw [fussy_firstFault first] at withheld
  rw [fussy_fault raised] at told
  have same := List.singleton_inj.mp (withheld.reported.symm.trans told.reported)
  exact absurd same (by decide)

/-! ### Faults of the generator -/

/-- The generator of a target fails with this fault: it cannot be made, or raises the fault when it
is asked to generate and can be closed, or raises it when it is closed. -/
inductive FailsWith (q : Request) (t : Target) (source : String) (f : Fault) : Prop where
  | creating (raised : t.services.create = .error f)
  | generating {generator : TestGenerator} (created : t.services.create = .ok generator)
      (raised : generator.generate (fileFor q t source) {} = .error f)
      (closed : generator.close = .ok ())
  | closing {generator : TestGenerator} (created : t.services.create = .ok generator)
      (raised : generator.close = .error f)

/-- A generator that fails with a fault comes to this fault. -/
theorem FailsWith.outcome {f : Fault} (h : FailsWith q t source f) :
    (generateCode q t source).outcome = .error f := by
  cases h with
  | creating raised => rw [generateCode_of_not_created q t raised]
  | generating created raised closed =>
    rw [generateCode_of_created q t created]
    exact (codeOutcome_of_closed closed _).trans (congrArg counted raised)
  | closing created raised =>
    rw [generateCode_of_created q t created]
    exact codeOutcome_of_unclosed raised _

variable (q) in
def linesOfFault (f : Fault) : List String :=
  [f.summary, f.kind.source, String.join q.trace].flatMap Renderer.visibleLines

section Failing

variable {f : Fault} (ordinary : f.isOrdinary = true)
  (separator : p.config.lineEnding = .text ending) (admitted : ending ∈ Config.lineEndings)
include ordinary separator admitted

/-- The content for a fault are the statements of its lines. -/
theorem contentOf_fault : (p.contentOf q t (.error f)).outcome =
    (((linesOfFault q f).mapM t.renderer.statement).mapError Fault.leavingIteration).map
      fun statements => {
        text := ending.intercalate statements
        diagnostics := [{ message? := some f.summary }] } := by
  rw [contentOf_ordinary ordinary, faultContent_statements separator admitted]
  rfl

/-- A line without a statement is the end of a run whose generator failed. -/
theorem Arrives.givesUp_fault (arrives : p.Arrives q t source) (fails : FailsWith q t source f)
    {g : Fault} (first : FirstFault t.renderer.statement (linesOfFault q f) g)
    (channel : Channel) : ∃ steps, Journal.IsQuiet steps ∧
      p.run channel q = (p.giveUp channel (contentTrouble q) g.leavingIteration).after steps := by
  have content := contentOf_fault (q := q) (t := t) ordinary separator admitted
  rw [mapM_eq_error.mpr first] at content
  exact arrives.givesUp fails.outcome content channel

end Failing

/-- A fault of the generator is one diagnostic. Where each line of its message, its kind and its
trace has a statement, it is emitted, and nothing but these statements is written; where one has
none, nothing is emitted or written, and the fault of the first such line is reported instead, as it
leaves the joining of statements. -/
theorem run_tells_fault {f : Fault} (arrives : p.Arrives q t source)
    (fails : FailsWith q t source f) (ordinary : f.isOrdinary = true)
    (separator : p.config.lineEnding = .text ending) (admitted : ending ∈ Config.lineEndings)
    (channel : Channel) :
    let message := (f.description?.filter (· ≠ "")).getD f.kind.name
    let lines := [message, f.kind.home ++ "." ++ f.kind.qualname, String.join q.trace].flatMap
      Renderer.visibleLines
    let r := p.run channel q
    ((∀ line ∈ lines, ∃ statement, t.renderer.statement line = .ok statement) →
      ∃ statements, List.Forall₂ (fun line s => t.renderer.statement line = .ok s) lines
          statements ∧
        Journal.diagnosed r.journal = [{ message? := some message }] ∧
        (∀ call ∈ Journal.writerCalls r.journal,
          call.1 = t.output ∧ call.2.1 = ending.intercalate statements) ∧
        (p.behaviour.IsOrdinary → p.Publishes r channel [{ message? := some message }] t.output
          (ending.intercalate statements))) ∧
    ((∃ line ∈ lines, ∃ g, t.renderer.statement line = .error g) →
      ∃ g, FirstFault t.renderer.statement lines g ∧
        Journal.diagnosed r.journal = [] ∧ Journal.writerCalls r.journal = [] ∧
        Journal.reported r.journal =
          if g.leavingIteration.isOrdinary then [g.leavingIteration] else []) := by
  intro message lines r
  have said : f.summary = message := f.summary_eq
  have lines_eq : linesOfFault q f = lines := by
    rw [linesOfFault, said]
    rfl
  constructor
  · intro all
    obtain ⟨statements, made⟩ := exists_mapM_eq_ok_iff.mpr all
    have content := contentOf_fault (q := q) (t := t) ordinary separator admitted
    rw [lines_eq, made, said] at content
    obtain ⟨steps, quiet, (run_eq : r = _)⟩ := arrives.publishes fails.outcome content channel
    refine ⟨statements, mapM_eq_ok.mp made, ?_, ?_, ?_⟩
    · rw [run_eq, quiet.diagnosed_after, publish_diagnosed_singleton]
    · intro call mem
      rw [run_eq, quiet.writerCalls_after] at mem
      exact publish_writes mem
    · intro handlers
      rw [run_eq]
      exact publishes_of_quiet quiet handlers _
  · intro some_fails
    obtain ⟨g, first⟩ := exists_firstFault some_fails
    obtain ⟨steps, quiet, (run_eq : r = _)⟩ :=
      arrives.givesUp_fault ordinary separator admitted fails (lines_eq ▸ first) channel
    refine ⟨g, first, ?_, ?_, ?_⟩
    · rw [run_eq, quiet.diagnosed_after, giveUp_undiagnosed]
    · rw [run_eq, quiet.writerCalls_after, giveUp_unwriting]
    · rw [run_eq, quiet.reported_after]
      cases hg : g.leavingIteration.isOrdinary with
      | true => exact giveUp_reported hg _ _
      | false => exact giveUp_interrupting hg _

/-- A fault whose description ends inside a line ending. -/
def torn : Fault :=
  .builtin "ValueError" "torn\r"

/-- A line ending that the description is torn in does not join it to the next line. -/
theorem fussy_says_torn :
    ([torn.summary, torn.kind.source, "  File \"a.py\"\n    raise x\r"].flatMap
      Renderer.visibleLines).mapM (fussy unsayable).statement =
        .ok ["error torn", "error builtins.ValueError", "error   File \"a.py\"",
          "error     raise x"] := by
  rfl

/-- The fault is told with its description, its kind and its trace, each on lines of its own. -/
theorem run_publishes_torn :
    let generator : TestGenerator := { generate := fun _ _ => .error torn, close := .ok () }
    (fussyProject unsayable).Publishes
      ((fussyProject unsayable).run ⟨["listener"], []⟩ (fussyRequest unsayable generator))
      ⟨["listener"], []⟩ [{ message? := some "torn\r" }] ("Login.feature" ++ ".fz")
      ("\r\n".intercalate ["error torn", "error builtins.ValueError", "error   File \"a.py\"",
        "error     raise x"]) := by
  intro generator
  obtain ⟨statements, made, -, -, publishes⟩ := (run_tells_fault (fussy_arrives unsayable generator)
    (.generating rfl rfl rfl) rfl rfl (by decide) ⟨["listener"], []⟩).1
    (exists_mapM_eq_ok_iff.mp ⟨_, fussy_says_torn⟩)
  cases (mapM_eq_ok.mpr made).symm.trans fussy_says_torn
  exact publishes (fussyProject_isOrdinary unsayable)

/-- A fault that the language has no statement for. -/
def puzzled : Fault :=
  .builtin "ValueError" "?"

/-- Here too, what is reported need not be the fault of the line. -/
theorem not_forall_reports :
    ¬ ∀ (p : ProjectSetup) (q : Request) (t : Target) (source ending : String) (f : Fault)
      (channel : Channel), p.Arrives q t source → FailsWith q t source f → f.isOrdinary = true →
      p.config.lineEnding = .text ending → ending ∈ Config.lineEndings →
      (∀ line, OnlyOrdinary (t.renderer.statement line)) →
      let message := (f.description?.filter (· ≠ "")).getD f.kind.name
      let lines := [message, f.kind.home ++ "." ++ f.kind.qualname, String.join q.trace].flatMap
        Renderer.visibleLines
      (∃ line ∈ lines, ∃ g, t.renderer.statement line = .error g) →
      ∃ line g, t.renderer.statement line = .error g ∧
        Journal.reported (p.run channel q).journal = [g] := by
  intro all
  let generator : TestGenerator := { generate := fun _ _ => .error puzzled, close := .ok () }
  have arrives := fussy_arrives exhausted generator
  have fails : FailsWith (fussyRequest exhausted generator) (fussyTarget exhausted generator)
      "Feature: Login" puzzled := .generating rfl rfl rfl
  have admitted : "\r\n" ∈ Config.lineEndings := by decide
  have question : "?" ∈ linesOfFault (fussyRequest exhausted generator) puzzled := by
    decide
  have fails_there : ∃ line ∈ linesOfFault (fussyRequest exhausted generator) puzzled, ∃ g,
      (fussy exhausted).statement line = .error g := ⟨"?", question, exhausted, rfl⟩
  obtain ⟨g, first⟩ := exists_firstFault fails_there
  obtain ⟨steps, quiet, run_eq⟩ :=
    arrives.givesUp_fault rfl rfl admitted fails first {}
  obtain ⟨line, g', raised, told⟩ := all _ _ _ _ "\r\n" puzzled {} arrives fails rfl rfl admitted
    (fun line f raised => fussy_fault raised ▸ rfl) ⟨"?", question, exhausted, rfl⟩
  rw [run_eq, fussy_firstFault first, quiet.reported_after, giveUp_reported rfl,
    fussy_fault raised] at told
  exact absurd (List.singleton_inj.mp told) (by decide)

end ProjectSetup

end CodeBehind
