import CodeBehind.Proofs.Generation.Stages

/-!
The content of a companion file.

A generator is asked, generates and is closed in one go (`generateCode_of_created`). Its outcome is
then turned into content: code as it is (`contentOf_success`), the diagnostics of a failed result
(`errorContent_follows`, `errorContent_eq_ok`), or those of an ordinary fault
(`faultContent_follows`, `faultContent_eq_ok`). Turning it into content renders diagnostics and does
nothing else (`contentOf_isRendering`).
-/

namespace CodeBehind

namespace Step

/-- A call of a generator, or the call that hands it out. -/
inductive IsGeneratorCall : Step → Prop where
  | create (fault? : Option Fault) : IsGeneratorCall (.call .createGenerator fault?)
  | generate (file : FeatureFile) (settings : GenerationSettings) (fault? : Option Fault) :
      IsGeneratorCall (.call (.generate file settings) fault?)
  | close (fault? : Option Fault) : IsGeneratorCall (.call .close fault?)

theorem IsGeneratorCall.fault?_eq_none {s : Step} (h : s.IsGeneratorCall) : s.fault? = none := by
  cases h <;> rfl

theorem IsGeneratorCall.writing?_eq_none {s : Step} (h : s.IsGeneratorCall) :
    s.writing? = none := by
  cases h <;> rfl

theorem IsInquiry.not_isGeneratorCall {s : Step} (h : s.IsInquiry) : ¬ s.IsGeneratorCall := by
  intro call
  cases h <;> cases call

end Step

namespace ProjectSetup

variable (p : ProjectSetup) (q : Request) (t : Target)

/-! ### The generator -/

def generatorSteps (generator : TestGenerator) (file : FeatureFile) : List Step := [
  .call .createGenerator none,
  .call (.generate file {}) (faultOf? (generator.generate file {})),
  .call .close (faultOf? generator.close)]

def counted : Except Fault (Option GenerationResult) → Except Fault GenerationResult
  | .ok (some result) => .ok result
  | .ok none => .error noResult
  | .error f => .error f

/-- What a generator comes to: a fault of closing it, or else its own answer. -/
def codeOutcome (generator : TestGenerator) (file : FeatureFile) : Except Fault GenerationResult :=
  generator.close >>= fun _ => counted (generator.generate file {})

/-- A fault of closing counts instead of what came before. -/
theorem codeOutcome_of_unclosed {generator : TestGenerator} {f : Fault}
    (h : generator.close = .error f) (file : FeatureFile) :
    codeOutcome generator file = .error f := by
  rw [codeOutcome, h]
  rfl

/-- A generator that is closed has answered for itself. -/
theorem codeOutcome_of_closed {generator : TestGenerator} (h : generator.close = .ok ())
    (file : FeatureFile) : codeOutcome generator file = counted (generator.generate file {}) := by
  rw [codeOutcome, h]
  rfl

theorem codeOutcome_eq_ok {generator : TestGenerator} {file : FeatureFile}
    {result : GenerationResult} (h : codeOutcome generator file = .ok result) :
    generator.generate file {} = .ok (some result) := by
  cases hclose : generator.close with
  | error f =>
    rw [codeOutcome_of_unclosed hclose] at h
    cases h
  | ok _ =>
    rw [codeOutcome_of_closed hclose] at h
    unfold counted at h
    split at h
    · next kept hkept =>
      cases h
      exact hkept
    · cases h
    · cases h

theorem generateCode_of_not_created {f : Fault} (h : t.services.create = .error f)
    (source : String) :
    generateCode q t source = ⟨[.call .createGenerator (some f)], .error f⟩ := by
  rw [generateCode, h]
  rfl

theorem generateCode_of_created {generator : TestGenerator} (h : t.services.create = .ok generator)
    (source : String) :
    let file := featureFile q.directory t.settings.folder q.input source
    generateCode q t source = ⟨generatorSteps generator file, codeOutcome generator file⟩ := by
  intro file
  rw [generateCode, Part.bind_of_ok (x := Part.ask _ t.services.create) h, Part.ask, h,
    generatorSteps, codeOutcome]
  dsimp only
  cases generator.close with
  | error f => rfl
  | ok _ =>
    cases generator.generate file {} with
    | error f => rfl
    | ok result? => cases result? <;> rfl

/-- Having the code generated is nothing but calls of the generator. -/
theorem generateCode_isGeneratorCall (source : String) :
    (generateCode q t source).All Step.IsGeneratorCall := by
  cases hcreate : t.services.create with
  | error f =>
    rw [generateCode_of_not_created q t hcreate]
    exact List.forall_mem_singleton.mpr (.create _)
  | ok generator =>
    rw [generateCode_of_created q t hcreate]
    intro s hs
    simp only [generatorSteps, List.mem_cons, List.not_mem_nil, or_false] at hs
    rcases hs with rfl | rfl | rfl
    · exact .create _
    · exact .generate _ _ _
    · exact .close _

/-! ### Outcomes as content -/

variable {p q t}

/-- The content for a success is its code. -/
theorem contentOf_success {result : GenerationResult} (h : result.isSuccess = true) :
    p.contentOf q t (.ok result) = pure { text := result.code?.getD "" } :=
  if_pos h

theorem contentOf_failure {result : GenerationResult} (h : result.isSuccess = false) :
    p.contentOf q t (.ok result) = p.errorContent t result.errors := by
  rw [contentOf, h]
  rfl

theorem contentOf_ordinary {f : Fault} (h : f.isOrdinary = true) :
    p.contentOf q t (.error f) = p.faultContent q t f :=
  if_pos h

theorem contentOf_interrupting {f : Fault} (h : f.isOrdinary = false) :
    p.contentOf q t (.error f) = .ofOutcome (.error f) := by
  rw [contentOf, h]
  rfl

/-- Diagnostics are rendered without a call of anything. -/
theorem errorContent_isRendering (errors : List Diagnostic) :
    (p.errorContent t errors).All Step.IsRendering := by
  refine (Part.All.log (.log _)).bind ?_
  intro _ _
  refine (Part.All.ofOutcome _).bind ?_
  intro _ _
  refine (Part.All.mapM fun e => ?_).bind fun _ _ => Part.All.ofOutcome (.ok _)
  exact List.forall_mem_singleton.mpr (.render e.message?)

theorem faultContent_isRendering (f : Fault) :
    (p.faultContent q t f).All Step.IsRendering := by
  refine (Part.All.log (.log _)).bind ?_
  intro _ _
  refine (Part.All.ofOutcome _).bind ?_
  intro separator _
  refine Part.All.bind ?_ fun _ _ => Part.All.ofOutcome (.ok _)
  exact List.forall_mem_singleton.mpr (.render _)

/-- Content is made of renderings and nothing else. -/
theorem contentOf_isRendering (code : Except Fault GenerationResult) :
    (p.contentOf q t code).All Step.IsRendering := by
  cases code with
  | ok result =>
    cases h : result.isSuccess with
    | true => exact contentOf_success h ▸ Part.All.ofOutcome (.ok _)
    | false => exact contentOf_failure h ▸ errorContent_isRendering _
  | error f =>
    cases h : f.isOrdinary with
    | true => exact contentOf_ordinary h ▸ faultContent_isRendering f
    | false => exact contentOf_interrupting h ▸ Part.All.ofOutcome _

/-- The messages of a failed result are rendered in order, up to the first that cannot be. -/
theorem errorContent_follows (errors : List Diagnostic) :
    (p.errorContent t errors).Follows Step.message? (errors.map (·.message?)) := by
  refine Part.Follows.silent_bind (.of_eq rfl) ?_
  intro _ _
  refine Part.Follows.silent_bind (.of_eq rfl) ?_
  intro _ _
  exact (Part.Follows.mapM fun _ => .of_eq rfl).bind_silent fun _ _ => .of_eq rfl

theorem render_of_separator {ending : String} (h : p.config.separator = .ok ending)
    (r : Renderer) (message? : Option String) :
    (p.render r message?).outcome = r.renderLines message? ending := by
  rw [render, h]
  rfl

theorem separator_of_text {c : Config} {ending : String} (h : c.lineEnding = .text ending) :
    c.separator = .ok ending := by
  rw [Config.separator, h]

theorem errorContent_eq_ok {errors : List Diagnostic} {c : Content}
    (h : (p.errorContent t errors).outcome = .ok c) :
    ∃ ending blocks, p.config.separator = .ok ending ∧
      errors.mapM (fun e => t.renderer.renderLines e.message? ending) = .ok blocks ∧
      c = { text := ending.intercalate blocks, diagnostics := errors } := by
  simp only [errorContent, Part.bind_eq_ok, Part.outcome_mapM, Part.outcome_liftM] at h
  obtain ⟨-, -, ending, hending, blocks, hblocks, hc⟩ := h
  simp only [render_of_separator hending] at hblocks
  cases hc
  exact ⟨ending, blocks, hending, hblocks, rfl⟩

variable (p q) in
/-- The messages about a fault: one, or none where no line ending can stand inside it. -/
def faultMessages (f : Fault) : List (Option String) :=
  match p.config.separator with
  | .ok ending => [some (faultMessage q f ending)]
  | .error _ => []

/-- For a fault, its one message is rendered. -/
theorem faultContent_follows (f : Fault) :
    (p.faultContent q t f).Follows Step.message? (p.faultMessages q f) := by
  refine Part.Follows.silent_bind (.of_eq rfl) ?_
  intro _ _
  unfold faultMessages
  cases p.config.separator with
  | error g => exact .of_eq rfl
  | ok ending =>
    refine Part.Follows.silent_bind (.of_eq rfl) ?_
    intro separator h
    cases h
    exact Part.Follows.bind_silent (.of_eq rfl) fun _ _ => .of_eq rfl

theorem faultContent_eq_ok {f : Fault} {c : Content}
    (h : (p.faultContent q t f).outcome = .ok c) :
    ∃ ending text, p.config.separator = .ok ending ∧
      t.renderer.renderLines (some (faultMessage q f ending)) ending = .ok text ∧
      c = { text, diagnostics := [.ofFault f] } := by
  simp only [faultContent, Part.bind_eq_ok, Part.outcome_liftM] at h
  obtain ⟨-, -, ending, hending, text, htext, hc⟩ := h
  rw [render_of_separator hending] at htext
  cases hc
  exact ⟨ending, text, hending, htext, rfl⟩

/-- Content is code as the generator gave it, or a number of messages rendered one after the
other. -/
theorem contentOf_eq_ok {code : Except Fault GenerationResult} {c : Content}
    (h : (p.contentOf q t code).outcome = .ok c) :
    (∃ result, code = .ok result ∧ result.isSuccess = true ∧ c.text = result.code?.getD "") ∨
      ∃ ending messages blocks, p.config.separator = .ok ending ∧ messages ≠ [] ∧
        messages.mapM (fun m => t.renderer.renderLines m ending) = .ok blocks ∧
        c.text = ending.intercalate blocks := by
  cases code with
  | ok result =>
    cases hsuccess : result.isSuccess with
    | true =>
      rw [contentOf_success hsuccess] at h
      cases h
      exact .inl ⟨result, rfl, hsuccess, rfl⟩
    | false =>
      rw [contentOf_failure hsuccess] at h
      obtain ⟨ending, blocks, hending, hblocks, rfl⟩ := errorContent_eq_ok h
      refine .inr ⟨ending, result.errors.map (·.message?), blocks, hending, ?_, ?_, rfl⟩
      · intro empty
        rw [GenerationResult.isSuccess, List.map_eq_nil_iff.mp empty] at hsuccess
        cases hsuccess
      · rw [List.mapM_map]
        exact hblocks
  | error f =>
    cases hordinary : f.isOrdinary with
    | true =>
      rw [contentOf_ordinary hordinary] at h
      obtain ⟨ending, text, hending, htext, rfl⟩ := faultContent_eq_ok h
      refine .inr ⟨ending, [some (faultMessage q f ending)], [text], hending, ?_, ?_, ?_⟩
      · exact List.cons_ne_nil _ _
      · rw [List.mapM_cons, htext]
        rfl
      · simp
    | false =>
      rw [contentOf_interrupting hordinary] at h
      cases h

/-! ### The rest of a run -/

/-- All that a view sees of delivering a text is the call of the writer. -/
theorem deliver_filterMap {β : Type} {view : Step → Option β}
    (blind : ∀ s, s.IsAside → view s = none) (h : ∀ f, view (.emit (.other f)) = none)
    (channel : Channel) (text : String) :
    (p.deliver q t channel text).journal.filterMap view =
      (view (.call (.write t.output text)
        (faultOf? (q.writer t.output text).outcome))).toList := by
  have calls := Part.filterMap_askLogged (fun record => blind _ (.log record))
    (.write t.output text) (q.writer t.output text)
  cases houtcome : (Part.askLogged (.write t.output text) (q.writer t.output text)).outcome with
  | ok _ =>
    rw [deliver, proceed_of_ok houtcome, Run.after, List.filterMap_append, calls,
      List.filterMap_cons, blind _ (.log _)]
    exact List.append_nil _
  | error f =>
    rw [deliver, proceed_of_error houtcome, Run.after, List.filterMap_append, calls,
      p.giveUp_unseen blind (h f), List.append_nil]

/-- What a view sees of publishing content, it sees of the diagnostics announced, and then of the
call of the writer, where no handler interrupts. -/
theorem publish_filterMap {β : Type} {view : Step → Option β}
    (blind : ∀ s, s.IsAside → view s = none) (h : ∀ f, view (.emit (.other f)) = none)
    (channel : Channel) (content : Content) :
    let told := p.announce (content.diagnostics.map .generation) channel
    (p.publish q t channel content).journal.filterMap view =
      told.journal.filterMap view ++
        match told.ending with
        | .returned =>
          (view (.call (.write t.output content.text)
            (faultOf? (q.writer t.output content.text).outcome))).toList
        | .raised _ => [] := by
  unfold publish
  dsimp only
  generalize p.announce (content.diagnostics.map .generation) channel = told
  obtain ⟨journal, channel, ending⟩ := told
  cases ending with
  | returned =>
    dsimp only
    rw [Run.after, List.filterMap_append, deliver_filterMap blind h]
  | raised f =>
    dsimp only
    rw [Run.after, List.filterMap_append, p.giveUp_unseen blind (h f)]

variable (p q t)

/-- What follows when a generator has come to its outcome and is closed. -/
def finish (channel : Channel) (code : Except Fault GenerationResult) : Run :=
  p.proceed channel (contentTrouble q) (p.contentOf q t code) (p.publish q t channel)

/-- Making content consists of calls of the generator and of renderings. -/
theorem content_unseen {β : Type} {view : Step → Option β}
    (calls : ∀ s, s.IsGeneratorCall → view s = none)
    (renderings : ∀ s, s.IsRendering → view s = none) (source : String) :
    (p.content q t source).journal.filterMap view = [] := by
  have code := Journal.filterMap_eq_nil calls (generateCode_isGeneratorCall q t source)
  exact (Journal.filterMap_append_of_unseen code _).trans
    (Journal.filterMap_eq_nil renderings (contentOf_isRendering _))

/-- Making the content writes nothing. -/
theorem content_unwriting (source : String) :
    Journal.writerCalls (p.content q t source).journal = [] :=
  p.content_unseen q t (fun _ hs => hs.writing?_eq_none) (fun _ hs => hs.writing?_eq_none) source

/-- A generation is the calls of the generator and what follows from their outcome. -/
theorem generate_eq_finish (channel : Channel) (source : String) :
    p.generate q t channel source =
      (p.finish q t channel (generateCode q t source).outcome).after
        (generateCode q t source).journal := by
  rw [generate, content, finish, proceed_after]

/-- The steps of a run that comes to its generator. -/
def approach : List Step :=
  [.log (.debug ("Generating " ++ q.input ++ " for project '" ++ p.project.name ++ "'")),
    .call .provideServices none, .call .projectSettings none, .call .generatorVersion none,
    .call (.read q.input) none] ++ (q.reader q.input).logs.map .log

/-- A run that has read its input generates from it. -/
theorem run_of_reads {t : Target} {source : String} (located : p.Located q t)
    (fits : p.Fits t.services) (reads : (q.reader q.input).outcome = .ok source)
    (channel : Channel) :
    p.run channel q = (p.generate q t channel source).after (p.approach q) := by
  have asked : (Part.askLogged (.read q.input) (q.reader q.input)).outcome = .ok source := reads
  rw [run, p.prepare_of_fits q located fits, proceed_of_ok rfl]
  dsimp only
  rw [readAndGenerate, proceed_of_ok asked, Part.askLogged, reads, Run.after_after,
    Run.after_after]
  rfl

variable {p q t}

/-- A run with a generator asks it, closes it and goes on with its outcome. -/
theorem run_of_created {source : String} {generator : TestGenerator}
    (located : p.Located q t) (fits : p.Fits t.services)
    (reads : (q.reader q.input).outcome = .ok source)
    (created : t.services.create = .ok generator) (channel : Channel) :
    let file := featureFile q.directory t.settings.folder q.input source
    p.run channel q = (p.finish q t channel (codeOutcome generator file)).after
      (p.approach q ++ generatorSteps generator file) := by
  intro file
  rw [run_of_reads p q located fits reads, generate_eq_finish, generateCode_of_created q t created,
    Run.after_after]

end ProjectSetup

end CodeBehind
