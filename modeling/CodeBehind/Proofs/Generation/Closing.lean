import CodeBehind.Proofs.Generation.Order

/-!
The release of a generator.

A generator that was handed out is closed once, after it was asked to generate and before anything
is made of its outcome. A fault of closing takes the place of that outcome, whatever it was: the
rest of the run is that of a generator which raises this fault itself and can be closed. Otherwise
the outcome is kept (`Uses`). `run_released` says so of every run.
-/

namespace CodeBehind

def TestGenerator.failing (f : Fault) : TestGenerator where
  generate := fun _ _ => .error f
  close := .ok ()

def Request.withGenerator (q : Request) (services : Services) (generator : TestGenerator) :
    Request :=
  { q with provider := .ok { services with create := .ok generator } }

namespace ProjectSetup

variable (p : ProjectSetup) (q : Request)

/-- The run renders these messages and then emits these diagnostics, all of them if it comes to
writing. -/
structure Tells (rest : Run) (messages : List (Option String)) (diagnostics : List Diagnostic) :
    Prop where
  renders : Journal.rendered rest.journal <+: messages
  emits : Journal.diagnosed rest.journal <+: diagnostics
  rendered : Journal.diagnosed rest.journal ≠ [] → Journal.rendered rest.journal = messages
  written : Journal.writerCalls rest.journal ≠ [] →
    Journal.rendered rest.journal = messages ∧ Journal.diagnosed rest.journal = diagnostics

/-- Where no diagnostic is emitted, nothing may be written either. -/
theorem Tells.of_silent {rest : Run} {messages : List (Option String)}
    {diagnostics : List Diagnostic} (renders : Journal.rendered rest.journal <+: messages)
    (undiagnosed : Journal.diagnosed rest.journal = [])
    (unwritten : Journal.writerCalls rest.journal = []) : Tells rest messages diagnostics where
  renders := renders
  emits := undiagnosed ▸ List.nil_prefix
  rendered := fun told => absurd undiagnosed told
  written := fun wrote => absurd unwritten wrote

/-- The rest of a run goes by this outcome of the generator: it writes the code of a success, tells
of the diagnostics of a failed result or of an ordinary fault, and does nothing more after a fault
that interrupts the program. -/
def Uses (rest : Run) : Except Fault GenerationResult → Prop
  | .ok result =>
    if result.isSuccess then
      Journal.rendered rest.journal = [] ∧ Journal.diagnosed rest.journal = [] ∧
        ∃ path fault?, Journal.writerCalls rest.journal = [(path, result.code?.getD "", fault?)]
    else Tells rest (result.errors.map (·.message?)) result.errors
  | .error f =>
    if f.isOrdinary then Tells rest (p.faultMessages q f) [.ofFault f]
    else rest.journal = [] ∧ rest.outcome = .error f

variable {p q}

/-! ### The rest of a run -/

section Publish

variable (t : Target) (channel : Channel)

theorem publish_unrendered (content : Content) :
    Journal.rendered (p.publish q t channel content).journal = [] := by
  have told : (p.announce (content.diagnostics.map .generation) channel).journal.filterMap
      Step.message? = [] :=
    p.announce_unseen_of_diagnostics _ _ (fun _ hs => hs.message?_eq_none) fun _ => rfl
  rw [Journal.rendered, publish_filterMap (fun _ hs => hs.message?_eq_none) (fun _ => rfl), told]
  split <;> rfl

/-- Every diagnostic of the content is emitted before the content is written. -/
theorem publish_diagnosed (content : Content) :
    Journal.diagnosed (p.publish q t channel content).journal <+: content.diagnostics ∧
      (Journal.writerCalls (p.publish q t channel content).journal ≠ [] →
        Journal.diagnosed (p.publish q t channel content).journal = content.diagnostics) := by
  obtain ⟨begins, completes⟩ := p.announce_diagnosed content.diagnostics channel
  have unwriting : (p.announce (content.diagnostics.map .generation) channel).journal.filterMap
      Step.writing? = [] :=
    p.announce_unseen_of_diagnostics _ _ (fun _ hs => hs.writing?_eq_none) fun _ => rfl
  have told : Journal.diagnosed (p.publish q t channel content).journal =
      Journal.diagnosed (p.announce (content.diagnostics.map .generation) channel).journal := by
    rw [Journal.diagnosed, publish_filterMap (fun _ hs => hs.diagnostic?_eq_none) (fun _ => rfl)]
    split <;> exact List.append_nil _
  rw [told]
  constructor
  · exact begins
  · intro wrote
    rw [Journal.writerCalls, publish_filterMap (fun _ hs => hs.writing?_eq_none) (fun _ => rfl),
      unwriting] at wrote
    split at wrote
    · next returned => exact completes returned
    · exact absurd rfl wrote

end Publish

section Finish

variable {t : Target} {code : Except Fault GenerationResult} {messages : List (Option String)}
  {diagnostics : List Diagnostic}

/-- A run tells of what its content consists of. -/
theorem finish_tells (channel : Channel)
    (follows : (p.contentOf q t code).Follows Step.message? messages)
    (holds : ∀ c, (p.contentOf q t code).outcome = .ok c → c.diagnostics = diagnostics) :
    Tells (p.finish q t channel code) messages diagnostics := by
  have undiagnosed : Journal.diagnosed (p.contentOf q t code).journal = [] :=
    Journal.filterMap_eq_nil (fun _ hs => hs.diagnostic?_eq_none) (contentOf_isRendering code)
  have unwriting : Journal.writerCalls (p.contentOf q t code).journal = [] :=
    Journal.filterMap_eq_nil (fun _ hs => hs.writing?_eq_none) (contentOf_isRendering code)
  cases h : (p.contentOf q t code).outcome with
  | error f =>
    have unrendered : Journal.rendered (p.giveUp channel (contentTrouble q) f).journal = [] :=
      p.giveUp_unseen (fun _ hs => hs.message?_eq_none) rfl _ _
    rw [finish, proceed_of_error h]
    refine .of_silent ?_ ?_ ?_
    · rw [Journal.rendered_after, unrendered, List.append_nil]
      exact follows.begins
    · rw [Journal.diagnosed_after, undiagnosed]
      exact p.giveUp_unseen (fun _ hs => hs.diagnostic?_eq_none) rfl _ _
    · rw [Journal.writerCalls_after, unwriting]
      exact p.giveUp_unseen (fun _ hs => hs.writing?_eq_none) rfl _ _
  | ok content =>
    obtain ⟨begins, completes⟩ := publish_diagnosed (p := p) (q := q) t channel content
    rw [holds content h] at begins completes
    have rendered : Journal.rendered ((p.publish q t channel content).after
        (p.contentOf q t code).journal).journal = messages := by
      rw [Journal.rendered_after, publish_unrendered, List.append_nil]
      exact follows.completes content h
    rw [finish, proceed_of_ok h]
    constructor
    · exact rendered ▸ List.prefix_rfl
    · rw [Journal.diagnosed_after, undiagnosed]
      exact begins
    · exact fun _ => rendered
    · rw [Journal.writerCalls_after, unwriting, Journal.diagnosed_after, undiagnosed]
      exact fun wrote => ⟨rendered, completes wrote⟩

/-- What follows the generator goes by its outcome. -/
theorem finish_uses (channel : Channel) (code : Except Fault GenerationResult) :
    p.Uses q (p.finish q t channel code) code := by
  cases code with
  | ok result =>
    cases hsuccess : result.isSuccess with
    | true =>
      let content : Content := { text := result.code?.getD "" }
      have finish_eq : p.finish q t channel (.ok result) = p.publish q t channel content := by
        rw [finish, contentOf_success hsuccess, proceed_of_ok rfl]
        rfl
      rw [Uses, hsuccess, finish_eq]
      refine ⟨publish_unrendered t channel content, ?_, t.output,
        faultOf? (q.writer t.output content.text).outcome, ?_⟩
      · exact List.prefix_nil.mp (publish_diagnosed t channel content).1
      · exact publish_filterMap (fun _ hs => hs.writing?_eq_none) (fun _ => rfl) channel content
    | false =>
      rw [Uses, hsuccess]
      refine finish_tells channel ?_ fun c hc => ?_
      · exact contentOf_failure (p := p) hsuccess ▸ errorContent_follows result.errors
      · rw [contentOf_failure hsuccess] at hc
        obtain ⟨ending, blocks, -, -, rfl⟩ := errorContent_eq_ok hc
        rfl
  | error f =>
    cases hordinary : f.isOrdinary with
    | true =>
      rw [Uses, hordinary]
      refine finish_tells channel ?_ fun c hc => ?_
      · exact contentOf_ordinary (p := p) hordinary ▸ faultContent_follows f
      · rw [contentOf_ordinary hordinary] at hc
        obtain ⟨ending, text, -, -, rfl⟩ := faultContent_eq_ok hc
        rfl
    | false =>
      rw [Uses, hordinary, finish, contentOf_interrupting hordinary, proceed_of_error rfl, giveUp,
        hordinary]
      exact ⟨rfl, rfl⟩

end Finish

/-! ### Up to the generator -/

/-- Up to the generator, a run asks, and reads the input. -/
theorem mem_approach {s : Step} (h : s ∈ p.approach q) :
    s.IsInquiry ∨ s = .call (.read q.input) none := by
  rcases List.mem_append.mp h with h | h
  · simp only [List.mem_cons, List.not_mem_nil, or_false] at h
    rcases h with rfl | rfl | rfl | rfl | rfl
    · exact .inl (.log _)
    · exact .inl (.provideServices _)
    · exact .inl (.projectSettings _)
    · exact .inl (.generatorVersion _)
    · exact .inr rfl
  · obtain ⟨record, -, rfl⟩ := List.mem_map.mp h
    exact .inl (.log record)

theorem approach_unseen {β : Type} {view : Step → Option β}
    (inquiry : ∀ s, s.IsInquiry → view s = none)
    (reading : view (.call (.read q.input) none) = none) :
    (p.approach q).filterMap view = [] := by
  apply List.filterMap_eq_nil_iff.mpr
  intro s hs
  rcases mem_approach hs with h | rfl
  · exact inquiry s h
  · exact reading

theorem approach_not_isGeneratorCall : ∀ s ∈ p.approach q, ¬ s.IsGeneratorCall := by
  intro s hs call
  rcases mem_approach hs with h | rfl
  · exact h.not_isGeneratorCall call
  · cases call

/-- A journal in whose moves no generator takes part has no calls of one. -/
theorem not_isGeneratorCall_of_moves {journal : List Step}
    (h : ∀ m ∈ [Move.createGenerator, .generate, .close], m ∉ Journal.moves journal) :
    ∀ s ∈ journal, ¬ s.IsGeneratorCall := by
  intro s hs call
  cases call with
  | create => exact h .createGenerator (by decide) (List.mem_filterMap.mpr ⟨_, hs, rfl⟩)
  | generate => exact h .generate (by decide) (List.mem_filterMap.mpr ⟨_, hs, rfl⟩)
  | close => exact h .close (by decide) (List.mem_filterMap.mpr ⟨_, hs, rfl⟩)

/-- The generator is not called again after it was closed. -/
theorem finish_not_isGeneratorCall (t : Target) (channel : Channel)
    (code : Except Fault GenerationResult) :
    ∀ s ∈ (p.finish q t channel code).journal, ¬ s.IsGeneratorCall := by
  obtain ⟨n, begins⟩ := finish_moves (p := p) (q := q) t channel code
  apply not_isGeneratorCall_of_moves
  intro m hm mem
  rcases List.mem_append.mp (begins.subset mem) with late | late
  · rw [List.eq_of_mem_replicate late] at hm
    simp at hm
  · rw [List.mem_singleton.mp late] at hm
    simp at hm

/-! ### The release -/

variable (p q) in
/-- How a run goes around the generator that it was handed: `before` it, and in the `rest`. -/
structure Released (channel : Channel) (services : Services) (generator : TestGenerator)
    (file : FeatureFile) (before : List Step) (rest : Run) : Prop where
  provided : q.provider = .ok services
  created : services.create = .ok generator
  run_eq : p.run channel q = rest.after (before ++ generatorSteps generator file)
  elsewhere : ∀ s ∈ before ++ rest.journal, ¬ s.IsGeneratorCall
  unrendered : Journal.rendered before = []
  undiagnosed : Journal.diagnosed before = []
  unwritten : Journal.writerCalls before = []
  replaced : ∀ f, generator.close = .error f →
    p.Uses q rest (.error f) ∧
      p.run channel (q.withGenerator services (.failing f)) =
        rest.after (before ++ generatorSteps (.failing f) file)
  kept : generator.close = .ok () → p.Uses q rest (counted (generator.generate file {}))

/-- A run that has a generator created closes it before anything else is done with its outcome. -/
theorem released_of_created {t : Target} {source : String} {generator : TestGenerator}
    (located : p.Located q t) (fits : p.Fits t.services)
    (reads : (q.reader q.input).outcome = .ok source)
    (created : t.services.create = .ok generator) (channel : Channel) :
    let file := featureFile q.directory t.settings.folder q.input source
    p.Released q channel t.services generator file (p.approach q)
      (p.finish q t channel (codeOutcome generator file)) where
  provided := located.services
  created := created
  run_eq := run_of_created located fits reads created channel
  elsewhere := by
    exact List.forall_mem_append.mpr
      ⟨approach_not_isGeneratorCall, finish_not_isGeneratorCall _ _ _⟩
  unrendered := approach_unseen (fun _ hs => hs.message?_eq_none) rfl
  undiagnosed := approach_unseen (fun _ hs => hs.diagnostic?_eq_none) rfl
  unwritten := approach_unseen (fun _ hs => hs.writing?_eq_none) rfl
  replaced := by
    intro f unclosed
    rw [codeOutcome_of_unclosed unclosed]
    refine ⟨finish_uses channel _, ?_⟩
    let t' : Target :=
      { t with services := { t.services with create := .ok (.failing f) } }
    have located' : p.Located (q.withGenerator t.services (.failing f)) t' :=
      ⟨rfl, located.settings, located.renderer, located.output⟩
    exact run_of_created located' fits reads rfl channel
  kept := by
    intro closed
    rw [codeOutcome_of_closed closed]
    exact finish_uses channel _

/-- A run that does not come to the generator does not call it. -/
theorem not_isGeneratorCall_of_unreached
    (unreached : ¬ ∃ t source, p.Located q t ∧ p.Fits t.services ∧
      (q.reader q.input).outcome = .ok source) (channel : Channel) :
    ∀ s ∈ (p.run channel q).journal, ¬ s.IsGeneratorCall := by
  have course := run_course (p := p) (q := q) channel
  apply not_isGeneratorCall_of_moves
  intro m hm mem
  have early : m ∉ p.opening := by
    have behind : ∀ m ∈ [Move.createGenerator, .generate, .close],
        m ∉ [Move.provideServices, .projectSettings, .generatorVersion] := by decide
    exact not_mem_opening (behind m hm)
  have alone : ∀ m ∈ [Move.createGenerator, .generate, .close], m ≠ .write ∧ m ≠ .read := by
    decide
  generalize Journal.moves (p.run channel q).journal = moves at course mem
  cases course with
  | stuck begins => exact early (begins.subset mem)
  | shut located closed begins =>
    have late := begins.subset ((List.mem_append.mp mem).resolve_left early)
    exact (alone m hm).1 (List.mem_singleton.mp late)
  | unread =>
    have late := (List.mem_append.mp mem).resolve_left early
    exact (alone m hm).2 (List.mem_singleton.mp late)
  | made located fits reads => exact unreached ⟨_, _, located, fits, reads⟩

/-- A generator that was handed out is released, and the rest of the run goes by a fault of the
release or else by the generator's answer. Without a generator there is nothing to close. -/
theorem run_released (p : ProjectSetup) (channel : Channel) (q : Request) :
    let created := Step.call .createGenerator none ∈ (p.run channel q).journal
    (created → ∃ services generator file before rest,
      p.Released q channel services generator file before rest) ∧
    (¬ created → ∀ fault?, Step.call .close fault? ∉ (p.run channel q).journal) := by
  intro created
  -- a generator is asked for only behind an open gate, with the feature file read
  by_cases reached : ∃ t source, p.Located q t ∧ p.Fits t.services ∧
      (q.reader q.input).outcome = .ok source
  · obtain ⟨t, source, located, fits, reads⟩ := reached
    cases hcreate : t.services.create with
    | ok generator =>
      have released := released_of_created located fits reads hcreate channel
      have handed : created := by
        change _ ∈ (p.run channel q).journal
        rw [released.run_eq]
        simp [Run.after, generatorSteps]
      constructor
      · intro _
        exact ⟨_, _, _, _, _, released⟩
      · intro absent
        exact absurd handed absent
    | error f =>
      have run_eq : p.run channel q = (p.finish q t channel (.error f)).after
          (p.approach q ++ [.call .createGenerator (some f)]) := by
        rw [p.run_of_reads q located fits reads, generate_eq_finish,
          generateCode_of_not_created q t hcreate, Run.after_after]
      have calls : ∀ s ∈ (p.run channel q).journal,
          s.IsGeneratorCall → s = .call .createGenerator (some f) := by
        intro s hs call
        rw [run_eq] at hs
        rcases List.mem_append.mp hs with hs | hs
        · rcases List.mem_append.mp hs with hs | hs
          · exact absurd call (approach_not_isGeneratorCall s hs)
          · exact List.mem_singleton.mp hs
        · exact absurd call (finish_not_isGeneratorCall _ _ _ s hs)
      constructor
      · intro h
        cases calls _ h (.create _)
      · intro _ fault? h
        cases calls _ h (.close _)
  · have quiet := not_isGeneratorCall_of_unreached reached channel
    constructor
    · intro h
      exact absurd (.create _) (quiet _ h)
    · intro _ fault? h
      exact quiet _ h (.close _)

end ProjectSetup

end CodeBehind
