import CodeBehind.Proofs.Generation.Announcement
import CodeBehind.Proofs.Generation.Content
import CodeBehind.Proofs.Registry.Change
import CodeBehind.Proofs.Thing.Ordinary

/-!
The two outcomes of a generation.

`pipeline` is a generation that nobody listens to: its stages in a row. It writes one file or none
(`pipeline_writes`). Where nothing raises a fault that interrupts the program (`IsOrdinary`), a run
does what the pipeline does, whoever listens (`run_mirrors`). Hence it either wrote one file and
returns the path (`Run.Wrote`), or reported the fault that stopped it and wrote nothing
(`Run.Reported`).

What handlers emit in their turn belongs to them and is not among the notices of a run.
-/

namespace CodeBehind

namespace Run

/-- The writer was called once and returned, the path it got is returned, and no fault was
reported. -/
structure Wrote (r : Run) (path : String) : Prop where
  outcome : r.outcome = .ok (some path)
  calls : ∃ content, Journal.writerCalls r.journal = [(path, content, none)]
  reported : Journal.reported r.journal = []

/-- Nothing is returned, this fault and no other was reported, and nothing was written. -/
structure Reported (r : Run) (f : Fault) : Prop where
  outcome : r.outcome = .ok none
  reported : Journal.reported r.journal = [f]
  writes : Journal.writes r.journal = []

/-- The run calls the writer as the part does, and reports the fault that ends the part. -/
structure Mirrors (r : Run) (x : Part String) : Prop where
  outcome : r.outcome = .ok x.outcome.toOption
  calls : Journal.writerCalls r.journal = Journal.writerCalls x.journal
  reported : Journal.reported r.journal = (faultOf? x.outcome).toList

/-- A run mirrors its stages behind the same steps, if none of them reports a fault. -/
theorem Mirrors.after {r : Run} {x : Part String} {steps : List Step} (h : r.Mirrors x)
    (unreporting : Journal.reported steps = []) : (r.after steps).Mirrors (x.after steps) where
  outcome := h.outcome
  calls := by
    have calls : r.journal.filterMap Step.writing? = x.journal.filterMap Step.writing? := h.calls
    simp only [Run.after, Part.after, Journal.writerCalls, List.filterMap_append, calls]
  reported := (Journal.filterMap_append_of_unseen unreporting _).trans h.reported

theorem Mirrors.after_unseen {r : Run} {x : Part String} {steps : List Step} (h : r.Mirrors x)
    (unwriting : Journal.writerCalls steps = []) (unreporting : Journal.reported steps = []) :
    (r.after steps).Mirrors x where
  outcome := h.outcome
  calls := (Journal.filterMap_append_of_unseen unwriting _).trans h.calls
  reported := (Journal.filterMap_append_of_unseen unreporting _).trans h.reported

end Run

/-! ### Faults of this library -/

theorem RegistryError.fault_isOrdinary (e : RegistryError) : e.fault.isOrdinary = true := by
  cases e <;> rfl

/-- Comparing versions raises no fault that interrupts the program. -/
theorem Compatibility.check_onlyOrdinary (declared? actual? : Option Version) :
    OnlyOrdinary (check declared? actual?) := by
  unfold check
  split
  · exact .ok _
  · exact .error rfl
  · exact .ok _

theorem Config.separator_onlyOrdinary (c : Config) : OnlyOrdinary c.separator := by
  unfold separator
  split
  · exact .ok _
  · exact .error rfl

namespace ProjectSetup

variable (p : ProjectSetup) (q : Request)

def pipeline : Part String := do
  match ← p.prepare q with
  | .written path => return path
  | .ready t =>
    let source ← Part.askLogged (.read q.input) (q.reader q.input)
    let content ← p.content q t source
    Part.askLogged (.write t.output content.text) (q.writer t.output content.text)
    return t.output

/-- Nothing that takes part in a generation raises a fault that interrupts the program. -/
structure IsOrdinary : Prop where
  provider : OnlyOrdinary q.provider
  settings : ∀ services, q.provider = .ok services → OnlyOrdinary services.settings
  version : ∀ services, q.provider = .ok services → OnlyOrdinary services.version
  create : ∀ services, q.provider = .ok services → OnlyOrdinary services.create
  generate : ∀ services generator file, q.provider = .ok services →
    services.create = .ok generator → OnlyOrdinary (generator.generate file {})
  close : ∀ services generator, q.provider = .ok services →
    services.create = .ok generator → OnlyOrdinary generator.close
  reader : OnlyOrdinary (q.reader q.input).outcome
  writer : ∀ path content, OnlyOrdinary (q.writer path content).outcome
  templates : ∀ name context, OnlyOrdinary (p.templates.render name context)
  statements : ∀ language? renderer, p.registry.get language? = .ok renderer →
    ∀ line, OnlyOrdinary (renderer.statement line)
  handlers : p.behaviour.IsOrdinary

/-! ### Faults of the stages -/

section Ordinary

variable {p q} (h : p.IsOrdinary q)
include h

theorem IsOrdinary.render {language? : Option String} {renderer : Renderer}
    (hr : p.registry.get language? = .ok renderer) (message? : Option String) :
    OnlyOrdinary (p.render renderer message?).outcome := by
  have lines : ∀ ending, OnlyOrdinary (renderer.renderLines message? ending) := by
    intro ending
    refine OnlyOrdinary.bind (OnlyOrdinary.retold (.mapM ?_) ?_) fun _ _ => .ok _
    · exact fun line => h.statements _ _ hr line
    · exact fun f ordinary => f.leavingIteration_isOrdinary ordinary
  exact p.config.separator_onlyOrdinary.bind fun ending _ => lines ending

theorem IsOrdinary.writeMessage {language? : Option String} {renderer : Renderer}
    (hr : p.registry.get language? = .ok renderer) (output : String)
    {message : Except Fault String} (hmessage : OnlyOrdinary message) :
    OnlyOrdinary (p.writeMessage q renderer output message).outcome := by
  apply Part.onlyOrdinary_bind hmessage
  intro text _
  apply Part.onlyOrdinary_bind (h.render hr _)
  intro content _
  exact Part.onlyOrdinary_bind (h.writer output content) fun _ _ => .ok _

/-- Locating a target raises no fault that interrupts the program. -/
theorem IsOrdinary.locate : OnlyOrdinary (p.locate q).outcome := by
  apply Part.onlyOrdinary_bind h.provider
  intro services hservices
  apply Part.onlyOrdinary_bind (h.settings services hservices)
  intro settings _
  refine Part.onlyOrdinary_bind ?_ fun _ _ => .ok _
  cases p.registry.get settings.language? with
  | ok renderer => exact .ok renderer
  | error e => exact .error e.fault_isOrdinary

omit h in
theorem noReferenceWarning_onlyOrdinary : OnlyOrdinary p.noReferenceWarning :=
  (Thing.shown_onlyOrdinary _).bind fun _ _ => .ok _

omit h in
theorem versionConflictWarning_onlyOrdinary (actual? declared? : Option Version) :
    OnlyOrdinary (p.versionConflictWarning actual? declared?) :=
  (Thing.shown_onlyOrdinary _).bind fun _ _ => (Thing.shown_onlyOrdinary _).bind fun _ _ => .ok _

/-- Clearing a target raises no fault that interrupts the program. -/
theorem IsOrdinary.clear {t : Target} (located : p.Located q t) :
    OnlyOrdinary (p.clear q t).outcome := by
  have version : OnlyOrdinary (p.generatorVersion t.services).outcome := by
    unfold ProjectSetup.generatorVersion
    split
    · exact h.version _ located.services
    · exact .ok _
  apply Part.onlyOrdinary_bind version
  intro version? _
  apply Part.onlyOrdinary_bind (Compatibility.check_onlyOrdinary _ _)
  intro found _
  split
  · exact .ok _
  · exact Part.onlyOrdinary_bind (Part.warn_onlyOrdinary noReferenceWarning_onlyOrdinary _)
      fun _ _ => h.writeMessage located.renderer _ (h.templates _ _)
  · exact Part.onlyOrdinary_bind
      (Part.warn_onlyOrdinary (versionConflictWarning_onlyOrdinary _ _) _)
      fun _ _ => h.writeMessage located.renderer _ (h.templates _ _)

theorem IsOrdinary.prepare : OnlyOrdinary (p.prepare q).outcome :=
  Part.onlyOrdinary_bind h.locate fun _ ht => h.clear (p.located_of_locate q ht)

/-- Having the code generated raises no fault that interrupts the program. -/
theorem IsOrdinary.generateCode {t : Target} (located : p.Located q t) (source : String) :
    OnlyOrdinary (generateCode q t source).outcome := by
  cases hcreate : t.services.create with
  | error f =>
    rw [generateCode_of_not_created q t hcreate]
    exact .error (h.create _ located.services f hcreate)
  | ok generator =>
    rw [generateCode_of_created q t hcreate]
    apply (h.close _ _ located.services hcreate).bind
    intro _ _
    let file := featureFile q.directory t.settings.folder q.input source
    have answer := h.generate _ _ file located.services hcreate
    cases hanswer : generator.generate file {} with
    | error f => exact .error (answer f hanswer)
    | ok result? =>
      cases result? with
      | none => exact .error rfl
      | some result => exact .ok result

/-- Making the content raises no fault that interrupts the program. -/
theorem IsOrdinary.content {t : Target} (located : p.Located q t) (source : String) :
    OnlyOrdinary (p.content q t source).outcome := by
  rw [ProjectSetup.content, Part.outcome_after]
  cases hcode : (ProjectSetup.generateCode q t source).outcome with
  | ok result =>
    cases hsuccess : result.isSuccess with
    | true => exact contentOf_success (p := p) hsuccess ▸ .ok _
    | false =>
      rw [contentOf_failure hsuccess]
      apply Part.onlyOrdinary_bind (.ok _)
      intro _ _
      apply Part.onlyOrdinary_bind p.config.separator_onlyOrdinary
      intro _ _
      refine Part.onlyOrdinary_bind ?_ fun _ _ => .ok _
      rw [Part.outcome_mapM]
      exact .mapM fun e => h.render located.renderer e.message?
  | error f =>
    rw [contentOf_ordinary (h.generateCode located source f hcode)]
    apply Part.onlyOrdinary_bind (.ok _)
    intro _ _
    apply Part.onlyOrdinary_bind p.config.separator_onlyOrdinary
    intro _ _
    exact Part.onlyOrdinary_bind (h.render located.renderer _) fun _ _ => .ok _

end Ordinary

end ProjectSetup

/-! ### What the stages write -/

namespace Part

variable {α β : Type} {path? : β → Option String}

/-- A part calls the writer once, with the path that its result names, or else not at all. A call
that fails is the last thing that the part does, up to records of the log. -/
inductive Writes (path? : β → Option String) : Part β → Prop where
  | silent {journal : List Step} {outcome : Except Fault β}
      (calls : Journal.writerCalls journal = [])
      (unnamed : ∀ b, outcome = .ok b → path? b = none) : Writes path? ⟨journal, outcome⟩
  | failed {journal : List Step} {path content : String} {f : Fault}
      (calls : Journal.writerCalls journal = [(path, content, some f)]) :
      Writes path? ⟨journal, .error f⟩
  | written {journal : List Step} {path content : String} {b : β}
      (calls : Journal.writerCalls journal = [(path, content, none)])
      (named : path? b = some path) : Writes path? ⟨journal, .ok b⟩

theorem Writes.after {x : Part β} (hx : x.Writes path?) {steps : List Step}
    (unwriting : Journal.writerCalls steps = []) : (x.after steps).Writes path? := by
  have calls_eq := Journal.filterMap_append_of_unseen unwriting
  cases hx with
  | silent calls unnamed => exact .silent ((calls_eq _).trans calls) unnamed
  | failed calls => exact .failed ((calls_eq _).trans calls)
  | written calls named => exact .written ((calls_eq _).trans calls) named

/-- A part after one that does not write writes as its own rest does. -/
theorem Writes.bind {x : Part α} {next : α → Part β}
    (unwriting : Journal.writerCalls x.journal = [])
    (hnext : ∀ a, x.outcome = .ok a → (next a).Writes path?) : (x >>= next).Writes path? := by
  cases h : x.outcome with
  | ok a =>
    rw [bind_of_ok h]
    exact (hnext a h).after unwriting
  | error f =>
    rw [bind_of_error h]
    exact .silent unwriting fun _ hb => by cases hb

theorem Writes.write {path content : String} (reply : Reply α) {b : β} (h : path? b = some path) :
    (askLogged (.write path content) reply >>= fun _ => pure b).Writes path? := by
  have calls := writerCalls_askLogged path content reply
  obtain ⟨logs, outcome⟩ := reply
  cases outcome with
  | ok a => exact .written ((congrArg _ (List.append_nil _)).trans calls) h
  | error f => exact .failed calls

end Part

/-- The path of a file that is written already. -/
def Prepared.written? : Prepared → Option String
  | .written path => some path
  | .ready _ => none

namespace ProjectSetup

variable (p : ProjectSetup) (q : Request)

theorem writeMessage_writes (r : Renderer) (output : String) (message : Except Fault String) :
    (p.writeMessage q r output message).Writes Prepared.written? := by
  rcases p.writeMessage_cases q r output message with
    ⟨f, outcome, rendering⟩ | ⟨text, content, -, written⟩
  · exact .silent (Journal.isRendering_unwriting rendering) fun b h => by cases outcome.symm.trans h
  · rw [written]
    refine Part.Writes.after ?_ rfl
    exact .write _ rfl

/-- Preparing writes where it returns a path, and nowhere else. -/
theorem Preparation.writes {x : Part Prepared} (h : p.Preparation q x) :
    x.Writes Prepared.written? := by
  cases h with
  | stuck inquiry =>
    exact .silent (Journal.isInquiry_unwriting inquiry) fun _ h => by cases h
  | shut inquiry =>
    exact (p.writeMessage_writes q _ _ _).after (Journal.isInquiry_unwriting inquiry)
  | ready inquiry =>
    refine .silent (Journal.isInquiry_unwriting inquiry) ?_
    intro _ h
    cases h
    rfl

/-- A generation calls the writer once and comes to the path of what it wrote, or comes to a fault
and has written nothing. -/
theorem pipeline_writes : (p.pipeline q).Writes some := by
  have prepared := (p.preparation q).writes
  unfold pipeline
  generalize p.prepare q = x at prepared
  cases prepared with
  | failed calls => exact .failed calls
  | @written journal path content found calls named =>
    cases found with
    | written path' =>
      cases named
      exact .written ((congrArg _ (List.append_nil _)).trans calls) rfl
    | ready t => cases named
  | @silent journal outcome calls unnamed =>
    -- nothing is written yet, so what follows writes for the whole pipeline
    refine .bind calls ?_
    intro found h
    cases found with
    | written path => cases unnamed _ h
    | ready t =>
      refine .bind (Part.filterMap_askLogged (fun _ => rfl) _ _) ?_
      intro source _
      refine .bind (p.content_unwriting q t source) ?_
      intro content _
      exact .write _ rfl

/-! ### Who listens -/

/-- Preparing reports no fault. -/
theorem prepare_unreporting : Journal.reported (p.prepare q).journal = [] := by
  have unseen : ∀ {steps : List Step}, (∀ s ∈ steps, s.IsInquiry) → Journal.reported steps = [] :=
    fun inquiry => Journal.filterMap_eq_nil (fun _ hs => hs.fault?_eq_none) inquiry
  have prepared := p.preparation q
  generalize p.prepare q = x at prepared
  cases prepared with
  | stuck inquiry => exact unseen inquiry
  | ready inquiry => exact unseen inquiry
  | @shut steps t message inquiry =>
    refine (Journal.filterMap_append_of_unseen (unseen inquiry) _).trans ?_
    refine Journal.filterMap_eq_nil (P := (·.fault? = none)) (fun _ hs => hs) ?_
    refine (Part.All.ofOutcome message).bind ?_
    intro _ _
    refine Part.All.bind (List.forall_mem_singleton.mpr rfl) ?_
    intro _ _
    refine Part.All.bind ?_ fun _ _ => .ofOutcome (.ok _)
    exact Part.All.askLogged (P := (·.fault? = none)) rfl fun _ => rfl

theorem content_unreporting (t : Target) (source : String) :
    Journal.reported (p.content q t source).journal = [] :=
  p.content_unseen q t (fun _ hs => hs.fault?_eq_none) (fun _ hs => hs.fault?_eq_none) source

section Listeners

variable {p q} (h : p.IsOrdinary q) (channel : Channel)
include h

/-- A run that gives up mirrors stages that fail. -/
theorem giveUp_mirrors (trouble : String) {f : Fault} (ordinary : f.isOrdinary = true) :
    (p.giveUp channel trouble f).Mirrors ⟨[], .error f⟩ := by
  have returned := announce_returned h.handlers [.other f] channel
  have seen := (p.announce_filterMap (fun _ hs => hs.fault?_eq_none) [.other f] channel).2 returned
  rw [giveUp, if_pos ordinary]
  constructor
  · simp only [returned]
    rfl
  · exact p.announce_unseen (fun _ hs => hs.writing?_eq_none)
      (List.forall_mem_singleton.mpr rfl) channel
  · exact seen

/-- A run that goes on with a part mirrors the part and what follows. -/
theorem proceed_mirrors {α : Type} (trouble : String) {part : Part α} {next : α → Run}
    {rest : α → Part String} (ordinary : OnlyOrdinary part.outcome)
    (unreporting : Journal.reported part.journal = [])
    (hnext : ∀ a, part.outcome = .ok a → (next a).Mirrors (rest a)) :
    (p.proceed channel trouble part next).Mirrors (part >>= rest) := by
  cases hpart : part.outcome with
  | ok a =>
    rw [proceed_of_ok hpart, Part.bind_of_ok hpart]
    exact (hnext a hpart).after unreporting
  | error f =>
    rw [proceed_of_error hpart, Part.bind_of_error hpart]
    have mirrors := (giveUp_mirrors h channel trouble (ordinary f hpart)).after unreporting
    rwa [Part.after, List.append_nil] at mirrors

/-- Delivering mirrors the call of the writer. -/
theorem deliver_mirrors (t : Target) (text : String) :
    (p.deliver q t channel text).Mirrors (do
      Part.askLogged (.write t.output text) (q.writer t.output text)
      return t.output) := by
  refine proceed_mirrors h channel _ (h.writer _ _) ?_ fun _ _ => ⟨rfl, rfl, rfl⟩
  exact Part.filterMap_askLogged (fun _ => rfl) _ _

/-- Generating mirrors making the content and then writing it. -/
theorem generate_mirrors {t : Target} (located : p.Located q t) (source : String) :
    (p.generate q t channel source).Mirrors (do
      let content ← p.content q t source
      Part.askLogged (.write t.output content.text) (q.writer t.output content.text)
      return t.output) := by
  refine proceed_mirrors h channel _ (h.content located source) (p.content_unreporting q t source)
    fun content _ => ?_
  rw [publish, announce_returned h.handlers (content.diagnostics.map .generation) channel]
  refine (deliver_mirrors h _ t content.text).after_unseen ?_ ?_
  · exact p.announce_unseen_of_diagnostics _ _ (fun _ hs => hs.writing?_eq_none) fun _ => rfl
  · exact p.announce_unseen_of_diagnostics _ _ (fun _ hs => hs.fault?_eq_none) fun _ => rfl

/-- Reading and generating mirrors the stages from the reader on. -/
theorem readAndGenerate_mirrors {t : Target} (located : p.Located q t) :
    (p.readAndGenerate q channel t).Mirrors (do
      let source ← Part.askLogged (.read q.input) (q.reader q.input)
      let content ← p.content q t source
      Part.askLogged (.write t.output content.text) (q.writer t.output content.text)
      return t.output) := by
  refine proceed_mirrors h channel _ h.reader ?_ fun source _ =>
    generate_mirrors h channel located source
  exact Part.filterMap_askLogged (fun _ => rfl) _ _

/-- Whoever listens, a run does what the stages in a row do. -/
theorem run_mirrors : (p.run channel q).Mirrors (p.pipeline q) := by
  refine Run.Mirrors.after_unseen ?_ rfl rfl
  apply proceed_mirrors h channel _ h.prepare (p.prepare_unreporting q)
  intro found hfound
  cases found with
  | written path => exact ⟨rfl, rfl, rfl⟩
  | ready t => exact readAndGenerate_mirrors h channel (p.ready_of_prepare q hfound).1

end Listeners

/-- Where nothing interrupts the program, a generation has one of two outcomes, and never both. It
wrote one file and returns its path, or it reported the fault that stopped it and wrote nothing. -/
theorem run_wrote_or_reported (channel : Channel) (h : p.IsOrdinary q) :
    let r := p.run channel q
    (∃ path, (p.pipeline q).outcome = .ok path ∧ r.Wrote path ∧ ∀ f, ¬ r.Reported f) ∨
      ∃ f, (p.pipeline q).outcome = .error f ∧ r.Reported f ∧ ∀ path, ¬ r.Wrote path := by
  intro r
  obtain ⟨outcome, calls, reported⟩ := run_mirrors h channel
  have writes := p.pipeline_writes q
  generalize p.pipeline q = x at outcome calls reported writes
  cases writes with
  | written hcalls named =>
    cases named
    refine .inl ⟨_, rfl, ⟨outcome, ⟨_, calls.trans hcalls⟩, reported⟩, fun f wrong => ?_⟩
    cases outcome.symm.trans wrong.outcome
  | @failed journal path content f hcalls =>
    refine .inr ⟨f, rfl, ⟨outcome, reported, ?_⟩, fun path wrong => ?_⟩
    · exact Journal.writes_of_failed (calls.trans hcalls)
    · cases outcome.symm.trans wrong.outcome
  | @silent journal ending hcalls unnamed =>
    cases ending with
    | ok path => cases unnamed path rfl
    | error f =>
      refine .inr ⟨f, rfl, ⟨outcome, reported, ?_⟩, fun path wrong => ?_⟩
      · exact Journal.writes_of_unwriting (calls.trans hcalls)
      · cases outcome.symm.trans wrong.outcome

/-! ### A generation in which much fails -/

def speechless : Fault :=
  ⟨.builtin "OSError", none⟩

def unheard : ProjectSetup where
  project := { name := "Bookshop", referenced? := some ⟨3, 9, 0⟩ }
  behaviour := fun _ _ => [.raise speechless]
  templates := ⟨fun name _ => .error (.builtin "TemplateError" name)⟩

/-- A request whose generator fails and cannot be closed, and whose writer fails. -/
def unwritable : Request where
  input := "Features/Login.feature"
  provider := .ok {
    settings := .ok { folder := "/proj", language? := some " VB.net " }
    version := .ok (some ⟨3, 9, 1⟩)
    create := .ok { generate := fun _ _ => .error noResult, close := .error speechless } }
  reader := fun _ => { outcome := .ok "Feature: Login" }
  writer := fun _ _ => { logs := [.debug "writing"], outcome := .error speechless }
  directory := "/"

/-- No bundled language fails on a line. -/
theorem bundled_statement_onlyOrdinary {language? : Option String} {renderer : Renderer}
    (h : Registry.bundled.get language? = .ok renderer) (line : String) :
    OnlyOrdinary (renderer.statement line) := by
  obtain ⟨key, -, found⟩ := Registry.get_eq_ok.mp h
  have bundled : Registry.bundled.renderers =
      [("csharp", Language.csharp), ("vb", Language.visualBasic), ("python", Language.python)] := by
    rfl
  have mem := Assoc.mem_of_get? found
  rw [bundled] at mem
  simp only [List.mem_cons, Prod.mk.injEq, List.not_mem_nil, or_false] at mem
  rcases mem with ⟨-, rfl⟩ | ⟨-, rfl⟩ | ⟨-, rfl⟩ <;> exact .ok _

theorem unheard_isOrdinary : unheard.IsOrdinary unwritable where
  provider := .ok _
  settings := by
    rintro services ⟨⟩
    exact .ok _
  version := by
    rintro services ⟨⟩
    exact .ok _
  create := by
    rintro services ⟨⟩
    exact .ok _
  generate := by
    rintro services generator file ⟨⟩ ⟨⟩
    exact .error rfl
  close := by
    rintro services generator ⟨⟩ ⟨⟩
    exact .error rfl
  reader := .ok _
  writer := fun _ _ => .error rfl
  templates := fun _ _ => .error rfl
  statements := fun _ _ h line => bundled_statement_onlyOrdinary h line
  handlers := by
    intro handler notice f hf
    cases List.mem_singleton.mp hf
    rfl

/-- A fault without a description is reported although listeners, closing and writing fail. -/
theorem run_reported_unwritable :
    unheard.IsOrdinary unwritable ∧
      (unheard.run ⟨["listener"], ["listener"]⟩ unwritable).Reported speechless := by
  refine ⟨unheard_isOrdinary, ?_⟩
  have stopped : (unheard.pipeline unwritable).outcome = .error speechless := by rfl
  rcases unheard.run_wrote_or_reported unwritable ⟨["listener"], ["listener"]⟩
      unheard_isOrdinary with ⟨path, wrote, -⟩ | ⟨f, reported, told, -⟩
  · cases stopped.symm.trans wrote
  · cases stopped.symm.trans reported
    exact told

end ProjectSetup

end CodeBehind
